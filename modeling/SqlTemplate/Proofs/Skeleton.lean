import Mathlib.Data.List.Forall2
import SqlTemplate.Proofs.Idiom

/-!
# The quote skeleton of a query

Seen from far off, a query is the code points outside quotes, with a mark for every quoted region.
This *skeleton* is what decides how a query is taken apart; what stands inside the regions is data.

A reader goes over the query once, from left to right, and remembers where it stands:

* a region ends at its quote, unless the quote is written twice;
* where the dialect escapes by backslashes, a backslash in a single-quoted region takes the next
  code point with it, whatever that is.

Behind a quote that may end a region the reader does not know yet whether it did. Two literals that
touch therefore run together into one region, and what a text adds to the skeleton depends on where
it is read from. `Alike` says that two texts add the same and leave the reader in the same place,
from wherever outside a region they are read.
-/

namespace SqlTemplate

/-- Where a reader of a query stands with respect to quotes. -/
inductive QuoteState
  | outside
  | inside (quote : Quote)
  /-- Inside, behind a backslash that takes the next code point with it. -/
  | escaped (quote : Quote)
  /-- Behind a quote that ends the region, unless the next code point is that quote again. -/
  | closing (quote : Quote)
  deriving DecidableEq, Repr

/-- A piece of a skeleton. -/
inductive SkeletonPiece
  /-- A code point outside quotes. -/
  | code (c : Char)
  /-- A whole quoted region. -/
  | region (quote : Quote)
  deriving DecidableEq, Repr

namespace QuoteState

/-- Whether the reader stands in no region, or behind one that may have ended. -/
def isClosed : QuoteState → Bool
  | outside | closing _ => true
  | inside _ | escaped _ => false

/-- Reads a code point outside: a quote opens a region, and anything else is part of the
skeleton. -/
def enter (c : Char) : QuoteState × List SkeletonPiece :=
  match Quote.ofChar? c with
  | some quote => (inside quote, [.region quote])
  | none => (outside, [.code c])

/-- Reads one code point: where the reader stands then, and what is added to the skeleton. -/
def step (backslash : Bool) : QuoteState → Char → QuoteState × List SkeletonPiece
  | outside, c => enter c
  | inside quote, c =>
    if c = quote.char then (closing quote, [])
    else if backslash && quote = .single && c = '\\' then (escaped quote, [])
    else (inside quote, [])
  | escaped quote, _ => (inside quote, [])
  | closing quote, c => if c = quote.char then (inside quote, []) else enter c

/-- Reads a text from a state on, and gives the state behind it and the skeleton of what was
read. -/
def read (backslash : Bool) : QuoteState → Text → QuoteState × List SkeletonPiece
  | state, [] => (state, [])
  | state, c :: rest =>
    let (next, pieces) := step backslash state c
    let (last, later) := read backslash next rest
    (last, pieces ++ later)

/-- Two texts are read one after the other, the second from where the first has left off. -/
theorem read_append (backslash : Bool) (state : QuoteState) (s t : Text) :
    read backslash state (s ++ t) =
      ((read backslash (read backslash state s).1 t).1,
        (read backslash state s).2 ++ (read backslash (read backslash state s).1 t).2) := by
  induction s generalizing state with
  | nil => rfl
  | cons c s ih => simp only [List.cons_append, read, ih, List.append_assoc]

/-- A code point that is no quote closes a region that might have gone on. -/
theorem step_of_isClosed {backslash : Bool} {state : QuoteState} {c : Char}
    (hstate : state.isClosed) (hc : Quote.ofChar? c = none) :
    step backslash state c = (outside, [.code c]) := by
  have henter : enter c = (outside, [.code c]) := by rw [enter, hc]
  cases state with
  | outside => exact henter
  | closing quote =>
    have hne := Quote.ne_char_of_ofChar? hc quote
    rw [step, if_neg hne, henter]
  | inside quote => cases hstate
  | escaped quote => cases hstate

/-- Outside a region, a quote starts one, or goes on with the one that it may have ended. -/
theorem step_quote {backslash : Bool} {state : QuoteState} (hstate : state.isClosed)
    (quote : Quote) :
    step backslash state quote.char =
      (inside quote, if state = closing quote then [] else [.region quote]) := by
  have henter : enter quote.char = (inside quote, [.region quote]) := by
    rw [enter, Quote.ofChar?_char]
  cases state with
  | outside => exact henter
  | closing last =>
    -- the same quote again takes the end of the region back
    by_cases hsame : last = quote
    · rw [step, hsame, if_pos rfl, if_pos rfl]
    · have hne : quote.char ≠ last.char := fun h => hsame (Quote.char_injective h.symm)
      rw [step, if_neg hne, henter, if_neg (by simpa using hsame)]
  | inside _ => cases hstate
  | escaped _ => cases hstate

end QuoteState

/-- The skeleton of a query. `backslash` says whether a backslash escapes in its text literals. -/
def skeleton (backslash : Bool) (sql : Text) : List SkeletonPiece :=
  (QuoteState.read backslash .outside sql).2

/-- Whether every quoted region of a query has its end. -/
def quotesClosed (backslash : Bool) (sql : Text) : Bool :=
  (QuoteState.read backslash .outside sql).1.isClosed

/-! ## Texts that read alike -/

/-- From wherever outside a region they are read, the texts add the same to the skeleton and leave
the reader in the same place, which is again outside a region. -/
def Alike (backslash : Bool) (s t : Text) : Prop :=
  ∀ state : QuoteState, state.isClosed →
    QuoteState.read backslash state s = QuoteState.read backslash state t ∧
      (QuoteState.read backslash state s).1.isClosed

namespace Alike

variable {backslash : Bool} {s s' t t' : Text}

theorem nil : Alike backslash [] [] :=
  fun _ hstate => ⟨rfl, hstate⟩

/-- Two texts are alike if both are alike to a third. -/
theorem trans_symm {u : Text} (hs : Alike backslash s u) (ht : Alike backslash t u) :
    Alike backslash s t :=
  fun state hstate => ⟨(hs state hstate).1.trans (ht state hstate).1.symm, (hs state hstate).2⟩

/-- What is put together from texts that are alike is alike: the reader is outside a region where
the second text starts. -/
theorem append (hs : Alike backslash s s') (ht : Alike backslash t t') :
    Alike backslash (s ++ t) (s' ++ t') := by
  intro state hstate
  obtain ⟨hread, hclosed⟩ := hs state hstate
  -- both readers have come to one state, from which the second texts are read
  obtain ⟨hread', hclosed'⟩ := ht _ hclosed
  rw [QuoteState.read_append, QuoteState.read_append, ← hread, ← hread']
  exact ⟨rfl, hclosed'⟩

theorem of_unquoted (h : ∀ c ∈ s, Quote.ofChar? c = none) : Alike backslash s s := by
  induction s with
  | nil => exact nil
  | cons c s ih =>
    intro state hstate
    have hstep : QuoteState.step backslash state c = (.outside, [.code c]) :=
      QuoteState.step_of_isClosed hstate (h c List.mem_cons_self)
    have htail := ih (fun d hd => h d (List.mem_cons_of_mem c hd)) .outside rfl
    exact ⟨rfl, by simpa only [QuoteState.read, hstep] using htail.2⟩

theorem skeleton_eq (h : Alike backslash s t) : skeleton backslash s = skeleton backslash t :=
  congrArg Prod.snd (h .outside rfl).1

theorem quotesClosed_left (h : Alike backslash s t) : quotesClosed backslash s = true :=
  (h .outside rfl).2

theorem quotesClosed_right (h : Alike backslash s t) : quotesClosed backslash t = true := by
  have hclosed := (h .outside rfl).2
  rwa [(h .outside rfl).1] at hclosed

/-- Parts that are alike one by one are alike with commas between them. -/
theorem commaSeparated {parts parts' : List Text}
    (h : List.Forall₂ (Alike backslash) parts parts') :
    Alike backslash (Text.commaSeparated parts) (Text.commaSeparated parts') := by
  have hcomma : Alike backslash [',', ' '] [',', ' '] :=
    of_unquoted (Quote.unquoted_of_all (by decide))
  induction h with
  | nil => exact nil
  | cons hpart hparts ih =>
    cases hparts with
    | nil => simpa [Text.commaSeparated, List.intercalate] using hpart
    | cons hnext hrest =>
      have happend := hpart.append (hcomma.append ih)
      simpa [Text.commaSeparated, List.intercalate] using happend

end Alike

/-! ## What stands between quotes -/

/-- Inside a region, the text adds nothing to the skeleton and leaves the reader inside. -/
def StaysInside (backslash : Bool) (quote : Quote) (s : Text) : Prop :=
  QuoteState.read backslash (.inside quote) s = (.inside quote, [])

namespace StaysInside

variable {backslash : Bool} {quote : Quote} {s t : Text}

theorem append (hs : StaysInside backslash quote s) (ht : StaysInside backslash quote t) :
    StaysInside backslash quote (s ++ t) := by
  unfold StaysInside at *
  rw [QuoteState.read_append, hs, ht, List.append_nil]

/-- What stays inside code point by code point stays inside as a whole. -/
theorem flatMap {f : Char → Text} (h : ∀ c, StaysInside backslash quote (f c)) :
    StaysInside backslash quote (s.flatMap f) := by
  induction s with
  | nil => rfl
  | cons c s ih =>
    rw [List.flatMap_cons]
    exact (h c).append ih

/-- A text in which every quote is written twice stays inside that quote, unless a backslash
escapes there. -/
theorem double (h : (backslash && quote = .single) = false) :
    StaysInside backslash quote (s.double quote.char) := by
  refine flatMap fun c => ?_
  by_cases hc : c = quote.char
  · simp [StaysInside, QuoteState.read, QuoteState.step, hc]
  · simp [StaysInside, QuoteState.read, QuoteState.step, hc, h]

/-- A text that is escaped with backslashes stays inside, where backslashes escape. -/
theorem flatMap_backslashChar : StaysInside true .single (s.flatMap TextEscaper.backslashChar) := by
  refine flatMap fun c => ?_
  unfold TextEscaper.backslashChar
  split
  -- a code point that is written by itself is neither the quote nor a backslash
  case h_8 hslash hquote _ _ =>
    have hne : c ≠ '\'' := hquote
    have hne' : c ≠ '\\' := hslash
    simp [StaysInside, QuoteState.read, QuoteState.step, Quote.char, hne, hne']
  all_goals rfl

/-- A region whose text stays inside starts at its first quote and may end at its last. -/
theorem read_region (hs : StaysInside backslash quote s) {state : QuoteState}
    (hstate : state.isClosed) :
    QuoteState.read backslash state (quote.char :: (s ++ [quote.char])) =
      (.closing quote, if state = .closing quote then [] else [.region quote]) := by
  have hinside : QuoteState.read backslash (.inside quote) (s ++ [quote.char]) =
      (.closing quote, []) := by
    rw [QuoteState.read_append, hs]
    simp [QuoteState.read, QuoteState.step]
  rw [QuoteState.read, QuoteState.step_quote hstate]
  simp [hinside]

/-- Text stays inside the quotes of its idiom. -/
theorem escaped (idiom : Idiom) (s : Text) :
    StaysInside idiom.backslash .single (idiom.escaped s) := by
  obtain ⟨quote, backslash, words⟩ := idiom
  cases backslash with
  | false => exact double rfl
  | true => exact flatMap_backslashChar

/-- Two texts that stay inside are alike once they stand between quotes. -/
theorem alike (hs : StaysInside backslash quote s) (ht : StaysInside backslash quote t) :
    Alike backslash (quote.char :: (s ++ [quote.char])) (quote.char :: (t ++ [quote.char])) := by
  intro state hstate
  rw [hs.read_region hstate, ht.read_region hstate]
  exact ⟨rfl, rfl⟩

end StaysInside

end SqlTemplate
