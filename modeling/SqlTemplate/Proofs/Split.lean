import Mathlib.Data.List.Infix
import SqlTemplate.Proofs.Run

/-!
# Splitting a text

The text of a query can be split into fragments again. Braces cut the text as they cut its
fragments (`splitFrom_append`), and the fragments between two braces hold a skip exactly if the text
there holds a marker (`any_isSkip_splitFrom`). How the markers of a text overlap, and where a skip
stood that is written next to other text, therefore make no difference to its blocks.

What is left of a text that can be resolved is put together from its marker-free parts between
braces. It has no braces. But two parts without a marker can make a text with one, so what is left
can be resolved once more, unchanged, exactly if the parts do not join to a marker
(`ofText_leaves_iff`).
-/

namespace SqlTemplate

/-- Whether a code point is one of the two braces. -/
def isBraceChar (c : Char) : Bool :=
  c = '{' || c = '}'

theorem isBraceChar_eq_false_iff {c : Char} : isBraceChar c = false ↔ c ≠ '{' ∧ c ≠ '}' := by
  simp [isBraceChar]

/-! ## Where a marker can stand -/

theorem not_isBraceChar_of_mem_skipMarker : ∀ c ∈ skipMarker, isBraceChar c = false := by
  simp [skipMarker, isBraceChar]

/-- A marker at the head of a text lies in front of the first brace. -/
theorem skipMarker_prefix_of_append {s rest : Text}
    (hrest : ∀ c ∈ rest.head?, isBraceChar c = true) (h : skipMarker <+: s ++ rest) :
    skipMarker <+: s := by
  rcases List.prefix_or_prefix_of_prefix h (List.prefix_append s rest) with hmarker | ⟨t, ht⟩
  · exact hmarker
  · rw [← ht, List.prefix_append_right_inj] at h
    cases t with
    | nil => exact ⟨[], by simpa using ht.symm⟩
    | cons c t =>
      -- the marker would reach the brace behind `s`, and holds none
      obtain ⟨u, rfl⟩ := h
      have hbrace : isBraceChar c = true := hrest c rfl
      have hmem : c ∈ skipMarker := ht ▸ List.mem_append_right s List.mem_cons_self
      rw [not_isBraceChar_of_mem_skipMarker c hmem] at hbrace
      cases hbrace

theorem not_skipMarker_prefix_of_isBraceChar {c : Char} (hc : isBraceChar c = true) (rest : Text) :
    ¬ skipMarker <+: c :: rest := by
  rintro ⟨t, ht⟩
  cases ht
  cases hc

/-- Where no marker starts at its head, a text holds a marker if its tail does. -/
theorem skipMarker_infix_cons {c : Char} {rest : Text} (h : ¬ skipMarker <+: c :: rest) :
    skipMarker <:+: c :: rest ↔ skipMarker <:+: rest := by
  rw [List.infix_cons_iff, or_iff_right h]

namespace Fragment

/-! ## Steps of a split -/

/-- The fragment of a brace. -/
def ofBrace (c : Char) (position : Int) : Fragment :=
  if c = '{' then opening position else closing position

section Braces

variable {c : Char} (hc : isBraceChar c = true) (position : Int)

include hc

theorem ofBrace_cases :
    ofBrace c position = opening position ∧ c = '{' ∨
      ofBrace c position = closing position ∧ c = '}' := by
  simp only [isBraceChar, Bool.or_eq_true, decide_eq_true_eq] at hc
  rcases hc with rfl | rfl
  · exact .inl ⟨rfl, rfl⟩
  · exact .inr ⟨rfl, rfl⟩

theorem text_ofBrace : (ofBrace c position).text = [c] := by
  rcases ofBrace_cases hc position with ⟨h, rfl⟩ | ⟨h, rfl⟩ <;> rfl

theorem isBrace_ofBrace : (ofBrace c position).isBrace = true := by
  rcases ofBrace_cases hc position with ⟨h, rfl⟩ | ⟨h, rfl⟩ <;> rfl

theorem isSkip_ofBrace : (ofBrace c position).isSkip = false := by
  rcases ofBrace_cases hc position with ⟨h, rfl⟩ | ⟨h, rfl⟩ <;> rfl

theorem kind_ofBrace_ne_text : (ofBrace c position).kind ≠ .text := by
  rcases ofBrace_cases hc position with ⟨h, rfl⟩ | ⟨h, rfl⟩ <;> exact nofun

end Braces

section Steps

variable {n : Nat} {c : Char} {rest : Text}

theorem splitFrom_nil : splitFrom n [] = [] := by
  rw [splitFrom]

theorem splitFrom_brace (hc : isBraceChar c = true) :
    splitFrom n (c :: rest) = ofBrace c n :: splitFrom (n + 1) rest := by
  rcases ofBrace_cases hc n with ⟨h, rfl⟩ | ⟨h, rfl⟩
  · rw [splitFrom, if_pos rfl, h]
  · rw [splitFrom, if_neg (by decide), if_pos rfl, h]

theorem splitFrom_marker :
    splitFrom n (skipMarker ++ rest) = skip n :: splitFrom (n + skipMarker.length) rest := by
  have hmarker : skipMarker.isPrefixOf (skipMarker ++ rest) = true :=
    List.isPrefixOf_iff_prefix.mpr (List.prefix_append ..)
  show splitFrom n ('_' :: (skipMarker.tail ++ rest)) = _
  rw [splitFrom, if_neg (by decide), if_neg (by decide)]
  exact if_pos hmarker

/-- A code point that starts neither a brace nor a marker joins the text behind it. -/
theorem splitFrom_text (hc : isBraceChar c = false) (hmarker : ¬ skipMarker <+: c :: rest) :
    splitFrom n (c :: rest) = consText c n (splitFrom (n + 1) rest) := by
  rw [isBraceChar_eq_false_iff] at hc
  rw [splitFrom, if_neg hc.1, if_neg hc.2, if_neg]
  rwa [List.isPrefixOf_iff_prefix]

end Steps

/-- Induction along the steps of a split. -/
theorem induction_on_split {motive : Text → Prop} (nil : motive [])
    (brace : ∀ c rest, isBraceChar c = true → motive rest → motive (c :: rest))
    (marker : ∀ rest, motive rest → motive (skipMarker ++ rest))
    (text : ∀ c rest, isBraceChar c = false → ¬ skipMarker <+: c :: rest → motive rest →
      motive (c :: rest)) (s : Text) : motive s := by
  match s with
  | [] => exact nil
  | c :: rest =>
    -- a marker is taken away whole, and anything else one code point at a time
    by_cases hmarker : skipMarker <+: c :: rest
    · obtain ⟨t, ht⟩ := hmarker
      have hlength : t.length ≤ rest.length := by
        have hmarker : 0 < skipMarker.length := by decide
        have hsum := congrArg List.length ht
        rw [List.length_append, List.length_cons] at hsum
        omega
      exact ht ▸ marker t (induction_on_split nil brace marker text t)
    · have hrest : motive rest := induction_on_split nil brace marker text rest
      cases hc : isBraceChar c with
      | true => exact brace c rest hc hrest
      | false => exact text c rest hc hmarker hrest
termination_by s.length

/-! ## Text in front of fragments -/

/-- Text is added to the fragments in front, also where none of these is text but the first of those
behind is none either. -/
theorem consText_append (c : Char) (position : Int) (fs : List Fragment) {gs : List Fragment}
    (h : ∀ g ∈ gs.head?, g.kind ≠ .text) :
    consText c position (fs ++ gs) = consText c position fs ++ gs := by
  cases fs with
  | nil =>
    -- with nothing between, the code point would join text behind it
    cases gs with
    | nil => rfl
    | cons g gs =>
      have hg : g.kind ≠ .text := h g rfl
      rw [List.nil_append, consText.eq_def]
      split
      · rename_i heq
        cases heq
        exact absurd rfl hg
      · rfl
  | cons f fs =>
    rw [List.cons_append, consText.eq_def, consText.eq_def]
    split <;> simp_all

theorem any_isSkip_consText (c : Char) (position : Int) (fs : List Fragment) :
    (consText c position fs).any isSkip = fs.any isSkip := by
  unfold consText
  split <;> simp [isSkip]

theorem forall_isBrace_consText {c : Char} {position : Int} {fs : List Fragment}
    (h : ∀ f ∈ fs, f.isBrace = false) : ∀ f ∈ consText c position fs, f.isBrace = false := by
  unfold consText
  split
  · rw [List.forall_mem_cons] at h ⊢
    exact ⟨rfl, h.2⟩
  · exact List.forall_mem_cons.mpr ⟨rfl, h⟩

/-! ## The fragments of a text -/

/-- A split loses nothing: the fragments put together are the text. -/
theorem flatMap_text_splitFrom (n : Nat) (s : Text) :
    (splitFrom n s).flatMap Fragment.text = s := by
  induction s using induction_on_split generalizing n with
  | nil => rw [splitFrom_nil, List.flatMap_nil]
  | brace c rest hc ih =>
    rw [splitFrom_brace hc, List.flatMap_cons, ih, text_ofBrace hc, List.singleton_append]
  | marker rest ih => rw [splitFrom_marker, List.flatMap_cons, ih, skip]
  | text c rest hc hmarker ih => rw [splitFrom_text hc hmarker, flatMap_text_consText, ih]

/-- The fragments of a text hold a skip exactly if the text holds a marker. -/
theorem any_isSkip_splitFrom (n : Nat) (s : Text) :
    (splitFrom n s).any isSkip = decide (skipMarker <:+: s) := by
  induction s using induction_on_split generalizing n with
  | nil => simp [splitFrom_nil, skipMarker]
  | brace c rest hc ih =>
    have hinfix := skipMarker_infix_cons (not_skipMarker_prefix_of_isBraceChar hc rest)
    rw [splitFrom_brace hc, List.any_cons, ih, isSkip_ofBrace hc, Bool.false_or,
      decide_eq_decide.mpr hinfix]
  | marker rest ih =>
    have hinfix : skipMarker <:+: skipMarker ++ rest := (List.prefix_append ..).isInfix
    rw [splitFrom_marker, List.any_cons, decide_eq_true hinfix]
    rfl
  | text c rest hc hmarker ih =>
    have hinfix := skipMarker_infix_cons hmarker
    rw [splitFrom_text hc hmarker, any_isSkip_consText, ih, decide_eq_decide.mpr hinfix]

/-- A text without braces has no fragment that is one. -/
theorem forall_isBrace_splitFrom {s : Text} (h : ∀ c ∈ s, isBraceChar c = false) (n : Nat) :
    ∀ f ∈ splitFrom n s, f.isBrace = false := by
  induction s using induction_on_split generalizing n with
  | nil => rw [splitFrom_nil]; exact nofun
  | brace c rest hc ih =>
    rw [h c List.mem_cons_self] at hc
    cases hc
  | marker rest ih =>
    rw [List.forall_mem_append] at h
    rw [splitFrom_marker]
    exact List.forall_mem_cons.mpr ⟨rfl, ih h.2 _⟩
  | text c rest hc hmarker ih =>
    rw [List.forall_mem_cons] at h
    rw [splitFrom_text hc hmarker]
    exact forall_isBrace_consText (ih h.2 _)

/-- In front of a brace, and at the end, no text goes on. -/
theorem kind_head_splitFrom {rest : Text} (hrest : ∀ c ∈ rest.head?, isBraceChar c = true)
    (n : Nat) : ∀ f ∈ (splitFrom n rest).head?, f.kind ≠ .text := by
  intro f hf
  cases rest with
  | nil =>
    rw [splitFrom_nil] at hf
    cases hf
  | cons c rest =>
    have hc : isBraceChar c = true := hrest c rfl
    rw [splitFrom_brace hc] at hf
    cases hf
    exact kind_ofBrace_ne_text hc n

/-- A text that is cut at a brace is split part by part. -/
theorem splitFrom_append (s rest : Text)
    (hrest : ∀ c ∈ rest.head?, isBraceChar c = true) (n : Nat) :
    splitFrom n (s ++ rest) = splitFrom n s ++ splitFrom (n + s.length) rest := by
  induction s using induction_on_split generalizing n with
  | nil => rw [splitFrom_nil]; rfl
  | brace c s hc ih =>
    rw [List.cons_append, splitFrom_brace hc, splitFrom_brace hc, ih, List.length_cons,
      Nat.add_right_comm]
    rfl
  | marker s ih =>
    rw [List.append_assoc, splitFrom_marker, splitFrom_marker, ih, List.length_append,
      Nat.add_assoc]
    rfl
  | text c s hc hmarker ih =>
    have hmarker' : ¬ skipMarker <+: c :: (s ++ rest) :=
      fun h => hmarker (skipMarker_prefix_of_append hrest h)
    rw [List.cons_append, splitFrom_text hc hmarker, splitFrom_text hc hmarker', ih,
      consText_append _ _ _ (kind_head_splitFrom hrest _), List.length_cons, Nat.add_right_comm]
    rfl

/-- The runs of the fragments are the parts of the text between braces, with a skip in those that
hold a marker. -/
theorem map_splitOnP_splitFrom (n : Nat) (s : Text) :
    ((splitFrom n s).splitOnP isBrace).map (fun run =>
        (run.flatMap Fragment.text, run.any isSkip)) =
      (s.splitOnP isBraceChar).map fun part => (part, decide (skipMarker <:+: part)) := by
  induction s using induction_on_runs isBraceChar generalizing n with
  | last part hpart =>
    rw [List.splitOnP_eq_singleton hpart,
      List.splitOnP_eq_singleton (forall_isBrace_splitFrom hpart n), List.map_singleton,
      List.map_singleton, flatMap_text_splitFrom, any_isSkip_splitFrom]
  | more part c rest hpart hc ih =>
    have hsplit : splitFrom n (part ++ c :: rest) =
        splitFrom n part ++ ofBrace c (n + part.length : Nat) ::
          splitFrom (n + part.length + 1) rest := by
      rw [splitFrom_append part (c :: rest) (by simpa using hc), splitFrom_brace hc]
    rw [hsplit, List.splitOnP_append_cons_of_forall_mem hpart c hc,
      List.splitOnP_append_cons_of_forall_mem (forall_isBrace_splitFrom hpart n) _
        (isBrace_ofBrace hc _), List.map_cons, List.map_cons, ih, flatMap_text_splitFrom,
      any_isSkip_splitFrom]

end Fragment

/-! ## What is left of a text -/

/-- The parts of a text between braces that hold no marker. -/
def keptParts (s : Text) : List Text :=
  (s.splitOnP isBraceChar).filter fun part => !decide (skipMarker <:+: part)

namespace Resolution

/-- What is left of runs is what is left of their texts. -/
theorem sql_ofRuns (runs : List (List Fragment)) :
    (ofRuns runs).sql =
      ((runs.map fun run => (run.flatMap Fragment.text, run.any Fragment.isSkip)).filter
        fun part => !part.2).flatMap Prod.fst := by
  rw [ofRuns, List.filter_map, List.flatMap_map]
  rfl

/-- What is left of a text are its parts without markers, put together. -/
theorem sql_of_ofText {s : Text} {resolution : Resolution} (h : ofText s = .ok resolution) :
    resolution.sql = (keptParts s).flatten := by
  rw [eq_ofRuns h, sql_ofRuns, Fragment.ofText, Fragment.map_splitOnP_splitFrom, keptParts,
    List.filter_map, List.flatMap_map, ← List.flatMap_id]
  rfl

/-- A text without braces and markers is left as it is. -/
theorem ofText_of_plain {s : Text} (hbrace : ∀ c ∈ s, isBraceChar c = false)
    (hmarker : ¬ skipMarker <:+: s) : ofText s = .ok ⟨s, 0⟩ := by
  have hrun := Fragment.forall_isBrace_splitFrom hbrace 0
  have hskip : (Fragment.splitFrom 0 s).any Fragment.isSkip = false := by
    rw [Fragment.any_isSkip_splitFrom, decide_eq_false hmarker]
  rw [ofText, ofFragments, Fragment.ofText, ← List.append_nil (Fragment.splitFrom 0 s),
    ofFragmentsIn_run hrun hskip, Fragment.flatMap_text_splitFrom]
  simp [ofFragmentsIn, Except.map, addText]

/-- A text without braces that holds a marker has a skip outside blocks. -/
theorem ofText_of_marker {s : Text} (hbrace : ∀ c ∈ s, isBraceChar c = false)
    (hmarker : skipMarker <:+: s) :
    ∃ position, ofText s = .error (.skipOutsideBlock position) := by
  have hrun := Fragment.forall_isBrace_splitFrom hbrace 0
  have hskip : (Fragment.splitFrom 0 s).any Fragment.isSkip = true := by
    rw [Fragment.any_isSkip_splitFrom, decide_eq_true hmarker]
  rw [ofText, ofFragments, Fragment.ofText, ← List.append_nil (Fragment.splitFrom 0 s)]
  exact ofFragmentsIn_run_skip [] hrun hskip

end Resolution

theorem not_isBraceChar_of_mem_splitOnP {s part : Text} (h : part ∈ s.splitOnP isBraceChar) :
    ∀ c ∈ part, isBraceChar c = false := by
  induction s using induction_on_runs isBraceChar with
  | last run hrun =>
    rw [List.splitOnP_eq_singleton hrun, List.mem_singleton] at h
    exact h ▸ hrun
  | more run c rest hrun hc ih =>
    rw [List.splitOnP_append_cons_of_forall_mem hrun c hc, List.mem_cons] at h
    rcases h with rfl | h
    · exact hrun
    · exact ih h

theorem not_isBraceChar_of_mem_keptParts {s : Text} :
    ∀ c ∈ (keptParts s).flatten, isBraceChar c = false := by
  intro c hc
  obtain ⟨part, hpart, hmem⟩ := List.mem_flatten.mp hc
  exact not_isBraceChar_of_mem_splitOnP (List.mem_of_mem_filter hpart) c hmem

/-- **What is left of a text that can be resolved.** It is the parts of the text between braces that
hold no marker, in order. There is no brace in it. There is no marker in it, and it can be resolved
again and stays as it is, exactly if these parts do not join to a text with a marker; if they do,
there is a skip outside blocks when it is resolved again. -/
theorem ofText_leaves_iff {s : Text} {resolution : Resolution}
    (h : Resolution.ofText s = .ok resolution) :
    resolution.sql = (keptParts s).flatten ∧
    (∀ c ∈ resolution.sql, c ≠ '{' ∧ c ≠ '}') ∧
    (¬ skipMarker <:+: resolution.sql ∧
        Resolution.ofText resolution.sql = .ok ⟨resolution.sql, 0⟩ ↔
      ¬ skipMarker <:+: (keptParts s).flatten) ∧
    (skipMarker <:+: (keptParts s).flatten →
      ∃ position, Resolution.ofText resolution.sql = .error (.skipOutsideBlock position)) := by
  have hsql : resolution.sql = (keptParts s).flatten := Resolution.sql_of_ofText h
  have hbrace : ∀ c ∈ resolution.sql, isBraceChar c = false :=
    hsql ▸ not_isBraceChar_of_mem_keptParts
  rw [← hsql]
  refine ⟨rfl, ?_, ?_, ?_⟩
  · intro c hc
    simpa [isBraceChar] using hbrace c hc
  · exact ⟨And.left, fun hmarker => ⟨hmarker, Resolution.ofText_of_plain hbrace hmarker⟩⟩
  · exact Resolution.ofText_of_marker hbrace

/-- One block is dropped for its marker, and one is kept. -/
theorem ofText_leaves_iff_of_blocks :
    Resolution.ofText "x\x7b y = __SKIP__\x7d\x7b z = 1\x7d w".toList =
        .ok ⟨"x z = 1 w".toList, 1⟩ ∧
      ¬ skipMarker <:+: "x z = 1 w".toList ∧
      Resolution.ofText "x z = 1 w".toList = .ok ⟨"x z = 1 w".toList, 0⟩ := by
  have h : Resolution.ofText "x\x7b y = __SKIP__\x7d\x7b z = 1\x7d w".toList =
      .ok ⟨"x z = 1 w".toList, 1⟩ := by cbv
  obtain ⟨hsql, -, hagain, -⟩ := ofText_leaves_iff h
  have hmarker : ¬ skipMarker <:+: "x z = 1 w".toList := by decide
  rw [← hsql] at hagain
  exact ⟨h, hagain.mpr hmarker⟩

/-- The two halves of a marker, one of them in a block, are left as a marker, which is a skip
outside blocks when the text is resolved again. -/
theorem ofText_leaves_marker :
    Resolution.ofText "__SK\x7bIP__\x7d".toList = .ok ⟨skipMarker, 0⟩ ∧
      Resolution.ofText skipMarker = .error (.skipOutsideBlock 0) :=
  ⟨by cbv, by cbv⟩

end SqlTemplate
