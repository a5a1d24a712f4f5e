import SqlTemplate.Proofs.Meaning
import SqlTemplate.Proofs.Run
import SqlTemplate.Proofs.Scanned

/-!
# Which fault is reported

Much can be wrong with a template and its arguments at once, and a build reports one thing. Which
one that is can be read off the template and the arguments, without scanning or resolving anything.
There are four kinds of faults, and a fault of one kind hides all those of the kinds after it:

* a question mark with a letter that is no specifier (`invalidSpecifierAt?`);
* another number of question marks than of arguments (`wrongCount?`);
* an argument that cannot be written (`unwritableAt?`);
* a brace or a skip in the wrong place (`brokenStructure?`).

Of the faults of one kind the one that stands first in the template is reported (`build_fault`).
Offsets are those in the template, wherever in the SQL they would come to stand.

Each stage is followed from an offset on. `fault?_scanFrom`, `fault?_fillTokens` and
`fault?_ofFragmentsIn` say that what stops it is the first fault of its kind in the rest of the
template. The last two go by induction on the tokens (`Token.Scanned`).
-/

namespace SqlTemplate

/-- What stops a computation, if it is stopped. -/
def fault? {ε α : Type} : Except ε α → Option ε
  | .ok _ => none
  | .error cause => some cause

section Results

variable {ε ε' α β : Type} (x : Except ε α)

@[simp]
theorem fault?_map (f : α → β) : fault? (x.map f) = fault? x := by
  cases x <;> rfl

@[simp]
theorem fault?_mapError (f : ε → ε') : fault? (x.mapError f) = (fault? x).map f := by
  cases x <;> rfl

theorem exists_of_fault?_eq_none {x : Except ε α} (h : fault? x = none) : ∃ a, x = .ok a := by
  cases x with
  | ok a => exact ⟨a, rfl⟩
  | error cause => cases h

theorem mapError_eq_ok {f : ε → ε'} {a : α} (h : x.mapError f = .ok a) : x = .ok a := by
  cases x with
  | ok b => exact congrArg Except.ok (Except.ok.inj h)
  | error cause => cases h

/-- A computation that goes on where another one has succeeded is stopped where that one is, or else
where it is stopped itself. -/
theorem fault?_bind {f : α → Except ε β} {later? : Option ε}
    (h : ∀ a, x = .ok a → fault? (f a) = later?) :
    fault? (x >>= f) = (fault? x <|> later?) := by
  cases x with
  | ok a => exact h a rfl
  | error cause => rfl

theorem orElse_assoc (x? y? z? : Option ε) : ((x? <|> y?) <|> z?) = (x? <|> y? <|> z?) := by
  cases x? <;> rfl

end Results

/-! ## Faults by offset -/

/-- The first fault of a template, if `faultAt?` tells what is wrong at an offset. -/
def firstFault? {ε : Type} (faultAt? : Text → Nat → Option ε) (template : Text) : Option ε :=
  (List.range template.length).findSome? (faultAt? template)

/-- At the offset there is a question mark, and behind it a letter that is no specifier. -/
def invalidSpecifierAt? (template : Text) (i : Nat) : Option QueryError :=
  match template.drop i with
  | '?' :: c :: _ =>
    if c.isAlpha ∧ c ∉ ['d', 'f', 'a'] then some (.invalidSpecifier [c] (some i)) else none
  | _ => none

/-- There are more question marks than arguments, or fewer where that is not allowed. -/
def wrongCount? (builder : Builder) (template : Text) (supplied : Nat) : Option QueryError :=
  let expected := template.count '?'
  if supplied < expected || expected < supplied && !builder.options.allowExtraArgs then
    some (.argumentCount expected supplied)
  else none

/-- The argument that is taken by a question mark at the offset. -/
def argumentAt? (arguments : List Argument) (template : Text) (i : Nat) : Option Argument :=
  arguments[(template.take i).count '?']?

/-- At the offset there is a question mark, and its argument, unless it is skipped, cannot be
written. -/
def unwritableAt? (builder : Builder) (arguments : List Argument) (template : Text) (i : Nat) :
    Option Fault :=
  match template.drop i, argumentAt? arguments template i with
  | '?' :: rest, some argument =>
    if argument.isSkip then none
    else fault? (builder.literal (rest.head?.bind Specifier.ofChar?) argument).result
  | _, _ => none

/-- The offset of the last brace before the given offset, if it is an opening one. -/
def openBlock? (template : Text) : Nat → Option Nat
  | 0 => none
  | i + 1 =>
    match template[i]? with
    | some '{' => some i
    | some '}' => none
    | _ => openBlock? template i

/-- At the offset there is an opening brace inside a block, or a closing brace or the question mark
of a skipped argument outside. -/
def misplacedAt? (arguments : List Argument) (template : Text) (i : Nat) : Option QueryError :=
  match template.drop i, openBlock? template i with
  | '{' :: _, some _ => some (.nestedBlock i)
  | '}' :: _, none => some (.unbalancedBrace ['}'] i)
  | '?' :: _, none =>
    if (argumentAt? arguments template i).any Argument.isSkip then some (.skipOutsideBlock i)
    else none
  | _, _ => none

/-- A block is still open at the end. -/
def unclosed? (template : Text) : Option QueryError :=
  (openBlock? template template.length).map fun i => .unbalancedBrace ['{'] i

/-- A brace or a skip in the wrong place, and behind all of them a block that is never closed. -/
def brokenStructure? (arguments : List Argument) (template : Text) : Option QueryError :=
  firstFault? (misplacedAt? arguments) template <|> unclosed? template

/-! ## Going on in a template -/

section Offsets

variable {ε : Type} {template u rest : Text} {n : Nat} {c : Char}

theorem drop_of_append (h : template.drop n = u ++ rest) : template.drop (n + u.length) = rest := by
  rw [← List.drop_drop, h, List.drop_left]

theorem drop_of_cons (h : template.drop n = c :: rest) : template.drop (n + 1) = rest :=
  drop_of_append (u := [c]) h

theorem getElem?_of_drop (h : template.drop n = c :: rest) : template[n]? = some c := by
  rw [← List.head?_drop, h]
  rfl

theorem count_take_of_append (h : template.drop n = u ++ rest) :
    (template.take (n + u.length)).count '?' = (template.take n).count '?' + u.count '?' := by
  rw [List.take_add, List.count_append, h, List.take_left]

theorem openBlock?_opening (h : template.drop n = '{' :: rest) :
    openBlock? template (n + 1) = some n := by
  rw [openBlock?, getElem?_of_drop h]
  rfl

theorem openBlock?_closing (h : template.drop n = '}' :: rest) :
    openBlock? template (n + 1) = none := by
  rw [openBlock?, getElem?_of_drop h]
  rfl

/-- Without a brace in between, the block that is open stays open. -/
theorem openBlock?_of_append (h : template.drop n = u ++ rest)
    (hu : ∀ c ∈ u, c ≠ '{' ∧ c ≠ '}') :
    openBlock? template (n + u.length) = openBlock? template n := by
  induction u generalizing n with
  | nil => rfl
  | cons c u ih =>
    rw [List.forall_mem_cons] at hu
    have hstep : openBlock? template (n + 1) = openBlock? template n := by
      rw [openBlock?, getElem?_of_drop h]
      split
      · exact absurd (Option.some.inj ‹_›) hu.1.1
      · exact absurd (Option.some.inj ‹_›) hu.1.2
      · rfl
    rw [List.length_cons, Nat.add_comm u.length, ← Nat.add_assoc, ih (drop_of_cons h) hu.2, hstep]

/-- The first fault in a stretch of a template that starts at the offset `n`. -/
def firstFaultIn? (faultAt? : Text → Nat → Option ε) (template : Text) (n : Nat) (s : Text) :
    Option ε :=
  (List.range' n s.length).findSome? (faultAt? template)

variable (faultAt? : Text → Nat → Option ε)

theorem firstFault?_eq :
    firstFault? faultAt? template = firstFaultIn? faultAt? template 0 template := by
  rw [firstFault?, firstFaultIn?, List.range_eq_range']

theorem firstFaultIn?_nil : firstFaultIn? faultAt? template n [] = none := rfl

theorem firstFaultIn?_cons : firstFaultIn? faultAt? template n (c :: rest) =
    (faultAt? template n <|> firstFaultIn? faultAt? template (n + 1) rest) := by
  rw [firstFaultIn?, List.length_cons, List.range'_succ, List.findSome?_cons]
  cases faultAt? template n <;> rfl

end Offsets

/-! ## Scanning -/

/-- Nothing is found at code points that mean nothing in a template. -/
def OnlyAtMarks {ε : Type} (faultAt? : Text → Nat → Option ε) : Prop :=
  ∀ template i c rest, template.drop i = c :: rest → c ≠ '?' ∧ c ≠ '{' ∧ c ≠ '}' →
    faultAt? template i = none

section Tokens

variable {builder : Builder} {arguments : List Argument} {template rest : Text} {n : Nat} {c : Char}

/-- A placeholder has its fault at the question mark. -/
theorem firstFaultIn?_mark {ε : Type} {faultAt? : Text → Nat → Option ε}
    (honly : OnlyAtMarks faultAt?) {specifier : Option Specifier}
    (h : template.drop n = Token.mark specifier ++ rest) :
    firstFaultIn? faultAt? template n (Token.mark specifier ++ rest) =
      (faultAt? template n <|>
        firstFaultIn? faultAt? template (n + (Token.mark specifier).length) rest) := by
  cases specifier with
  | none => exact firstFaultIn?_cons faultAt?
  | some specifier =>
    have hchar : specifier.char ≠ '?' ∧ specifier.char ≠ '{' ∧ specifier.char ≠ '}' := by
      cases specifier <;> decide
    -- the specifier means nothing by itself
    have hnone : faultAt? template (n + 1) = none :=
      honly template (n + 1) _ rest (drop_of_cons h) hchar
    show firstFaultIn? faultAt? template n ('?' :: specifier.char :: rest) = _
    rw [firstFaultIn?_cons, firstFaultIn?_cons, hnone]
    rfl

/-- Only a question mark can have an invalid specifier. -/
theorem invalidSpecifierAt?_of_ne (h : template.drop n = c :: rest) (hc : c ≠ '?') :
    invalidSpecifierAt? template n = none := by
  rw [invalidSpecifierAt?, h]
  split
  · exact absurd (List.cons.inj ‹_›).1 hc
  · rfl

theorem invalidSpecifierAt?_of_mark {specifier : Option Specifier}
    (halone : specifier = none → Token.StandsAlone rest)
    (h : template.drop n = Token.mark specifier ++ rest) :
    invalidSpecifierAt? template n = none := by
  -- a letter behind the question mark is its specifier, or else it would have taken it
  have hvalid : ∀ c rest', template.drop n = '?' :: c :: rest' →
      ¬ (c.isAlpha ∧ c ∉ ['d', 'f', 'a']) := by
    intro c rest' hc hinvalid
    obtain ⟨htakes, hnone⟩ := Token.isAlpha_and_notMem_iff.mp hinvalid
    rw [h] at hc
    cases specifier with
    | none =>
      obtain rfl : rest = c :: rest' := (List.cons.inj hc).2
      rw [halone rfl c rfl] at htakes
      cases htakes
    | some specifier =>
      obtain rfl : specifier.char = c := (List.cons.inj (List.cons.inj hc).2).1
      rw [Specifier.ofChar?_char] at hnone
      cases hnone
  rw [invalidSpecifierAt?]
  split
  · exact if_neg (hvalid _ _ ‹_›)
  · rfl

/-- Only a question mark takes an argument that might not be written. -/
theorem unwritableAt?_of_ne (h : template.drop n = c :: rest) (hc : c ≠ '?') :
    unwritableAt? builder arguments template n = none := by
  rw [unwritableAt?, h]
  split
  · exact absurd (List.cons.inj ‹_›).1 hc
  · rfl

theorem misplacedAt?_of_text (h : template.drop n = c :: rest)
    (hc : c ≠ '?' ∧ c ≠ '{' ∧ c ≠ '}') : misplacedAt? arguments template n = none := by
  rw [misplacedAt?, h]
  split
  · exact absurd (List.cons.inj ‹_›).1 hc.2.1
  · exact absurd (List.cons.inj ‹_›).1 hc.2.2
  · exact absurd (List.cons.inj ‹_›).1 hc.1
  · rfl

/-- What stops the scan of the rest of a template is the first question mark with a letter that is
no specifier. -/
theorem fault?_scanFrom {s : Text} (hs : template.drop n = s) :
    fault? (Token.scanFrom n s) = firstFaultIn? invalidSpecifierAt? template n s := by
  induction s using Token.induction_on_scan generalizing n with
  | nil => rfl
  | text c rest hc ih =>
    rw [Token.scanFrom_text hc.1 hc.2.1 hc.2.2, fault?_map, ih (drop_of_cons hs),
      firstFaultIn?_cons, invalidSpecifierAt?_of_ne hs hc.1]
    rfl
  | brace b rest ih =>
    rw [Token.scanFrom_brace, fault?_map, ih (drop_of_cons hs),
      firstFaultIn?_cons, invalidSpecifierAt?_of_ne hs b.char_ne_mark]
    rfl
  | placeholder specifier rest halone ih =>
    have honly : OnlyAtMarks invalidSpecifierAt? := fun _ _ _ _ h hc =>
      invalidSpecifierAt?_of_ne h hc.1
    have hnone : invalidSpecifierAt? template n = none := invalidSpecifierAt?_of_mark halone hs
    rw [Token.scanFrom_mark halone, fault?_map, ih (drop_of_append hs), firstFaultIn?_mark honly hs,
      hnone]
    rfl
  | invalid c rest hc =>
    rw [Token.scanFrom_invalid hc, firstFaultIn?_cons, invalidSpecifierAt?, hs]
    show _ = ((if c.isAlpha ∧ c ∉ ['d', 'f', 'a'] then _ else none) <|> _)
    rw [if_pos hc]
    rfl

/-! ## Writing the arguments -/

/-- Text stops nothing, so it does not matter how it is cut into tokens. -/
theorem fault?_fillTokens_consText (c : Char) (n : Nat) (tokens : List Token)
    (arguments : List Argument) :
    fault? (builder.fillTokens (Token.consText c n tokens) arguments).result =
      fault? (builder.fillTokens tokens arguments).result := by
  unfold Token.consText
  split <;> simp

/-- A placeholder is stopped by its argument, unless that is a skip. -/
theorem fault?_fillPlaceholder (specifier : Option Specifier) (n : Nat) (argument : Argument) :
    fault? (builder.fillPlaceholder specifier n argument).result =
      if argument.isSkip then none else fault? (builder.literal specifier argument).result := by
  rw [Builder.fillPlaceholder]
  split
  · rfl
  · exact fault?_map ..

/-- The arguments that are left at the offset, when each question mark in front has taken one. -/
def LeftAt (template : Text) (n : Nat) (arguments left : List Argument) : Prop :=
  arguments.drop ((template.take n).count '?') = left

namespace LeftAt

variable {left : List Argument} {argument : Argument}

theorem start (template : Text) (arguments : List Argument) :
    LeftAt template 0 arguments arguments := rfl

theorem argumentAt?_eq (h : LeftAt template n arguments (argument :: left)) :
    argumentAt? arguments template n = some argument := by
  rw [argumentAt?, ← List.head?_drop, h]
  rfl

theorem of_cons (h : LeftAt template n arguments left) (hs : template.drop n = c :: rest)
    (hc : c ≠ '?') : LeftAt template (n + 1) arguments left := by
  have hcount := count_take_of_append (u := [c]) hs
  rw [List.count_cons_of_ne hc] at hcount
  exact (congrArg arguments.drop hcount).trans h

theorem of_mark (h : LeftAt template n arguments (argument :: left))
    {specifier : Option Specifier} (hs : template.drop n = Token.mark specifier ++ rest) :
    LeftAt template (n + (Token.mark specifier).length) arguments left := by
  have hcount := count_take_of_append hs
  rw [Token.count_mark] at hcount
  rw [LeftAt, hcount, ← List.drop_drop, h]
  rfl

end LeftAt

/-- The fault at a placeholder is that of the argument and the specifier that the scanner gives
it. -/
theorem unwritableAt?_of_mark {left : List Argument} {argument : Argument}
    {specifier : Option Specifier} (halone : specifier = none → Token.StandsAlone rest)
    (hs : template.drop n = Token.mark specifier ++ rest)
    (hleft : LeftAt template n arguments (argument :: left)) :
    unwritableAt? builder arguments template n =
      if argument.isSkip then none
      else fault? (builder.literal specifier argument).result := by
  -- read at the offset, the specifier is the one that was scanned
  have hspecifier : ((specifier.map Specifier.char).toList ++ rest).head?.bind Specifier.ofChar? =
      specifier := by
    cases specifier with
    | none => exact (halone rfl).ofChar?_eq_none
    | some specifier => exact Specifier.ofChar?_char specifier
  rw [unwritableAt?, hs, hleft.argumentAt?_eq]
  show (if argument.isSkip then none else fault? (builder.literal
    (((specifier.map Specifier.char).toList ++ rest).head?.bind Specifier.ofChar?)
      argument).result) = _
  rw [hspecifier]

/-- What stops the writing of arguments into the rest of a template is the first of them that cannot
be written, given that there are enough. -/
theorem fault?_fillTokens {s : Text} {tokens : List Token} {left : List Argument}
    (h : Token.Scanned n s tokens) (hs : template.drop n = s)
    (hleft : LeftAt template n arguments left) (hcount : s.count '?' ≤ left.length) :
    fault? (builder.fillTokens tokens left).result =
      firstFaultIn? (unwritableAt? builder arguments) template n s := by
  induction h generalizing left with
  | nil => rfl
  | @text n c rest tokens hc _ ih =>
    rw [List.count_cons_of_ne hc.1] at hcount
    rw [fault?_fillTokens_consText, ih (drop_of_cons hs) (hleft.of_cons hs hc.1) hcount,
      firstFaultIn?_cons, unwritableAt?_of_ne hs hc.1]
    rfl
  | @brace n b rest tokens _ ih =>
    rw [List.count_cons_of_ne b.char_ne_mark] at hcount
    have hrest := ih (drop_of_cons hs) (hleft.of_cons hs b.char_ne_mark) hcount
    rw [firstFaultIn?_cons, unwritableAt?_of_ne hs b.char_ne_mark]
    cases b with
    | opening => rw [Builder.result_fillTokens_opening, fault?_map, hrest]; rfl
    | closing => rw [Builder.result_fillTokens_closing, fault?_map, hrest]; rfl
  | @placeholder n specifier rest tokens halone _ ih =>
    have honly : OnlyAtMarks (unwritableAt? builder arguments) := fun _ _ _ _ h hc =>
      unwritableAt?_of_ne h hc.1
    rw [List.count_append, Token.count_mark] at hcount
    cases left with
    | nil =>
      rw [List.length_nil] at hcount
      omega
    | cons argument left =>
      have hcount' : rest.count '?' ≤ left.length := by
        rw [List.length_cons] at hcount
        omega
      have hrest := ih (drop_of_append hs) (hleft.of_mark hs) hcount'
      rw [Builder.result_fillTokens_placeholder, firstFaultIn?_mark honly hs,
        unwritableAt?_of_mark halone hs hleft, ← fault?_fillPlaceholder specifier n argument,
        ← hrest]
      exact fault?_bind _ fun _ _ => fault?_map ..

/-! ## Resolving the blocks -/

/-- Behind the end of the template the last block is open still. -/
theorem openBlock?_of_length_le (h : template.length ≤ n) :
    openBlock? template n = openBlock? template template.length := by
  induction h with
  | refl => rfl
  | @step n h ih =>
    rw [openBlock?, List.getElem?_eq_none h]
    exact ih

/-- A question mark is in the wrong place if its argument is a skip and no block is open. -/
theorem misplacedAt?_of_mark {left : List Argument} {argument : Argument}
    {specifier : Option Specifier} (hs : template.drop n = Token.mark specifier ++ rest)
    (hleft : LeftAt template n arguments (argument :: left)) :
    misplacedAt? arguments template n =
      if argument.isSkip ∧ openBlock? template n = none then some (.skipOutsideBlock n)
      else none := by
  rw [misplacedAt?, hs, hleft.argumentAt?_eq]
  cases openBlock? template n with
  | none =>
    show (if argument.isSkip then _ else _) = _
    simp
  | some i => simp [Token.mark]

/-- A placeholder becomes a skip or a literal, and never a brace, whatever its argument holds. -/
theorem fragment_of_fillPlaceholder {specifier : Option Specifier} {position : Int}
    {argument : Argument} {fragment : Fragment}
    (h : (builder.fillPlaceholder specifier position argument).result = .ok fragment) :
    fragment.isBrace = false ∧ fragment.isSkip = argument.isSkip ∧
      fragment.position = position := by
  rw [Builder.fillPlaceholder] at h
  cases hskip : argument.isSkip with
  | true =>
    rw [hskip] at h
    cases h
    exact ⟨rfl, rfl, rfl⟩
  | false =>
    rw [hskip] at h
    obtain ⟨literal, -, rfl⟩ := exists_of_map_eq_ok h
    exact ⟨rfl, rfl, rfl⟩

/-- The block, if there is one, is open at the offset. -/
inductive OpenAt (template : Text) (n : Nat) : Option OpenBlock → Prop
  | outside (hnone : openBlock? template n = none) : OpenAt template n none
  | inside {block : OpenBlock} {i : Nat} (hsome : openBlock? template n = some i)
      (hposition : block.position = i) : OpenAt template n (some block)

theorem OpenBlock.position_put (block : OpenBlock) (fragment : Fragment) :
    (block.put fragment).position = block.position := by
  rw [put]
  split <;> rfl

/-- Where no brace is passed, the block that is open stays open, whatever is put into it. -/
theorem OpenAt.of_append {u : Text} {open? : Option OpenBlock} (h : OpenAt template n open?)
    (hs : template.drop n = u ++ rest) (hu : ∀ c ∈ u, c ≠ '{' ∧ c ≠ '}')
    {f : OpenBlock → OpenBlock} (hf : ∀ block, (f block).position = block.position) :
    OpenAt template (n + u.length) (open?.map f) := by
  have hsame : openBlock? template (n + u.length) = openBlock? template n :=
    openBlock?_of_append hs hu
  cases h with
  | outside hnone => exact .outside (hsame.trans hnone)
  | inside hsome hposition => exact .inside (hsame.trans hsome) ((hf _).trans hposition)

/-! One step at a time: whatever block is open behind the step, what stops the rest is `later?`. -/

section Steps

variable {fragments : List Fragment} {open? : Option OpenBlock} {later? : Option QueryError}

theorem fault?_opening (hs : template.drop n = '{' :: rest) (hopen : OpenAt template n open?)
    (hlater : ∀ open?, OpenAt template (n + 1) open? →
      fault? (Resolution.ofFragmentsIn open? fragments) = later?) :
    fault? (Resolution.ofFragmentsIn open? (.opening n :: fragments)) =
      (misplacedAt? arguments template n <|> later?) := by
  rw [misplacedAt?, hs]
  cases hopen with
  | outside hnone =>
    rw [hnone, Resolution.ofFragmentsIn_opening rfl]
    exact hlater _ (.inside (openBlock?_opening hs) rfl)
  | inside hsome _ =>
    rw [hsome, Resolution.ofFragmentsIn_opening_some rfl]
    rfl

theorem fault?_closing (hs : template.drop n = '}' :: rest) (hopen : OpenAt template n open?)
    (hlater : ∀ open?, OpenAt template (n + 1) open? →
      fault? (Resolution.ofFragmentsIn open? fragments) = later?) :
    fault? (Resolution.ofFragmentsIn open? (.closing n :: fragments)) =
      (misplacedAt? arguments template n <|> later?) := by
  rw [misplacedAt?, hs]
  cases hopen with
  | outside hnone =>
    rw [hnone, Resolution.ofFragmentsIn_closing rfl]
    rfl
  | inside hsome _ =>
    rw [hsome, Resolution.ofFragmentsIn_closing_some rfl, fault?_map]
    exact hlater _ (.outside (openBlock?_closing hs))

/-- The fragment of a placeholder is in the wrong place if it is a skip outside. -/
theorem fault?_placeholder {specifier : Option Specifier} {argument : Argument}
    {left : List Argument} {fragment : Fragment}
    (hs : template.drop n = Token.mark specifier ++ rest)
    (hleft : LeftAt template n arguments (argument :: left)) (hopen : OpenAt template n open?)
    (hfragment : (builder.fillPlaceholder specifier n argument).result = .ok fragment)
    (hlater : ∀ open?, OpenAt template (n + (Token.mark specifier).length) open? →
      fault? (Resolution.ofFragmentsIn open? fragments) = later?) :
    fault? (Resolution.ofFragmentsIn open? (fragment :: fragments)) =
      (misplacedAt? arguments template n <|> later?) := by
  obtain ⟨hbrace, hskip, hposition⟩ := fragment_of_fillPlaceholder hfragment
  have hopen' := hopen.of_append hs (Token.not_brace_of_mem_mark specifier)
    (f := fun block => block.put fragment) fun block => OpenBlock.position_put block fragment
  rw [misplacedAt?_of_mark hs hleft, ← hskip, ← hposition]
  cases hopen with
  | outside hnone =>
    -- outside a block a skip stops the resolution, and a literal does not
    cases hfskip : fragment.isSkip with
    | true =>
      rw [if_pos ⟨rfl, hnone⟩, Resolution.ofFragmentsIn_skip (Fragment.kind_of_isSkip hfskip)]
      rfl
    | false =>
      have hplain := Resolution.isPlain_of_not_isSkip hbrace hfskip
      rw [if_neg (by simp), Resolution.ofFragmentsIn_plain hplain, fault?_map]
      exact hlater _ hopen'
  | inside hsome _ =>
    rw [hsome, if_neg (by simp), Resolution.ofFragmentsIn_put hbrace]
    exact hlater _ hopen'

end Steps

/-- What stops the resolution of the rest of a template is the first brace or skip in the wrong
place, and then a block that is never closed. -/
theorem fault?_ofFragmentsIn {s : Text} {tokens : List Token} {left : List Argument}
    {fragments : List Fragment} {open? : Option OpenBlock} (h : Token.Scanned n s tokens)
    (hs : template.drop n = s) (hleft : LeftAt template n arguments left)
    (hopen : OpenAt template n open?)
    (hfill : (builder.fillTokens tokens left).result = .ok fragments) :
    fault? (Resolution.ofFragmentsIn open? fragments) =
      (firstFaultIn? (misplacedAt? arguments) template n s <|> unclosed? template) := by
  induction h generalizing left fragments open? with
  | @nil n =>
    cases hfill
    have hend : openBlock? template template.length = openBlock? template n :=
      (openBlock?_of_length_le (List.drop_eq_nil_iff.mp hs)).symm
    rw [unclosed?, hend, firstFaultIn?_nil]
    cases hopen with
    | outside hnone => rw [hnone]; rfl
    | inside hsome hposition => rw [hsome, Resolution.ofFragmentsIn, hposition]; rfl
  | @text n c rest tokens hc _ ih =>
    have hfault : fault? (builder.fillTokens tokens left).result = none := by
      rw [← fault?_fillTokens_consText c n, hfill]
      rfl
    -- the code point is put into the text in front of it, so the fragments without it are others
    obtain ⟨fragments', hfill'⟩ := exists_of_fault?_eq_none hfault
    obtain ⟨fragments'', hfill'', hresolve⟩ := Builder.fillTokens_consText c n hfill'
    obtain rfl : fragments'' = fragments := Except.ok.inj (hfill''.symm.trans hfill)
    have hopen' : OpenAt template (n + 1) (open?.map (.addText [c])) :=
      hopen.of_append (u := [c]) hs (by simpa using hc.2) fun _ => rfl
    rw [hresolve, fault?_map, ih (drop_of_cons hs) (hleft.of_cons hs hc.1) hopen' hfill',
      firstFaultIn?_cons, misplacedAt?_of_text hs hc]
    rfl
  | @brace n b rest tokens _ ih =>
    have hleft' : LeftAt template (n + 1) arguments left := hleft.of_cons hs b.char_ne_mark
    rw [firstFaultIn?_cons, orElse_assoc]
    cases b with
    | opening =>
      rw [Builder.result_fillTokens_opening] at hfill
      obtain ⟨fragments, hrest, rfl⟩ := exists_of_map_eq_ok hfill
      exact fault?_opening hs hopen fun _ hopen' => ih (drop_of_cons hs) hleft' hopen' hrest
    | closing =>
      rw [Builder.result_fillTokens_closing] at hfill
      obtain ⟨fragments, hrest, rfl⟩ := exists_of_map_eq_ok hfill
      exact fault?_closing hs hopen fun _ hopen' => ih (drop_of_cons hs) hleft' hopen' hrest
  | @placeholder n specifier rest tokens _ _ ih =>
    have honly : OnlyAtMarks (misplacedAt? arguments) := fun _ _ _ _ => misplacedAt?_of_text
    cases left with
    | nil => cases hfill
    | cons argument left =>
      rw [Builder.result_fillTokens_placeholder] at hfill
      obtain ⟨fragment, hfragment, hfill⟩ := exists_of_bind_eq_ok hfill
      obtain ⟨fragments, hrest, rfl⟩ := exists_of_map_eq_ok hfill
      rw [firstFaultIn?_mark honly hs, orElse_assoc]
      exact fault?_placeholder hs hleft hopen hfragment fun _ hopen' =>
        ih (drop_of_append hs) (hleft.of_mark hs) hopen' hrest

end Tokens

/-! ## Builds -/

section Builds

variable {builder : Builder} {template : Text} {arguments : Argument} {items : List Argument}

/-- The check of the count fails for the wrong count and nothing else. -/
theorem fault?_checkCount (builder : Builder) (template : Text) (supplied : Nat) :
    fault? (builder.checkCount (template.count '?') supplied) =
      wrongCount? builder template supplied := by
  rw [Builder.checkCount, wrongCount?]
  show fault? (if supplied < _ || _ then _ else _) = if supplied < _ || _ then _ else _
  split <;> rfl

/-- A count that passes leaves no placeholder without an argument. -/
theorem le_of_checkCount {expected supplied : Nat} {passed : Unit}
    (h : builder.checkCount expected supplied = .ok passed) : expected ≤ supplied := by
  rw [Builder.checkCount] at h
  split at h
  · cases h
  · rename_i hcount
    simp only [gt_iff_lt, Bool.or_eq_true, decide_eq_true_eq, not_or] at hcount
    exact Nat.le_of_not_lt hcount.1

theorem result_substitute_of_elements (hitems : arguments.elements = .ok items) :
    (builder.substitute template arguments).result = do
      let tokens ← (Token.scan template).mapError .query
      (builder.checkCount (Token.placeholderCount tokens) items.length).mapError .query
      let fragments ← (builder.fillTokens tokens items).result
      return ⟨fragments, Token.placeholderCount tokens⟩ := by
  rw [Builder.result_substitute, hitems]
  rfl

/-- What stops a substitution: the first invalid specifier, then the count, then the first argument
that cannot be written. -/
theorem fault?_substitute (hitems : arguments.elements = .ok items) :
    fault? (builder.substitute template arguments).result =
      ((firstFault? invalidSpecifierAt? template).map Fault.query <|>
        (wrongCount? builder template items.length).map Fault.query <|>
        firstFault? (unwritableAt? builder items) template) := by
  have hscan : fault? ((Token.scan template).mapError Fault.query) =
      (firstFault? invalidSpecifierAt? template).map .query := by
    rw [fault?_mapError, Token.scan, fault?_scanFrom List.drop_zero, firstFault?_eq]
  rw [result_substitute_of_elements hitems, ← hscan]
  refine fault?_bind _ fun tokens htokens => ?_
  have hscanned : Token.Scanned 0 template tokens :=
    Token.scanned_of_scanFrom (mapError_eq_ok _ htokens)
  rw [hscanned.placeholderCount_eq, ← fault?_checkCount, ← fault?_mapError]
  refine fault?_bind _ fun _ hcount => ?_
  have hle : template.count '?' ≤ items.length := le_of_checkCount (mapError_eq_ok _ hcount)
  rw [firstFault?_eq,
    ← fault?_fillTokens hscanned List.drop_zero (.start template items) hle]
  exact fault?_map ..

/-- A template that has been filled in is broken where its blocks cannot be resolved. -/
theorem fault?_ofFragments {query : Query} (hitems : arguments.elements = .ok items)
    (h : (builder.substitute template arguments).result = .ok query) :
    fault? (Resolution.ofFragments query.fragments) = brokenStructure? items template := by
  rw [result_substitute_of_elements hitems] at h
  obtain ⟨tokens, htokens, h⟩ := exists_of_bind_eq_ok h
  obtain ⟨-, -, h⟩ := exists_of_bind_eq_ok h
  obtain ⟨fragments, hfill, h⟩ := exists_of_bind_eq_ok h
  cases h
  have hscanned : Token.Scanned 0 template tokens :=
    Token.scanned_of_scanFrom (mapError_eq_ok _ htokens)
  rw [brokenStructure?, firstFault?_eq]
  exact fault?_ofFragmentsIn hscanned List.drop_zero (.start template items) (.outside rfl)
    hfill

/-- **Which fault a build reports.** It is the first question mark with a letter that is no
specifier. Without one, it is that there are more question marks than arguments, or fewer where this
is not allowed. Without that, it is the first argument, not to be skipped, that cannot be written,
wherever its placeholder stands. Without that, it is the first brace or skip in the wrong place,
with its offset in the template, and then a block that is never closed. A build without any of these
faults succeeds. -/
theorem build_fault (builder : Builder) (template : Text) (arguments : Argument)
    (items : List Argument) (hitems : arguments.elements = .ok items) :
    fault? (builder.build template arguments).result =
      ((firstFault? invalidSpecifierAt? template).map Fault.query <|>
        (wrongCount? builder template items.length).map Fault.query <|>
        firstFault? (unwritableAt? builder items) template <|>
        (brokenStructure? items template).map Fault.query) := by
  have hrun : fault? (builder.run template arguments).result =
      (fault? (builder.substitute template arguments).result <|>
        (brokenStructure? items template).map Fault.query) := by
    rw [Builder.result_run]
    refine fault?_bind _ fun query hquery => ?_
    rw [fault?_map, fault?_mapError, fault?_ofFragments hitems hquery]
  rw [Builder.result_build, fault?_map, hrun, fault?_substitute hitems, orElse_assoc, orElse_assoc]

/-- An argument in a block that would be dropped is reported, and not a closing brace too many
behind it. With an argument that can be written it is the brace, at its offset in the template. -/
theorem build_fault_of_surplus_brace :
    let builder : Builder := ⟨.ofDialect .mysql none, {}⟩
    let template : Text := "\x7b?d ?a\x7d?\x7d".toList
    let items (argument : Argument) : List Argument := [.skip, argument, .ofText "long".toList]
    (∀ argument, (Argument.ofList (items argument)).elements = .ok (items argument)) ∧
      fault? (builder.build template (.ofList (items (.ofText "x".toList)))).result =
        some (.query (.unsupportedValue "str" (some "expected a list or mapping"))) ∧
      fault? (builder.build template (.ofList (items (.ofList [.null])))).result =
        some (.query (.unbalancedBrace ['\x7d'] 8)) := by
  intro builder template items
  have helements : ∀ argument, (Argument.ofList (items argument)).elements =
      .ok (items argument) := fun _ => rfl
  refine ⟨helements, ?_, ?_⟩
  · rw [build_fault builder template _ _ (helements _)]
    rfl
  · rw [build_fault builder template _ _ (helements _)]
    rfl

end Builds

end SqlTemplate
