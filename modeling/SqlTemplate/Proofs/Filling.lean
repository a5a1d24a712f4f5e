import SqlTemplate.Proofs.Canonical
import SqlTemplate.Proofs.OneToken
import SqlTemplate.Proofs.Outcome

/-!
# Which argument fills which placeholder

A template is filled in token by token. The arguments are used up on the way, so that no place in
them is ever looked up; seen from the finished query, though, each token has a place of its own, and
so has the argument that fills it. `Builder.Fills` says what one token becomes, and
`Builder.FillsAll` that a placeholder with `k` placeholders in front of it takes argument
number `k`.

* `Builder.fillTokens_eq_ok_iff`: the fragments that tokens become are those that are right token by
  token, and no others.
* `FillsAll.text_eq`, `FillsAll.position_eq` and `FillsAll.skips_eq` read off what the fragments are
  together, each by `FillsAll.induction`.
* `substitute_fills` says it of whole substitutions, with what cannot happen in one.
-/

namespace SqlTemplate

/-- The lexemes of the tokens, with the texts of the fragments in place of the placeholders. -/
def Token.replaced (tokens : List Token) (fragments : List Fragment) : Text :=
  (List.zipWith (fun token fragment => if token.isPlaceholder then fragment.text else token.lexeme)
    tokens fragments).flatten

namespace Builder

/-- The fragment is what the token becomes, if this is the argument for a placeholder there. -/
inductive Fills (builder : Builder) (argument? : Option Argument) : Token → Fragment → Prop
  | text (content : Text) (position : Nat) :
    Fills builder argument? (.text content position) ⟨.text, content, position⟩
  | opening (position : Nat) :
    Fills builder argument? (.brace .opening position) ⟨.opening, ['{'], position⟩
  | closing (position : Nat) :
    Fills builder argument? (.brace .closing position) ⟨.closing, ['}'], position⟩
  | skip (specifier : Option Specifier) (position : Nat) (hargument : argument? = some .skip) :
    Fills builder argument? (.placeholder specifier position) ⟨.skip, "__SKIP__".toList, position⟩
  | literal {specifier : Option Specifier} {argument : Argument} {written : Text} (position : Nat)
    (hargument : argument? = some argument) (hskip : argument ≠ .skip)
    (hwritten : (builder.literal specifier argument).result = .ok written) :
    Fills builder argument? (.placeholder specifier position) ⟨.literal, written, position⟩

/-- The fragments are what the tokens become, one for each. A placeholder takes the argument whose
number is that of the placeholders in front of it. -/
structure FillsAll (builder : Builder) (items : List Argument) (tokens : List Token)
    (fragments : List Fragment) : Prop where
  length_eq : fragments.length = tokens.length
  fills : ∀ (i : Nat) token fragment, tokens[i]? = some token → fragments[i]? = some fragment →
    builder.Fills items[Token.placeholderCount (tokens.take i)]? token fragment

variable {builder : Builder} {template : Text} {arguments : Argument} {items : List Argument}
  {argument? : Option Argument} {token : Token} {tokens : List Token} {fragment : Fragment}
  {fragments : List Fragment} {fault : Fault}

/-! ## One token -/

theorem fillToken_eq_ok_iff :
    (builder.fillToken argument? token).result = .ok fragment ↔
      builder.Fills argument? token fragment := by
  constructor
  · intro h
    match token, argument? with
    | .text content position, _ => cases h; exact .text content position
    | .brace .opening position, _ => cases h; exact .opening position
    | .brace .closing position, _ => cases h; exact .closing position
    | .placeholder specifier position, none => cases h
    | .placeholder specifier position, some argument =>
      rw [fillToken, fillPlaceholder] at h
      split at h
      · rename_i hskip
        cases h
        exact .skip specifier position (congrArg some (Argument.isSkip_iff.mp hskip))
      · rename_i hskip
        obtain ⟨written, hwritten, rfl⟩ := exists_of_map_eq_ok h
        exact .literal position rfl (mt Argument.isSkip_iff.mpr hskip) hwritten
  · intro h
    cases h with
    | text | opening | closing => rfl
    | skip specifier position hargument =>
      rw [hargument]
      rfl
    | literal position hargument hskip hwritten =>
      rw [hargument, fillToken, fillPlaceholder, if_neg (mt Argument.isSkip_iff.mp hskip),
        Traced.result_map, hwritten]
      rfl

namespace Fills

theorem position_eq (h : builder.Fills argument? token fragment) :
    fragment.position = token.position := by
  cases h <;> rfl

/-- Only placeholders are replaced. -/
theorem text_eq (h : builder.Fills argument? token fragment) :
    fragment.text = if token.isPlaceholder then fragment.text else token.lexeme := by
  cases h <;> rfl

theorem skips_eq (h : builder.Fills items[0]? token fragment) :
    [fragment].countP (fun fragment => fragment.kind = .skip) =
      (items.take (Token.placeholderCount [token])).countP Argument.isSkip := by
  have htake : items.take 1 = items[0]?.toList := by cases items <;> rfl
  cases h with
  | text | opening | closing => rfl
  | skip _ _ hargument =>
    show 1 = (items.take 1).countP Argument.isSkip
    rw [htake, hargument]
    rfl
  | literal _ hargument hskip =>
    show 0 = (items.take 1).countP Argument.isSkip
    rw [htake, hargument]
    simpa [Argument.isSkip_iff] using hskip

end Fills

/-! ## All tokens -/

theorem fillsAll_nil (items : List Argument) : builder.FillsAll items [] [] :=
  ⟨rfl, nofun⟩

/-- The first token takes its argument, and the rest take from those that are left. -/
theorem fillsAll_cons_iff : builder.FillsAll items (token :: tokens) (fragment :: fragments) ↔
    builder.Fills items[0]? token fragment ∧
      builder.FillsAll (items.drop (Token.placeholderCount [token])) tokens fragments := by
  -- the arguments are counted from behind the first token's own, if it takes one
  have hshift (i : Nat) : items[Token.placeholderCount ((token :: tokens).take (i + 1))]? =
      (items.drop (Token.placeholderCount [token]))[Token.placeholderCount (tokens.take i)]? := by
    rw [List.take_succ_cons, Token.placeholderCount_cons, List.getElem?_drop]
  constructor
  · rintro ⟨hlength, hfills⟩
    refine ⟨hfills 0 token fragment rfl rfl, Nat.succ.inj hlength, ?_⟩
    intro i other filled hother hfilled
    rw [← hshift]
    exact hfills (i + 1) other filled hother hfilled
  · rintro ⟨hhead, hlength, hfills⟩
    refine ⟨congrArg Nat.succ hlength, ?_⟩
    intro i other filled hother hfilled
    cases i with
    | zero =>
      cases hother
      cases hfilled
      exact hhead
    | succ i =>
      rw [hshift]
      exact hfills i other filled hother hfilled

/-- Tokens are filled with exactly the fragments that fill them all. -/
theorem fillTokens_eq_ok_iff :
    (builder.fillTokens tokens items).result = .ok fragments ↔
      builder.FillsAll items tokens fragments := by
  -- token by token, with the arguments that the tokens in front have left
  induction tokens generalizing items fragments with
  | nil =>
    constructor
    · rintro ⟨⟩
      exact fillsAll_nil items
    · intro h
      rw [List.eq_nil_of_length_eq_zero h.length_eq]
      rfl
  | cons token tokens ih =>
    constructor
    · intro h
      obtain ⟨fragment, rest, rfl, hhead, hrest⟩ := exists_of_fillTokens_cons h
      exact fillsAll_cons_iff.mpr ⟨fillToken_eq_ok_iff.mp hhead, ih.mp hrest⟩
    · intro h
      cases fragments with
      | nil => cases h.length_eq
      | cons fragment fragments =>
        obtain ⟨hhead, hrest⟩ := fillsAll_cons_iff.mp h
        rw [result_fillTokens_cons, fillToken_eq_ok_iff.mpr hhead]
        exact congrArg (Except.map (fragment :: ·)) (ih.mpr hrest)

namespace FillsAll

/-- Induction from the first token on. The arguments left are those that it has not used up. -/
theorem induction
    {motive : ∀ items tokens fragments, builder.FillsAll items tokens fragments → Prop}
    (nil : ∀ items, motive items [] [] (fillsAll_nil items))
    (cons : ∀ items token fragment tokens fragments (hhead : builder.Fills items[0]? token fragment)
      (hrest : builder.FillsAll (items.drop (Token.placeholderCount [token])) tokens fragments),
      motive _ tokens fragments hrest → motive items (token :: tokens) (fragment :: fragments)
        (fillsAll_cons_iff.mpr ⟨hhead, hrest⟩))
    {items : List Argument} {tokens : List Token} {fragments : List Fragment}
    (h : builder.FillsAll items tokens fragments) : motive items tokens fragments h := by
  induction tokens generalizing items fragments with
  | nil =>
    obtain rfl := List.eq_nil_of_length_eq_zero h.length_eq
    exact nil items
  | cons token tokens ih =>
    cases fragments with
    | nil => cases h.length_eq
    | cons fragment fragments =>
      obtain ⟨hhead, hrest⟩ := fillsAll_cons_iff.mp h
      exact cons items token fragment tokens fragments hhead hrest (ih hrest)

theorem position_eq (h : builder.FillsAll items tokens fragments) :
    fragments.map Fragment.position = tokens.map fun token => (token.position : Int) := by
  induction h using FillsAll.induction with
  | nil items => rfl
  | cons items token fragment tokens fragments hhead hrest ih =>
    rw [List.map_cons, List.map_cons, hhead.position_eq, ih]

/-- The text is the template with a literal or a marker in place of each placeholder. -/
theorem text_eq (h : builder.FillsAll items tokens fragments) :
    fragments.flatMap Fragment.text = Token.replaced tokens fragments := by
  induction h using FillsAll.induction with
  | nil items => rfl
  | cons items token fragment tokens fragments hhead hrest ih =>
    rw [Token.replaced, List.zipWith_cons_cons, List.flatten_cons, List.flatMap_cons, ih,
      ← hhead.text_eq]
    rfl

/-- There are as many skips among the fragments as among the arguments that were taken. -/
theorem skips_eq (h : builder.FillsAll items tokens fragments) :
    fragments.countP (fun fragment => fragment.kind = .skip) =
      (items.take (Token.placeholderCount tokens)).countP Argument.isSkip := by
  induction h using FillsAll.induction with
  | nil items => rfl
  | cons items token fragment tokens fragments hhead hrest ih =>
    rw [Token.placeholderCount_cons, List.take_add, List.countP_append, ← hhead.skips_eq, ← ih]
    show ([fragment] ++ fragments).countP _ = _
    exact List.countP_append

end FillsAll

/-! ## What cannot happen -/

/-- A placeholder has fewer placeholders in front of it than there are. -/
theorem placeholderCount_take_lt {i : Nat} (htoken : tokens[i]? = some token)
    (hplaceholder : token.isPlaceholder = true) :
    Token.placeholderCount (tokens.take i) < Token.placeholderCount tokens := by
  obtain ⟨hi, rfl⟩ := List.getElem?_eq_some_iff.mp htoken
  have hsplit : Token.placeholderCount tokens =
      Token.placeholderCount (tokens.take i) + Token.placeholderCount (tokens.drop i) := by
    simp only [Token.placeholderCount, ← List.countP_append, List.take_append_drop]
  -- the token itself is one more than those in front of it
  have hone : Token.placeholderCount [tokens[i]] = 1 := List.countP_cons_of_pos hplaceholder
  rw [List.drop_eq_getElem_cons hi, Token.placeholderCount_cons, hone] at hsplit
  omega

/-- The specifiers that a token can have are all known when a placeholder is filled. -/
theorem fillUnchecked_eq (specifier : Option Specifier) (position : Int) (argument : Argument) :
    builder.fillUnchecked (specifier.map fun s => [s.char]) position argument =
      builder.fillPlaceholder specifier position argument := by
  cases hskip : argument.isSkip with
  | true => simp [fillUnchecked, fillPlaceholder, hskip]
  | false =>
    cases specifier with
    | none => simp [fillUnchecked, hskip]
    | some specifier =>
      have hknown : Specifier.ofText? [specifier.char] = some specifier :=
        Specifier.ofChar?_char specifier
      simp [fillUnchecked, hskip, hknown]

/-! ## Whole substitutions -/

theorem counted_of_substitute {query : Query} (hitems : arguments.elements = .ok items)
    (hscan : Token.scan template = .ok tokens)
    (h : (builder.substitute template arguments).result = .ok query) :
    builder.Counted template items tokens := by
  cases hcount : builder.checkCount (Token.placeholderCount tokens) items.length with
  | ok => exact ⟨hscan, hcount⟩
  | error error =>
    rw [substitute_eq_fail hitems hscan hcount] at h
    cases h

namespace Counted

variable (h : builder.Counted template items tokens)

include h

/-- With a count that has passed, a substitution gives exactly the fragments that fill the
tokens. -/
theorem substitute_eq_ok_iff (hitems : arguments.elements = .ok items) {query : Query} :
    (builder.substitute template arguments).result = .ok query ↔
      query.placeholders = Token.placeholderCount tokens ∧
        builder.FillsAll items tokens query.fragments := by
  rw [h.substitute_eq hitems, Traced.result_map, ← fillTokens_eq_ok_iff]
  constructor
  · intro hquery
    obtain ⟨fragments, hfill, rfl⟩ := exists_of_map_eq_ok hquery
    exact ⟨rfl, hfill⟩
  · rintro ⟨hplaceholders, hfill⟩
    rw [hfill, ← hplaceholders]
    rfl

/-- With a count that has passed, a substitution is stopped by the first slot that cannot be
written. -/
theorem fault?_substitute_slots (hitems : arguments.elements = .ok items) :
    fault? (builder.substitute template arguments).result =
      (Token.slots tokens items).findSome? builder.slotFault? := by
  rw [h.substitute_eq hitems, Traced.result_map, fault?_map, fault?_fillTokens_slots h.le]

/-- Behind the count only an argument can stop a substitution. -/
theorem refusal_of_substitute (hitems : arguments.elements = .ok items)
    (hfault : (builder.substitute template arguments).result = .error fault) :
    builder.escaper.Refusal fault := by
  have hslots := h.fault?_substitute_slots hitems
  rw [fault?_eq_some_iff.mpr hfault] at hslots
  obtain ⟨slot, -, hslot⟩ := List.exists_of_findSome?_eq_some hslots.symm
  exact slotFault?_refusal hslot

/-- With a count that has passed, the index of each placeholder lies in the list. -/
theorem exists_argument {i : Nat} (htoken : tokens[i]? = some token)
    (hplaceholder : token.isPlaceholder = true) :
    ∃ argument, items[Token.placeholderCount (tokens.take i)]? = some argument := by
  have hlt : Token.placeholderCount (tokens.take i) < items.length :=
    (placeholderCount_take_lt htoken hplaceholder).trans_le h.le
  exact ⟨_, List.getElem?_eq_getElem hlt⟩

end Counted

section Scanned

variable (hitems : arguments.elements = .ok items) (hscan : Token.scan template = .ok tokens)

include hitems hscan

/-- A substitution succeeds exactly if the count passes and the tokens can be filled. -/
theorem substitute_eq_ok_iff {query : Query} :
    (builder.substitute template arguments).result = .ok query ↔
      builder.checkCount (Token.placeholderCount tokens) items.length = .ok () ∧
      query.placeholders = Token.placeholderCount tokens ∧
      builder.FillsAll items tokens query.fragments := by
  constructor
  · intro h
    have hcounted := counted_of_substitute hitems hscan h
    exact ⟨hcounted.count, (hcounted.substitute_eq_ok_iff hitems).mp h⟩
  · rintro ⟨hcount, hquery⟩
    have hcounted : builder.Counted template items tokens := ⟨hscan, hcount⟩
    exact (hcounted.substitute_eq_ok_iff hitems).mpr hquery

/-- A substitution succeeds exactly if the count passes and no slot is at fault. -/
theorem exists_query_iff :
    (∃ query, (builder.substitute template arguments).result = .ok query) ↔
      builder.checkCount (Token.placeholderCount tokens) items.length = .ok () ∧
      ∀ slot ∈ Token.slots tokens items, builder.slotFault? slot = none := by
  rw [← List.findSome?_eq_none_iff]
  constructor
  · rintro ⟨query, h⟩
    have hcounted := counted_of_substitute hitems hscan h
    rw [← hcounted.fault?_substitute_slots hitems]
    exact ⟨hcounted.count, fault?_eq_none_iff.mpr ⟨query, h⟩⟩
  · rintro ⟨hcount, hslots⟩
    have hcounted : builder.Counted template items tokens := ⟨hscan, hcount⟩
    rw [← hcounted.fault?_substitute_slots hitems] at hslots
    exact fault?_eq_none_iff.mp hslots

/-- A substitution that fails behind the scan has a wrong count, or is stopped by an argument. -/
theorem argumentCount_or_refusal
    (hfault : (builder.substitute template arguments).result = .error fault) :
    fault = .query (.argumentCount (Token.placeholderCount tokens) items.length) ∨
      builder.escaper.Refusal fault := by
  cases hcount : builder.checkCount (Token.placeholderCount tokens) items.length with
  | ok =>
    have hcounted : builder.Counted template items tokens := ⟨hscan, hcount⟩
    exact .inr (hcounted.refusal_of_substitute hitems hfault)
  | error error =>
    rw [substitute_eq_fail hitems hscan hcount, checkCount_eq_error hcount] at hfault
    cases hfault
    exact .inl rfl

end Scanned

/-- No argument is refused because there is none, or because of a specifier. -/
theorem routine_of_refusal {escaper : Escaper} (h : escaper.Refusal fault)
    (hfault : fault = .missingArgument ∨
      ∃ name position, fault = .query (.invalidSpecifier name position)) :
    ∃ s, escaper.text.escape s = .error fault := by
  cases h with
  | routine h => exact ⟨_, h⟩
  | unsupported h =>
    obtain ⟨kind, reason, rfl⟩ := h
    simp at hfault
  | coercion h =>
    obtain ⟨specifier, kind, rfl⟩ := h
    simp at hfault
  | emptyArray | tooManyDigits | signalingNaN => simp at hfault

end Builder

/-- **Substitution is exact.** Take a template that can be scanned, and arguments that can be gone
through. There is a query exactly if the count passes and every slot can be filled, and its
fragments are what the tokens become, one for each and in order: texts and braces stay as they are,
and placeholder number `k` takes argument number `k`. The query therefore stands where the tokens
stand, its text is the template with its placeholders replaced, and it skips as often as the
arguments it has used ask for. Once the count has passed, every placeholder finds its argument and
has a specifier that is known; so nothing fails for want of either, unless the routine that escapes
texts says so. -/
theorem substitute_fills (builder : Builder) {template : Text} {arguments : Argument}
    {items : List Argument} {tokens : List Token} (hitems : arguments.elements = .ok items)
    (hscan : Token.scan template = .ok tokens) :
    let counted := builder.checkCount (Token.placeholderCount tokens) items.length = .ok ()
    let result := (builder.substitute template arguments).result
    ((∃ query, result = .ok query) ↔
      counted ∧ ∀ slot ∈ Token.slots tokens items, builder.slotFault? slot = none) ∧
    (∀ query, result = .ok query ↔ counted ∧
      query.placeholders = Token.placeholderCount tokens ∧
      builder.FillsAll items tokens query.fragments) ∧
    (∀ query, result = .ok query →
      query.fragments.map Fragment.position = tokens.map (fun token => (token.position : Int)) ∧
      tokens.flatMap Token.lexeme = template ∧
      query.text = Token.replaced tokens query.fragments ∧
      query.skipped = (items.take (Token.placeholderCount tokens)).countP Argument.isSkip) ∧
    (counted → ∀ (i : Nat) specifier position,
      tokens[i]? = some (.placeholder specifier position) →
      ∃ argument, items[Token.placeholderCount (tokens.take i)]? = some argument ∧
        builder.fillUnchecked (specifier.map fun s => [s.char]) position argument =
          builder.fillPlaceholder specifier position argument) ∧
    (∀ fault, result = .error fault →
      (fault = .missingArgument ∨
        ∃ name position, fault = .query (.invalidSpecifier name position)) →
      ∃ s, builder.escaper.text.escape s = .error fault) := by
  intro counted result
  have hok : ∀ query, result = .ok query ↔ counted ∧
      query.placeholders = Token.placeholderCount tokens ∧
      builder.FillsAll items tokens query.fragments :=
    fun query => Builder.substitute_eq_ok_iff hitems hscan
  -- all that is said of a query follows from its fragments being those that fill the tokens
  refine ⟨Builder.exists_query_iff hitems hscan, hok, fun query h => ?_,
    fun hcount i specifier position htoken => ?_, fun fault h hfault => ?_⟩
  · have hfills := ((hok query).mp h).2.2
    exact ⟨hfills.position_eq, (Token.scanned_of_scanFrom hscan).flatMap_lexeme, hfills.text_eq,
      hfills.skips_eq⟩
  · have hcounted : builder.Counted template items tokens := ⟨hscan, hcount⟩
    obtain ⟨argument, hargument⟩ := hcounted.exists_argument htoken rfl
    exact ⟨argument, hargument, Builder.fillUnchecked_eq ..⟩
  · rcases Builder.argumentCount_or_refusal hitems hscan h with rfl | hrefusal
    · simp at hfault
    · exact Builder.routine_of_refusal hrefusal hfault

/-- Arguments of which one skips and the last is left over. -/
theorem substitute_fills_of_skip :
    let builder : Builder :=
      { escaper := .ofDialect .mysql none, options := { allowExtraArgs := true } }
    let items : List Argument := [.ofText ['x'], .skip, .skip]
    let tokens : List Token := [.placeholder none 0, .text [' '] 1, .brace .opening 2,
      .placeholder (some .integer) 3, .brace .closing 5]
    let query : Query := ⟨[⟨.literal, "'x'".toList, 0⟩, ⟨.text, [' '], 1⟩, .opening 2, .skip 3,
      .closing 5], 2⟩
    builder.FillsAll items tokens query.fragments ∧
      query.text = Token.replaced tokens query.fragments ∧ query.skipped = 1 := by
  intro builder items tokens query
  have hitems : (Argument.ofList items).elements = .ok items := rfl
  have hscan : Token.scan "? \x7b?d\x7d".toList = .ok tokens := by rfl
  obtain ⟨-, hok, hquery, -, -⟩ := substitute_fills builder hitems hscan
  obtain ⟨-, -, htext, hskipped⟩ := hquery query (by rfl)
  exact ⟨((hok query).mp (by rfl)).2.2, htext, hskipped⟩

end SqlTemplate
