import SqlTemplate.Proofs.Filling
import SqlTemplate.Proofs.Flattening
import SqlTemplate.Proofs.ReadBack

/-!
# Collections that leave nothing

Options can refuse empty collections. What is refused is an argument that is a sequence or a mapping
and has no items; whether anything is written for an argument is another question, which its
*hollowness* answers: a list without items is hollow, and so is a list of one hollow item, since no
comma is written in it. A classified value may be hollow, and the options do not look into it.

* `Escaper.render_eq_nil_iff`: the values for which nothing is written are the hollow ones.
* `Builder.literal_eq_nil_iff`: what gets past the options and leaves nothing.
* `substitute_hollow`: the same of each placeholder of a template.
-/

namespace SqlTemplate

theorem Text.commaSeparated_eq_nil_iff {parts : List Text} :
    commaSeparated parts = [] ↔ parts = [] ∨ parts = [[]] := by
  cases parts with
  | nil => exact iff_of_true rfl (.inl rfl)
  | cons part parts =>
    cases parts with
    | nil =>
      rw [commaSeparated_singleton]
      simp
    | cons next parts =>
      rw [commaSeparated_cons (List.cons_ne_nil _ _)]
      simp

/-- A text that is read as something is not empty. -/
theorem Reads.ne_nil {idiom : Idiom} {s : Text} {token : SqlToken} {tokens : List SqlToken}
    (h : Reads idiom s (token :: tokens)) : s ≠ [] := by
  rintro rfl
  have hread := h [] nofun
  rw [List.append_nil, lex.eq_def] at hread
  cases hread

/-! ## Values -/

/-- Whether nothing is written for the value: an empty collection, or a list with one such item. A
dialect may also have an empty word for a truth value. -/
def Dialect.isHollow (dialect : Dialect) : SqlValue → Bool
  | .bool value => (dialect.boolLiteral value).isEmpty
  | .list [] => true
  | .list [item] => dialect.isHollow item
  | .list (_ :: _ :: _) => false
  | .mapping entries => entries.isEmpty
  | .null | .int _ | .float _ | .text _ => false

namespace Escaper

variable {escaper : Escaper} {value : SqlValue} {s : Text}

theorem textLiteral_ne_nil {content : Text} (h : (escaper.textLiteral content).result = .ok s) :
    s ≠ [] := by
  rw [result_textLiteral] at h
  obtain ⟨escaped, -, rfl⟩ := exists_of_map_eq_ok h
  exact List.cons_ne_nil _ _

/-- A single item is written as if it stood outside the list. -/
theorem result_render_singleton (item : SqlValue) :
    (escaper.render (.list [item])).result = (escaper.render item).result := by
  rw [result_render_list, result_renderItems_cons]
  cases (escaper.render item).result with
  | error fault => rfl
  | ok written => exact congrArg Except.ok (Text.commaSeparated_singleton written)

/-- There is a part for each entry, and at least the sign behind the key stands in it. -/
theorem parts_of_renderEntries {entries : List (Text × SqlValue)} {parts : List Text}
    (h : (escaper.renderEntries entries).result = .ok parts) :
    parts.length = entries.length ∧ [] ∉ parts := by
  induction entries generalizing parts with
  | nil =>
    cases h
    exact ⟨rfl, List.not_mem_nil⟩
  | cons entry entries ih =>
    obtain ⟨key, item⟩ := entry
    rw [result_renderEntries_cons] at h
    obtain ⟨written, -, h⟩ := exists_of_bind_eq_ok h
    obtain ⟨rest, hrest, rfl⟩ := exists_of_map_eq_ok h
    obtain ⟨hlength, hmem⟩ := ih hrest
    refine ⟨congrArg Nat.succ hlength, ?_⟩
    rw [List.mem_cons, not_or]
    exact ⟨by simp, hmem⟩

/-- Nothing is written for the hollow values, and only for them. -/
theorem render_eq_nil_iff : ∀ value : SqlValue,
    (escaper.render value).result = .ok [] ↔ escaper.dialect.isHollow value = true
  | .null => iff_of_false nofun Bool.false_ne_true
  | .bool value => by
    show Except.ok (escaper.dialect.boolLiteral value) = Except.ok [] ↔ _
    rw [Except.ok.injEq]
    exact List.isEmpty_iff.symm
  | .int n => by
    refine iff_of_false (fun h => ?_) Bool.false_ne_true
    have hreads : Reads ⟨.backtick, true, false⟩ [] [.integer n] := reads_intLiteral h
    exact hreads.ne_nil rfl
  | .float x => by
    refine iff_of_false (fun h => ?_) Bool.false_ne_true
    have hreads : Reads ⟨.backtick, true, false⟩ [] [.float x] := reads_floatLiteral h
    exact hreads.ne_nil rfl
  | .text content => iff_of_false (fun h => textLiteral_ne_nil h rfl) Bool.false_ne_true
  | .list [] => iff_of_true rfl rfl
  | .list [item] => by
    rw [result_render_singleton, Dialect.isHollow]
    exact render_eq_nil_iff item
  | .list (item :: next :: items) => by
    refine iff_of_false (fun h => ?_) Bool.false_ne_true
    -- a comma stands between the first two items
    rw [result_render_list, result_renderItems_cons, result_renderItems_cons] at h
    obtain ⟨parts, hparts, hnil⟩ := exists_of_map_eq_ok h
    obtain ⟨first, -, hmore⟩ := exists_of_bind_eq_ok hparts
    obtain ⟨rest, hrest, rfl⟩ := exists_of_map_eq_ok hmore
    obtain ⟨second, -, hmore⟩ := exists_of_bind_eq_ok hrest
    obtain ⟨rest, -, rfl⟩ := exists_of_map_eq_ok hmore
    simp [Text.commaSeparated_eq_nil_iff] at hnil
  | .mapping [] => iff_of_true rfl rfl
  | .mapping (entry :: entries) => by
    refine iff_of_false (fun h => ?_) Bool.false_ne_true
    rw [result_render_mapping] at h
    obtain ⟨parts, hparts, hnil⟩ := exists_of_map_eq_ok h
    obtain ⟨hlength, hmem⟩ := parts_of_renderEntries hparts
    rcases Text.commaSeparated_eq_nil_iff.mp hnil with rfl | rfl
    · cases hlength
    · exact hmem (List.mem_singleton_self _)

/-- Nothing is written for names exactly if nothing stands in the only place. -/
theorem identifier_eq_nil_iff {argument : Argument} : escaper.identifier argument = .ok [] ↔
    ∃ place, argument.places = .ok [place] ∧ escaper.dialect.writePlace place = [] := by
  constructor
  · intro h
    have hplaces : SameOutcome _ (escaper.identifier argument) _ :=
      identifier_sameOutcome_places argument
    rw [h] at hplaces
    generalize argument.places = places? at hplaces
    cases hplaces with
    | ok hjoins =>
      rcases Text.commaSeparated_eq_nil_iff.mp hjoins.eq.symm with hnil | hone
      · exact absurd hnil hjoins.ne_nil
      · obtain ⟨place, rfl, hplace⟩ := List.map_eq_singleton_iff.mp hone
        exact ⟨place, rfl, hplace⟩
  · rintro ⟨place, hplaces, hplace⟩
    rw [identifier_eq_places, hplaces]
    exact congrArg Except.ok ((Text.commaSeparated_singleton _).trans hplace)

end Escaper

/-! ## Slots -/

/-- Nothing is written for the argument of the slot, which asks for a collection or for names: the
argument is a collection whose value is hollow, or there is one place for a name and nothing stands
in it. -/
inductive Slot.Hollow (dialect : Dialect) : Slot → Prop
  | array {argument : Argument} {value : SqlValue} (hvalue : argument.classify = .ok value)
    (hshape : value.shape = .list ∨ value.shape = .mapping)
    (hollow : dialect.isHollow value = true) : Hollow dialect ⟨some .array, argument⟩
  | identifier {argument : Argument} {place : Option Text}
    (hplaces : argument.places = .ok [place]) (hollow : dialect.writePlace place = []) :
    Hollow dialect ⟨some .identifier, argument⟩

namespace Builder

variable {builder : Builder} {specifier : Specifier} {argument : Argument}

theorem checkNotEmpty_eq_ok_iff (specifier : Specifier)
    (hoptions : builder.options.allowEmptyArrays = false) :
    builder.checkNotEmpty specifier argument = .ok () ↔ argument.isEmptyCollection = false := by
  simp [checkNotEmpty, hoptions]

/-- An empty collection is refused where a collection or names are asked for. -/
theorem slotFault?_of_isEmptyCollection (hoptions : builder.options.allowEmptyArrays = false)
    (hspecifier : specifier = .array ∨ specifier = .identifier)
    (hempty : argument.isEmptyCollection = true) :
    builder.slotFault? ⟨some specifier, argument⟩ =
      some (.query (.emptyArray [specifier.char])) := by
  have hskip : argument.isSkip = false := by
    cases argument <;> first | rfl | cases hempty
  have hcheck :
      builder.checkNotEmpty specifier argument = .error (.emptyArray [specifier.char]) := by
    simp [checkNotEmpty, hoptions, hempty]
  rw [slotFault?, hskip, if_neg Bool.false_ne_true]
  rcases hspecifier with rfl | rfl
  · rw [literal, hcheck]
    rfl
  · rw [literal, hcheck]
    rfl

theorem literal_array_eq_nil_iff (hoptions : builder.options.allowEmptyArrays = false)
    (hskip : argument.isSkip = false) :
    (builder.literal (some .array) argument).result = .ok [] ↔
      argument.isEmptyCollection = false ∧
        Slot.Hollow builder.escaper.dialect ⟨some .array, argument⟩ := by
  constructor
  · intro h
    -- what is written as nothing is written, and so its value is known
    have hfilled : builder.slotFault? ⟨some .array, argument⟩ = none := by
      rw [slotFault?, hskip, if_neg Bool.false_ne_true, h]
      rfl
    obtain ⟨value, hadmits⟩ := exists_admits (.inr rfl) hskip hfilled
    rw [hadmits.literal_eq] at h
    cases hadmits with
    | array hcheck hvalue hshape =>
      exact ⟨(checkNotEmpty_eq_ok_iff .array hoptions).mp hcheck,
        .array hvalue hshape ((Escaper.render_eq_nil_iff _).mp h)⟩
  · rintro ⟨hempty, hhollow⟩
    cases hhollow with
    | array hvalue hshape hollow =>
      have hcheck := (checkNotEmpty_eq_ok_iff .array hoptions).mpr hempty
      have hadmits : builder.Admits ⟨some .array, argument⟩ _ := .array hcheck hvalue hshape
      rw [hadmits.literal_eq]
      exact (Escaper.render_eq_nil_iff _).mpr hollow

theorem hollow_identifier_iff {dialect : Dialect} :
    Slot.Hollow dialect ⟨some .identifier, argument⟩ ↔
      ∃ place, argument.places = .ok [place] ∧ dialect.writePlace place = [] := by
  constructor
  · intro h
    cases h with
    | identifier hplaces hollow => exact ⟨_, hplaces, hollow⟩
  · rintro ⟨place, hplaces, hollow⟩
    exact .identifier hplaces hollow

theorem literal_identifier_eq_nil_iff (hoptions : builder.options.allowEmptyArrays = false) :
    (builder.literal (some .identifier) argument).result = .ok [] ↔
      argument.isEmptyCollection = false ∧
        Slot.Hollow builder.escaper.dialect ⟨some .identifier, argument⟩ := by
  rw [hollow_identifier_iff, ← Escaper.identifier_eq_nil_iff,
    ← checkNotEmpty_eq_ok_iff .identifier hoptions, literal, Traced.result_bind]
  cases builder.checkNotEmpty .identifier argument with
  | error error => simp [Traced.result_ofQuery, Except.mapError, bind, Except.bind]
  | ok =>
    -- behind the check it is all about the names
    show (builder.escaper.escapeIdentifier argument).result = .ok [] ↔ _
    rw [Escaper.escapeIdentifier, Traced.result_ofQuery]
    cases builder.escaper.identifier argument with
    | error error => simp [Except.mapError]
    | ok s => simp [Except.mapError]

/-- A literal for a collection or for names was made from an argument that is no empty collection,
and it is empty exactly if the slot is hollow. -/
theorem Fills.hollow {argument? : Option Argument} {position : Nat} {fragment : Fragment}
    (h : builder.Fills argument? (.placeholder (some specifier) position) fragment)
    (hoptions : builder.options.allowEmptyArrays = false)
    (hspecifier : specifier = .array ∨ specifier = .identifier) (hkind : fragment.kind = .literal) :
    ∃ argument, argument? = some argument ∧ argument.isEmptyCollection = false ∧
      (fragment.text = [] ↔
        Slot.Hollow builder.escaper.dialect ⟨some specifier, argument⟩) := by
  cases h with
  | skip => cases hkind
  | @literal _ argument written _ hargument hskip hwritten =>
    -- an empty collection would have been refused, and there would be no literal
    have hempty : argument.isEmptyCollection = false := by
      by_contra hempty
      have hfault := slotFault?_of_isEmptyCollection hoptions hspecifier (by simpa using hempty)
      rw [slotFault?, if_neg (mt Argument.isSkip_iff.mp hskip), hwritten] at hfault
      cases hfault
    refine ⟨argument, hargument, hempty, ?_⟩
    have hiff : (builder.literal (some specifier) argument).result = .ok [] ↔
        argument.isEmptyCollection = false ∧
          Slot.Hollow builder.escaper.dialect ⟨some specifier, argument⟩ := by
      rcases hspecifier with rfl | rfl
      · exact literal_array_eq_nil_iff hoptions (by simpa using mt Argument.isSkip_iff.mp hskip)
      · exact literal_identifier_eq_nil_iff hoptions
    rw [hwritten, Except.ok.injEq] at hiff
    exact hiff.trans (and_iff_right hempty)

end Builder

/-- **Which empty collections get through.** Where the options refuse empty collections, one of them
in a place for a collection or for names is an error that names the placeholder. Once a template is
filled in, no such place has an empty collection, and its literal is empty exactly if the argument
is hollow without being an empty collection itself: an empty list in a list of one, or a classified
value. -/
theorem substitute_hollow (builder : Builder) (hoptions : builder.options.allowEmptyArrays = false)
    {template : Text} {arguments : Argument} {items : List Argument} {tokens : List Token}
    (hitems : arguments.elements = .ok items) (hscan : Token.scan template = .ok tokens) :
    (∀ specifier argument, specifier = .array ∨ specifier = .identifier →
      argument.isEmptyCollection = true → builder.slotFault? ⟨some specifier, argument⟩ =
        some (.query (.emptyArray [specifier.char]))) ∧
    ∀ query, (builder.substitute template arguments).result = .ok query →
      ∀ (i : Nat) specifier position fragment,
        tokens[i]? = some (.placeholder (some specifier) position) →
        specifier = .array ∨ specifier = .identifier →
        query.fragments[i]? = some fragment → fragment.kind = .literal →
        ∃ argument, items[Token.placeholderCount (tokens.take i)]? = some argument ∧
          argument.isEmptyCollection = false ∧
          (fragment.text = [] ↔
            Slot.Hollow builder.escaper.dialect ⟨some specifier, argument⟩) := by
  constructor
  · intro specifier argument hspecifier hempty
    exact Builder.slotFault?_of_isEmptyCollection hoptions hspecifier hempty
  · intro query hquery i specifier position fragment htoken hspecifier hfragment hkind
    obtain ⟨-, -, hfills⟩ := (Builder.substitute_eq_ok_iff hitems hscan).mp hquery
    exact (hfills.fills i _ fragment htoken hfragment).hollow hoptions hspecifier hkind

/-- A list of two empty lists leaves a comma, and an empty list is refused. -/
theorem substitute_hollow_of_two :
    let builder : Builder :=
      { escaper := .ofDialect .mysql none, options := { allowEmptyArrays := false } }
    let pair : Argument := .ofList [.ofList [], .ofTuple []]
    builder.slotFault? ⟨some .array, .ofTuple []⟩ = some (.query (.emptyArray ['a'])) ∧
      pair.isEmptyCollection = false ∧
      ¬ Slot.Hollow builder.escaper.dialect ⟨some .array, pair⟩ := by
  intro builder pair
  have hitems : (Argument.ofList [pair]).elements = .ok [pair] := rfl
  have hscan : Token.scan "?a".toList = .ok [.placeholder (some .array) 0] := by rfl
  obtain ⟨hrefused, hfilled⟩ := substitute_hollow builder rfl hitems hscan
  obtain ⟨argument, hargument, hempty, hhollow⟩ := hfilled ⟨[⟨.literal, [',', ' '], 0⟩], 1⟩
    (by rfl) 0 .array 0 ⟨.literal, [',', ' '], 0⟩ rfl (.inl rfl) rfl rfl
  cases hargument
  exact ⟨hrefused .array _ (.inl rfl) rfl, hempty, mt hhollow.mpr (by decide)⟩

/-- Nothing is written for a classified list without items, nor for an empty list in a list. -/
theorem exists_empty_literal :
    let builder : Builder :=
      { escaper := .ofDialect .mysql none, options := { allowEmptyArrays := false } }
    let empty : Query := ⟨[⟨.literal, [], 0⟩], 1⟩
    (builder.substitute "?a".toList (.ofList [.classified (.list [])])).result = .ok empty ∧
      (builder.substitute "?a".toList (.ofList [.classified (.mapping [])])).result = .ok empty ∧
      (builder.substitute "?a".toList (.ofList [.ofList [.ofList []]])).result = .ok empty ∧
      (builder.substitute "?#".toList (.ofList [.ofTuple [.ofList []]])).result = .ok empty := by
  exact ⟨by rfl, by rfl, by rfl, by rfl⟩

end SqlTemplate
