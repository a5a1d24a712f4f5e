import SqlTemplate.Value.Tagged

/-!
# The laws of reading

The validator that reads records field by field keeps the laws of validators (`lawful_validator`),
whatever the things in the records answer, as long as the kinds that the library knows answer
rightly, and however many records inside one another it goes into.

Each of its checks comes with the statement of what it lets pass. The laws put these together.
-/

namespace SqlTemplate.Tagged

section Checks

variable {α β : Type} {argument : Argument}

theorem bool_eq_ok_iff {b : Bool} : bool argument = .ok b ↔ argument = .bool b := by
  cases argument <;> simp [bool, Checked.issue]

theorem int_eq_ok_iff {n : Int} : int argument = .ok n ↔ ∃ member, argument = .int member n := by
  cases argument <;> simp [int, Checked.issue]

theorem text_eq_ok_iff {s : Text} :
    text argument = .ok s ↔ ∃ member, argument = .text member s := by
  cases argument <;> simp [text, Checked.issue]

/-- An issue where there is nothing to check. -/
theorem elim_issue_eq_ok_iff {o : Option α} {kind : IssueKind} {check : α → Checked β} {b : β} :
    o.elim (.issue kind) check = .ok b ↔ ∃ a, o = some a ∧ check a = .ok b := by
  cases o <;> simp [Checked.issue]

/-- The parts of a sequence pass if each of them does. -/
theorem each_eq_ok_iff {check : Argument → Checked α} {i : Nat} {parts : List Argument}
    {contents : List α} :
    each check i parts = .ok contents ↔ parts.map check = contents.map .ok := by
  induction parts generalizing i contents with
  | nil => simp [each, eq_comm]
  | cons part parts ih =>
    rw [each, List.map_cons, Checked.map_eq_ok_iff]
    simp only [Checked.both_eq_ok_iff, Checked.under_eq_ok_iff, ih, Prod.exists]
    cases contents with
    | nil => simp
    | cons first rest =>
      rw [List.map_cons, List.cons_eq_cons]
      constructor
      · rintro ⟨_, _, hparts, h⟩
        cases h
        exact hparts
      · intro hparts
        exact ⟨first, rest, hparts, rfl⟩

theorem both_eq_ok_iff {first : Argument → Checked α} {second : Argument → Checked β}
    {parts : List Argument} {contents : α × β} :
    both first second parts = .ok contents ↔
      ∃ left right, parts = [left, right] ∧ first left = .ok contents.1 ∧
        second right = .ok contents.2 := by
  match parts with
  | [] | [_] => simp [both, Checked.issue]
  | [left, right] => simp [both, and_assoc]
  | _ :: _ :: _ :: _ => simp [both, Checked.issue]

end Checks

section Records

variable {check : {α : Type} → Schema α → Argument → Checked α} {kind : String}
  {entries : List (Argument × Argument)} {value : SqlValue}

/-- A field is read if it passes, or if it is not there and can be left out. -/
theorem readField_eq_ok_iff {α : Type} {read : Argument → Checked α} {name : Text}
    {default? : Option α} {content : α} :
    readField read name default? entries = .ok content ↔
      (∃ item, Field name item entries ∧ read item = .ok content) ∨
        (∀ entry ∈ entries, ¬IsNamed name entry) ∧ default? = some content := by
  rw [readField]
  simp only [← field?_eq_some_iff, ← field?_eq_none_iff]
  cases field? name entries with
  | some item => simp
  | none => cases default? <;> simp [Checked.issue]

/-- A record is read by a model if the model gives the value and knows every entry. -/
theorem readRecord_eq_ok_iff {model : Model} :
    readRecord check entries model = .ok value ↔
      OnlyNamed (kindField :: model.names) entries ∧ model.Gives check entries value := by
  unfold readRecord
  rw [Checked.adding_eq_ok_iff, unknownFields_eq_nil_iff, and_comm]
  refine and_congr_right fun _ => ?_
  cases model with
  | bare result => exact ⟨fun h => (Except.ok.inj h).symm, fun h => congrArg Except.ok h.symm⟩
  | field name schema default? make =>
    simp only [Checked.map_eq_ok_iff, readField_eq_ok_iff, Model.Gives]
    exact exists_congr fun content => and_comm.trans (and_congr_left fun _ => eq_comm)

variable {c : Conversions} {choice : Shape → Checked SqlValue} {argument : Argument}

/-- Something is read by its tag if its mark is equal to one. -/
theorem dispatch_eq_ok_iff :
    dispatch c choice argument = .ok value ↔
      ∃ sign shape, mark argument = .ok sign ∧ c.text? sign = some shape.tag ∧
        choice shape = .ok value := by
  simp only [← Conversions.shape?_eq_some_iff]
  unfold dispatch
  cases mark argument with
  | error issues => exact iff_of_false (by simp [bind, Except.bind]) (by simp)
  | ok sign =>
    simp only [bind, Except.bind, Except.ok.injEq, exists_and_left, exists_eq_left']
    cases c.shape? sign with
    | none => simp [Checked.issue]
    | some shape => simp

theorem mark_mapping_eq_ok_iff {sign : Argument} :
    mark (.mapping kind entries) = .ok sign ↔ Field kindField sign entries := by
  rw [mark, elim_issue_eq_ok_iff, ← field?_eq_some_iff]
  simp [tag?]

theorem mark_classified (value : SqlValue) :
    mark (.classified value) = .ok (.ofText value.shape.tag) := by
  rfl

end Records

section Laws

variable {c : Conversions} {limit : Nat}

/-- Beyond the limit there is nothing that is read. -/
theorem value_zero_ne_ok {argument : Argument} {result : SqlValue} :
    value c 0 argument ≠ .ok result := by
  intro h
  rw [value, dispatch_eq_ok_iff] at h
  obtain ⟨_, _, _, _, hchoice⟩ := h
  cases hchoice

/-- With at least one record to go into, a mapping is read as its record's shape says, and its parts
with one record less. -/
theorem value_succ_mapping_eq_ok_iff {depth : Nat} {kind : String}
    {entries : List (Argument × Argument)} {result : SqlValue} :
    value c (depth + 1) (.mapping kind entries) = .ok result ↔
      ∃ shape, IsRecord c shape shape.model.names entries ∧
        shape.model.Gives (checkWith c (value c depth)) entries result := by
  rw [value, dispatch_eq_ok_iff]
  simp only [mark_mapping_eq_ok_iff, readRecord_eq_ok_iff]
  constructor
  · rintro ⟨sign, shape, hsign, htag, hknown, hgives⟩
    exact ⟨shape, ⟨⟨sign, hsign, htag⟩, hknown⟩, hgives⟩
  · rintro ⟨shape, ⟨⟨sign, hsign, htag⟩, hknown⟩, hgives⟩
    exact ⟨sign, shape, hsign, htag, hknown, hgives⟩

/-- What is read within the limit is a value or a mapping. Everything else has no tag, or is none of
the two when it comes to reading it. -/
theorem value_succ_cases {depth : Nat} {argument : Argument} {result : SqlValue}
    (h : value c (depth + 1) argument = .ok result) :
    argument = .classified result ∨
      ∃ kind entries shape, argument = .mapping kind entries ∧
        IsRecord c shape shape.model.names entries ∧
          shape.model.Gives (checkWith c (value c depth)) entries result := by
  cases argument with
  | mapping kind entries =>
    obtain ⟨shape, hrecord⟩ := value_succ_mapping_eq_ok_iff.mp h
    exact .inr ⟨kind, entries, shape, rfl, hrecord⟩
  | classified inner =>
    rw [value, dispatch_eq_ok_iff] at h
    obtain ⟨_, _, _, _, hchoice⟩ := h
    cases hchoice
    exact .inl rfl
  | _ =>
    rw [value, dispatch_eq_ok_iff] at h
    obtain ⟨_, _, _, _, hchoice⟩ := h
    cases hchoice

/-- The depth that is left one record further in. -/
theorem sub_eq_succ {depth : Nat} (h : depth < limit) :
    limit - depth = limit - (depth + 1) + 1 := by
  omega

/-- The validator that reads records field by field keeps the laws, however far in it goes. -/
theorem lawful_validator (h : c.Standard) (limit : Nat) : (validator c limit).Lawful where
  standard := h
  bool := bool_eq_ok_iff
  int := int_eq_ok_iff
  float := by
    intro depth argument x
    simp only [validator, checkWith, elim_issue_eq_ok_iff]
    simp
  text := text_eq_ok_iff
  many := by
    intro α depth item argument contents
    simp only [validator, checkWith, elim_issue_eq_ok_iff, each_eq_ok_iff]
  pair := by
    intro α β depth first second argument contents
    simp only [validator, checkWith, elim_issue_eq_ok_iff, both_eq_ok_iff]
    constructor
    · rintro ⟨_, hparts, left, right, rfl, hchecks⟩
      exact ⟨left, right, hparts, hchecks⟩
    · rintro ⟨left, right, hparts, hchecks⟩
      exact ⟨_, hparts, left, right, rfl, hchecks⟩
  value_sound := by
    intro depth argument result hread
    change value c (limit - depth) argument = .ok result at hread
    -- beyond the limit the reader has no depth left, and reads nothing
    by_cases hdepth : depth < limit
    · rw [sub_eq_succ hdepth] at hread
      refine (value_succ_cases hread).imp_right ?_
      rintro ⟨kind, entries, shape, rfl, hrecord, hgives⟩
      exact ⟨kind, entries, shape, rfl, hrecord, hgives⟩
    · rw [Nat.sub_eq_zero_of_le (by omega)] at hread
      exact absurd hread value_zero_ne_ok
  classified := by
    intro depth hdepth result
    have hdepth : depth < limit := hdepth
    change value c (limit - depth) (.classified result) = .ok result
    rw [sub_eq_succ hdepth, value, dispatch_eq_ok_iff]
    exact ⟨_, result.shape, mark_classified result, h.text none _, rfl⟩
  record := by
    intro depth hdepth shape entries result kind hreads
    have hdepth : depth < limit := hdepth
    change value c (limit - depth) (.mapping kind entries) = .ok result
    rw [sub_eq_succ hdepth, value_succ_mapping_eq_ok_iff]
    exact ⟨shape, hreads.isRecord, hreads.gives⟩

end Laws

end SqlTemplate.Tagged
