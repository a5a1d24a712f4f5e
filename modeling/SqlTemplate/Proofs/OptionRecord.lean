import SqlTemplate.Options

/-!
# Options from records

When a record is accepted as options, and what is wrong with one that is not. Options come back from
the record of all their fields (`ofRecord_toRecord`), so that the defaults pass their own checks,
and an empty record gives the defaults. Every issue of a record names one of its fields, and says of
it that there is no such option exactly if there is none (`names_of_ofRecord_eq_error`).
-/

namespace SqlTemplate.Options

/-- The options as a record of all their fields. -/
def toRecord (options : Options) : List (Text × Argument) :=
  [("target".toList, .ofText options.target),
    ("allow_extra_args".toList, .bool options.allowExtraArgs),
    ("allow_empty_arrays".toList, .bool options.allowEmptyArrays)]

/-! ## What is accepted -/

section Accepted

variable {record : List (Text × Argument)}

/-- A field is read from what stands under its name, and has its default if nothing does. -/
theorem readField_eq_ok_iff {α : Type} {name : Text} {read : Argument → Checked α} {default a : α} :
    readField record name read default = .ok a ↔
      (∃ argument, record.lookup name = some argument ∧ read argument = .ok a) ∨
        record.lookup name = none ∧ default = a := by
  unfold readField
  cases record.lookup name <;> simp

/-- A record is accepted if it has no other names than those of the options, and each option passes
or is left out. -/
theorem ofRecord_eq_ok_iff {options : Options} :
    ofRecord record = .ok options ↔
      (∀ field ∈ record, field.1 ∈ fieldNames) ∧
        readField record "target".toList readTarget ({} : Options).target = .ok options.target ∧
        readField record "allow_extra_args".toList readBool ({} : Options).allowExtraArgs =
          .ok options.allowExtraArgs ∧
        readField record "allow_empty_arrays".toList readBool ({} : Options).allowEmptyArrays =
          .ok options.allowEmptyArrays := by
  -- there is no issue for an unknown name exactly if there is no unknown name
  have hunknown : ((record.map (·.1)).filter (!fieldNames.contains ·)).map
      (fun name => (⟨.fieldUnknown, [name]⟩ : Issue)) = [] ↔
      ∀ field ∈ record, field.1 ∈ fieldNames := by
    simp
  rw [ofRecord]
  simp only [Checked.map_eq_ok_iff, Checked.adding_eq_ok_iff, Checked.both_eq_ok_iff, hunknown]
  constructor
  · rintro ⟨⟨target, extra, empty⟩, ⟨⟨htarget, hextra, hempty⟩, hknown⟩, rfl⟩
    exact ⟨hknown, htarget, hextra, hempty⟩
  · rintro ⟨hknown, htarget, hextra, hempty⟩
    exact ⟨(options.target, options.allowExtraArgs, options.allowEmptyArrays),
      ⟨⟨htarget, hextra, hempty⟩, hknown⟩, rfl⟩

/-- The record of options is read as them. -/
theorem ofRecord_toRecord (options : Options) : ofRecord options.toRecord = .ok options := by
  refine ofRecord_eq_ok_iff.mpr ⟨?_, rfl, rfl, rfl⟩
  simp [toRecord, fieldNames]

/-- What is left out of a record has its default. -/
theorem ofRecord_nil : ofRecord [] = .ok {} :=
  rfl

/-- A draft is finished as soon as its target is a text, which need not be the name of a dialect. -/
theorem finish_of_text {draft : OptionsDraft} {member : Option Member} {target : Text}
    (h : draft.target = .text member target) :
    draft.finish = .ok ⟨target, draft.allowExtraArgs, draft.allowEmptyArrays⟩ := by
  rw [OptionsDraft.finish, h]
  refine ofRecord_eq_ok_iff.mpr ⟨?_, rfl, rfl, rfl⟩
  simp [fieldNames]

end Accepted

/-! ## What is refused -/

section Refused

variable {record : List (Text × Argument)} {issue : Issue}

theorem kind_of_mem_readTarget {argument : Argument} (h : issue ∈ (readTarget argument).issues) :
    issue.kind ≠ .fieldUnknown := by
  unfold readTarget at h
  split at h
  · cases h
  · simp only [Checked.issues, List.mem_cons, List.not_mem_nil, or_false] at h
    rcases h with rfl | rfl <;> simp

theorem readWord_cases (s : Text) :
    (∃ b, readWord s = .ok b) ∨ readWord s = .issue .unreadableBool := by
  unfold readWord
  cases boolOfWord? (s.map Char.toLower) with
  | some b => exact .inl ⟨b, rfl⟩
  | none => exact .inr rfl

/-- What is asked for a truth value gives one, or is at fault in one way. -/
theorem readBool_cases (argument : Argument) :
    (∃ b, readBool argument = .ok b) ∨
      ∃ kind, kind ≠ .fieldUnknown ∧ readBool argument = .issue kind := by
  have hword (s : Text) : (∃ b, readWord s = .ok b) ∨
      ∃ kind, kind ≠ .fieldUnknown ∧ readWord s = .issue kind :=
    (readWord_cases s).imp_right fun h => ⟨.unreadableBool, nofun, h⟩
  unfold readBool
  split
  · exact .inl ⟨_, rfl⟩
  · exact hword _
  · split
    · exact hword _
    · exact .inr ⟨.unreadableBool, nofun, rfl⟩
  · split
    · exact .inl ⟨_, rfl⟩
    · exact .inl ⟨_, rfl⟩
    · exact .inr ⟨.unreadableBool, nofun, rfl⟩
    · exact .inr ⟨.notBool, nofun, rfl⟩

theorem kind_of_mem_readBool {argument : Argument} (h : issue ∈ (readBool argument).issues) :
    issue.kind ≠ .fieldUnknown := by
  rcases readBool_cases argument with ⟨b, hread⟩ | ⟨kind, hkind, hread⟩
  · rw [hread] at h
    cases h
  · rw [hread] at h
    rwa [List.mem_singleton.mp h]

theorem explains_readTarget (argument : Argument) : (readTarget argument).Explains := by
  unfold readTarget
  split <;> simp [Checked.Explains]

theorem explains_readBool (argument : Argument) : (readBool argument).Explains := by
  rcases readBool_cases argument with ⟨b, hread⟩ | ⟨kind, -, hread⟩
  · rw [hread]
    exact nofun
  · rw [hread]
    exact Checked.explains_issue kind

/-- A field that is refused is refused for something, if its check is. -/
theorem explains_readField {α : Type} {name : Text} {read : Argument → Checked α} {default : α}
    (hread : ∀ argument, (read argument).Explains) :
    (readField record name read default).Explains := by
  unfold readField
  split
  · exact (hread _).under
  · simp [Checked.Explains]

/-- What is wrong with an option is reported at the option, which the record must have. -/
theorem place_of_mem_readField {α : Type} {name : Text} {read : Argument → Checked α} {default : α}
    (hread : ∀ {argument : Argument} {issue : Issue}, issue ∈ (read argument).issues →
      issue.kind ≠ .fieldUnknown)
    (h : issue ∈ (readField record name read default).issues) :
    name ∈ record.map Prod.fst ∧ issue.place.head? = some name ∧ issue.kind ≠ .fieldUnknown := by
  unfold readField at h
  split at h
  next argument hargument =>
    rw [Checked.issues_under, List.mem_map] at h
    obtain ⟨found, hfound, rfl⟩ := h
    obtain ⟨front, back, rfl, -⟩ := List.lookup_eq_some_iff.mp hargument
    exact ⟨by simp, rfl, @hread _ found hfound⟩
  next => cases h

/-- If nothing is wrong with any of the options and there are no others, then nothing is wrong. -/
theorem explains_ofRecord (record : List (Text × Argument)) : (ofRecord record).Explains := by
  intro h
  have hissues : (ofRecord record).issues = [] := by rw [h]; rfl
  simp only [ofRecord, Checked.issues_map, Checked.issues_adding, Checked.issues_both,
    List.append_eq_nil_iff] at hissues
  obtain ⟨⟨htarget, hextra, hempty⟩, hunknown⟩ := hissues
  obtain ⟨target, htarget⟩ := (explains_readField explains_readTarget).eq_ok htarget
  obtain ⟨extra, hextra⟩ := (explains_readField explains_readBool).eq_ok hextra
  obtain ⟨empty, hempty⟩ := (explains_readField explains_readBool).eq_ok hempty
  have hok : ofRecord record = .ok ⟨target, extra, empty⟩ :=
    ofRecord_eq_ok_iff.mpr ⟨by simpa using hunknown, htarget, hextra, hempty⟩
  rw [h] at hok
  cases hok

/-- **What is wrong with a record of options.** A refused record has an issue, and each issue names
a field of the record. It says that there is no such option exactly if there is none. -/
theorem names_of_ofRecord_eq_error {issues : List Issue} (h : ofRecord record = .error issues) :
    issues ≠ [] ∧ ∀ issue ∈ issues, ∃ name ∈ record.map Prod.fst,
      issue.place.head? = some name ∧ (issue.kind = .fieldUnknown ↔ name ∉ fieldNames) := by
  refine ⟨?_, fun issue hissue => ?_⟩
  · rintro rfl
    exact explains_ofRecord record h
  have hissue : issue ∈ (ofRecord record).issues := by rwa [h]
  -- what an option reports is never that it is unknown, and its name is known
  have known {name : Text} (hfield : name ∈ record.map Prod.fst ∧
      issue.place.head? = some name ∧ issue.kind ≠ .fieldUnknown) (hname : name ∈ fieldNames) :
      ∃ name ∈ record.map Prod.fst,
        issue.place.head? = some name ∧ (issue.kind = .fieldUnknown ↔ name ∉ fieldNames) :=
    ⟨name, hfield.1, hfield.2.1, iff_of_false hfield.2.2 (not_not_intro hname)⟩
  simp only [ofRecord, Checked.issues_map, Checked.issues_adding, Checked.issues_both,
    List.mem_append] at hissue
  -- an issue comes from one of the three options, or from a name that is none of them
  rcases hissue with (htarget | hextra | hempty) | hunknown
  · exact known (place_of_mem_readField kind_of_mem_readTarget htarget) (by simp [fieldNames])
  · exact known (place_of_mem_readField kind_of_mem_readBool hextra) (by simp [fieldNames])
  · exact known (place_of_mem_readField kind_of_mem_readBool hempty) (by simp [fieldNames])
  · obtain ⟨name, hname, rfl⟩ := List.mem_map.mp hunknown
    obtain ⟨hmem, hunknown⟩ := List.mem_filter.mp hname
    exact ⟨name, hmem, rfl, iff_of_true rfl (by simpa using hunknown)⟩

end Refused

end SqlTemplate.Options
