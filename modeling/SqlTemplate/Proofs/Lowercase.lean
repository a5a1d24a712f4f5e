import SqlTemplate.Text.Lowercase

/-!
# Lower case is final

A text in lower case stays as it is when it is put in lower case again (`lowercase_lowercase`), so
that a name which has been looked up can be looked up once more. The case of ASCII letters makes no
difference to it (`lowercase_eq_of_toLower`).
-/

namespace SqlTemplate.Text

/-! ## The table -/

/-- The lower case letter of the capital `n` of a run. -/
def CaseRun.lower (run : CaseRun) (n : Nat) : Nat :=
  n + run.offset.toNat - (-run.offset).toNat

/-- Whether no letter that `run` leads to is a capital of `other`. Where the two lie apart, no
letter has to be looked at. -/
def CaseRun.avoids (run other : CaseRun) : Bool :=
  Nat.blt (run.lower run.last) other.first || Nat.blt other.last (run.lower run.first) ||
    (List.range (run.last + 1 - run.first)).all fun i =>
      !run.contains (run.first + i) || !other.contains (run.lower (run.first + i))

/-- The capital I with a dot, which the table leaves out. -/
def dottedRun : CaseRun := ⟨0x130, 0x130, 1, 0⟩

/-- No run of the table leads to a capital of any run, nor to the dotted capital. This is the one
fact about the table as a whole that the proofs below use. -/
theorem avoids_caseRuns :
    (caseRuns.all fun run => (dottedRun :: caseRuns).all run.avoids) = true := by
  decide +kernel

theorem CaseRun.bounds {run : CaseRun} {n : Nat} (h : run.contains n) :
    run.first ≤ n ∧ n ≤ run.last := by
  simp only [contains, Bool.and_eq_true, decide_eq_true_eq] at h
  exact h.1

/-- A lower case letter is no capital of a run that is avoided. -/
theorem CaseRun.not_contains_lower {run other : CaseRun} (h : run.avoids other) {n : Nat}
    (hn : run.contains n) : other.contains (run.lower n) = false := by
  cases hother : other.contains (run.lower n) with
  | false => rfl
  | true =>
    obtain ⟨hfirst, hlast⟩ := bounds hn
    obtain ⟨hotherFirst, hotherLast⟩ := bounds hother
    simp only [avoids, Bool.or_eq_true, Nat.blt_eq, List.all_eq_true, List.mem_range] at h
    rcases h with (habove | hbelow) | hall
    · unfold lower at habove hotherFirst
      omega
    · unfold lower at hbelow hotherLast
      omega
    · have hplace : run.first + (n - run.first) = n := by omega
      have hletter := hall (n - run.first) (by omega)
      rw [hplace, hn, hother] at hletter
      exact absurd hletter (by decide)

/-! ## Letters and texts -/

def IsLower (c : Char) : Prop :=
  ∀ run ∈ dottedRun :: caseRuns, run.contains c.toNat = false

instance (c : Char) : Decidable (IsLower c) :=
  inferInstanceAs (Decidable (∀ _ ∈ _, _))

theorem IsLower.lowerChar_eq {c : Char} (h : IsLower c) : lowerChar c = c := by
  have hnone : caseRuns.find? (·.contains c.toNat) = none :=
    List.find?_eq_none.mpr fun run hrun => by simp [h run (List.mem_cons_of_mem _ hrun)]
  rw [lowerChar, hnone]

theorem IsLower.ne_sigma {c : Char} (h : IsLower c) : c ≠ 'Σ' := by
  rintro rfl
  exact absurd h (by decide)

/-- The dotted capital is not in the table, so `IsLower` excludes it by itself. -/
theorem IsLower.ne_dotted {c : Char} (h : IsLower c) : c ≠ 'İ' := by
  rintro rfl
  exact absurd h (by decide)

/-- A number is the code point of its character, unless there is none; then the character is
U+0000. -/
theorem toNat_ofNat (n : Nat) : (Char.ofNat n).toNat = n ∨ (Char.ofNat n).toNat = 0 := by
  by_cases h : n.isValidChar
  · have hn : Char.ofNat n = Char.ofNatAux n h := dif_pos h
    rw [hn]
    exact .inl (UInt32.toNat_ofNatLT ..)
  · have hn : Char.ofNat n = '\x00' := dif_neg h
    rw [hn]
    exact .inr rfl

/-- What a letter becomes is no capital. The dotted capital becomes two code points, so it is left
out here. -/
theorem isLower_lowerChar {c : Char} (hdotted : c ≠ 'İ') : IsLower (lowerChar c) := by
  unfold lowerChar
  split
  · rename_i run hrun
    have hmem : run ∈ caseRuns := List.mem_of_find?_eq_some hrun
    have hcontains : run.contains c.toNat := by
      simpa using List.find?_some hrun
    have hlower : (c.toNat + run.offset).toNat = run.lower c.toNat := by
      unfold CaseRun.lower
      omega
    intro other hother
    rw [hlower]
    rcases toNat_ofNat (run.lower c.toNat) with htoNat | htoNat
    · rw [htoNat]
      have havoids : run.avoids other :=
        List.all_eq_true.mp (List.all_eq_true.mp avoids_caseRuns run hmem) other hother
      exact CaseRun.not_contains_lower havoids hcontains
    · -- the code point 0 is no capital
      rw [htoNat]
      revert other
      decide +kernel
  · rename_i hnone
    intro run hrun
    rcases List.mem_cons.mp hrun with rfl | hrun
    · cases hcontains : dottedRun.contains c.toNat with
      | false => rfl
      | true =>
        obtain ⟨hfirst, hlast⟩ := CaseRun.bounds hcontains
        have heq : c.toNat = 'İ'.toNat := Nat.le_antisymm hlast hfirst
        exact absurd (Char.toNat_inj.mp heq) hdotted
    · simpa using List.find?_eq_none.mp hnone run hrun

theorem lowerFrom_of_isLower {s : Text} (h : ∀ c ∈ s, IsLower c) (inWord : Bool) :
    lowerFrom inWord s = s := by
  induction s generalizing inWord with
  | nil => rfl
  | cons c s ih =>
    rw [List.forall_mem_cons] at h
    rw [lowerFrom, if_neg h.1.ne_sigma, if_neg h.1.ne_dotted, h.1.lowerChar_eq, ih h.2]
    rfl

/-- What a text becomes holds no capitals. -/
theorem isLower_of_mem_lowerFrom {s : Text} {inWord : Bool} :
    ∀ c ∈ lowerFrom inWord s, IsLower c := by
  induction s generalizing inWord with
  | nil => simp [lowerFrom]
  | cons c s ih =>
    intro d hd
    rw [lowerFrom] at hd
    -- a sigma and the dotted I are not in the table, and what they become is looked at by itself
    rcases List.mem_append.mp hd with hd | hd
    · split at hd
      · split at hd
        · rw [List.mem_singleton.mp hd]
          decide +kernel
        · rw [List.mem_singleton.mp hd]
          decide +kernel
      · split at hd
        · simp only [List.mem_cons, List.not_mem_nil, or_false] at hd
          rcases hd with rfl | rfl <;> decide +kernel
        · rename_i hdotted
          rw [List.mem_singleton.mp hd]
          exact isLower_lowerChar hdotted
    · exact ih d hd

/-- Lower case is final. -/
theorem lowercase_lowercase (s : Text) : s.lowercase.lowercase = s.lowercase :=
  lowerFrom_of_isLower (fun _ => isLower_of_mem_lowerFrom _) false

/-! ## Letters of ASCII -/

def capitals : List Char := "ABCDEFGHIJKLMNOPQRSTUVWXYZ".toList

theorem mem_capitals {c : Char} (h : c.isUpper) : c ∈ capitals := by
  have hbounds : 65 ≤ c.val ∧ c.val ≤ 90 := of_decide_eq_true h
  have hfirst : 65 ≤ c.toNat := UInt32.le_iff_toNat_le.mp hbounds.1
  have hlast : c.toNat ≤ 90 := UInt32.le_iff_toNat_le.mp hbounds.2
  have hall : ∀ n < 26, Char.ofNat (65 + n) ∈ capitals := by decide
  have hplace : 65 + (c.toNat - 65) = c.toNat := by omega
  have hmem := hall (c.toNat - 65) (by omega)
  rwa [hplace, Char.ofNat_toNat] at hmem

/-- Two letters that `lowerFrom` cannot tell apart, wherever they stand. -/
structure SameLetter (c d : Char) : Prop where
  lowerChar : lowerChar c = lowerChar d
  cased : inRanges casedRanges c = inRanges casedRanges d
  ignorable : inRanges caseIgnorableRanges c = inRanges caseIgnorableRanges d
  sigma : c = 'Σ' ↔ d = 'Σ'
  dotted : c = 'İ' ↔ d = 'İ'

/-- A capital of ASCII and its small letter are the same to `lowerFrom`. -/
theorem sameLetter_toLower (c : Char) : SameLetter c.toLower c := by
  by_cases hupper : c.isUpper
  -- there are few enough capitals to look each of them up in the tables
  · have hcapitals : (capitals.all fun c => Text.lowerChar c.toLower = Text.lowerChar c &&
        inRanges casedRanges c.toLower = inRanges casedRanges c &&
        inRanges caseIgnorableRanges c.toLower = inRanges caseIgnorableRanges c &&
        (c.toLower = 'Σ' ↔ c = 'Σ') && (c.toLower = 'İ' ↔ c = 'İ')) = true := by
      decide +kernel
    have hc := List.all_eq_true.mp hcapitals c (mem_capitals hupper)
    simp only [Bool.and_eq_true, decide_eq_true_eq] at hc
    obtain ⟨⟨⟨⟨hlower, hcased⟩, hignorable⟩, hsigma⟩, hdotted⟩ := hc
    exact ⟨hlower, hcased, hignorable, hsigma, hdotted⟩
  · have htoLower : c.toLower = c := dif_neg fun h => hupper (decide_eq_true h)
    rw [htoLower]
    exact ⟨rfl, rfl, rfl, .rfl, .rfl⟩

/-- Whether a word goes on does not depend on the case of its letters. -/
theorem startsCased_map_toLower (s : Text) : startsCased (s.map Char.toLower) = startsCased s := by
  induction s with
  | nil => rfl
  | cons c s ih =>
    have hc := sameLetter_toLower c
    unfold startsCased at ih ⊢
    rw [List.map_cons, List.dropWhile_cons, List.dropWhile_cons, hc.ignorable]
    cases inRanges caseIgnorableRanges c with
    | true => exact ih
    | false => exact hc.cased

/-- Small letters of ASCII in place of capitals make no difference. -/
theorem lowerFrom_map_toLower (inWord : Bool) (s : Text) :
    lowerFrom inWord (s.map Char.toLower) = lowerFrom inWord s := by
  induction s generalizing inWord with
  | nil => rfl
  | cons c s ih =>
    have hc := sameLetter_toLower c
    rw [List.map_cons, lowerFrom, lowerFrom, ih, startsCased_map_toLower, hc.lowerChar, hc.cased,
      hc.ignorable]
    simp only [hc.sigma, hc.dotted]

/-- Texts that differ in the case of ASCII letters only are one name. -/
theorem lowercase_eq_of_toLower {s t : Text} (h : s.map Char.toLower = t.map Char.toLower) :
    lowercase s = lowercase t :=
  calc lowercase s = lowercase (s.map Char.toLower) := (lowerFrom_map_toLower false s).symm
    _ = lowercase (t.map Char.toLower) := by rw [h]
    _ = lowercase t := lowerFrom_map_toLower false t

end SqlTemplate.Text
