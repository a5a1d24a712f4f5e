import SqlTemplate.Argument.Key

/-!
# Mappings from entries

What becomes of entries that are put into a mapping one after the other (`ofEntries_cases`). It
fails exactly if a key can change. Otherwise no two keys of the mapping are the same key, each of
them is a key of the entries, and what is found under a key is what was put under it last.

Putting one entry in is the step, and the invariant is that the keys are distinct. Whether two keys
are the same is asked of the later one, and the answer is not taken for granted to be the same the
other way round, or to be yes for a key and itself: a NaN is not even the same key as itself.
-/

namespace SqlTemplate.Argument

/-- No entry has the same key as one before it. -/
def Distinct (entries : List (Argument × Argument)) : Prop :=
  entries.Pairwise fun earlier later => sameKey later.1 earlier.1 = false

/-- What is found under a key. -/
def itemAt? (key : Argument) (entries : List (Argument × Argument)) : Option Argument :=
  (entries.find? fun entry => sameKey key entry.1).map Prod.snd

/-! ## One entry -/

section Put

variable {key item : Argument} {entries : List (Argument × Argument)}

/-- An entry that is held has its key from the one that is put in or from one that was held. -/
theorem exists_of_mem_putEntry {entry : Argument × Argument}
    (h : entry ∈ putEntry key item entries) :
    entry.1 = key ∨ ∃ held ∈ entries, held.1 = entry.1 := by
  induction entries with
  | nil =>
    rw [putEntry, List.mem_singleton] at h
    exact .inl (congrArg Prod.fst h)
  | cons first entries ih =>
    obtain ⟨key', item'⟩ := first
    rw [putEntry] at h
    split at h
    next =>
      rcases List.mem_cons.mp h with rfl | h
      · exact .inr ⟨_, List.mem_cons_self, rfl⟩
      · exact .inr ⟨entry, List.mem_cons_of_mem _ h, rfl⟩
    next =>
      rcases List.mem_cons.mp h with rfl | h
      · exact .inr ⟨_, List.mem_cons_self, rfl⟩
      · refine (ih h).imp_right ?_
        rintro ⟨held, hmem, hheld⟩
        exact ⟨held, List.mem_cons_of_mem _ hmem, hheld⟩

/-- The keys stay distinct. A key in the place of an equal one changes nothing, and a key that is
put behind all others is the same as none of them. -/
theorem Distinct.putEntry (h : Distinct entries) : Distinct (putEntry key item entries) := by
  induction entries with
  | nil => exact List.pairwise_singleton ..
  | cons first entries ih =>
    obtain ⟨key', item'⟩ := first
    obtain ⟨hfirst, hrest⟩ := List.pairwise_cons.mp h
    rw [Argument.putEntry]
    split
    next => exact List.pairwise_cons.mpr ⟨hfirst, hrest⟩
    -- a key that goes further back is the same as none that it has passed
    next hnew =>
      refine List.pairwise_cons.mpr ⟨fun later hlater => ?_, ih hrest⟩
      rcases exists_of_mem_putEntry hlater with hkey | ⟨held, hmem, hheld⟩
      · rw [hkey]
        exact Bool.eq_false_iff.mpr hnew
      · rw [← hheld]
        exact hfirst held hmem

/-- What has been put under a key is found under it, if the key is the same key as itself. -/
theorem itemAt?_putEntry (hkey : sameKey key key = true) :
    itemAt? key (putEntry key item entries) = some item := by
  induction entries with
  | nil => simp [itemAt?, putEntry, hkey]
  | cons first entries ih =>
    obtain ⟨key', item'⟩ := first
    rw [putEntry]
    split
    next hsame => simp [itemAt?, hsame]
    next hnew =>
      simpa [itemAt?, hnew] using ih

end Put

/-! ## All entries -/

/-- The entries that are held once all are put in. -/
def putEntries (entries held : List (Argument × Argument)) : List (Argument × Argument) :=
  entries.foldl (fun held (key, item) => putEntry key item held) held

theorem Distinct.putEntries {entries held : List (Argument × Argument)} (h : Distinct held) :
    Distinct (putEntries entries held) := by
  induction entries generalizing held with
  | nil => exact h
  | cons entry entries ih => exact ih h.putEntry

theorem exists_of_mem_putEntries {entries held : List (Argument × Argument)}
    {entry : Argument × Argument} (h : entry ∈ putEntries entries held) :
    ∃ given ∈ held ++ entries, given.1 = entry.1 := by
  induction entries generalizing held with
  | nil => exact ⟨entry, List.mem_append_left _ h, rfl⟩
  | cons first entries ih =>
    obtain ⟨given, hmem, hgiven⟩ := ih h
    rcases List.mem_append.mp hmem with hmem | hmem
    · rcases exists_of_mem_putEntry hmem with hkey | ⟨old, hold, hkey⟩
      · exact ⟨first, by simp, hkey.symm.trans hgiven⟩
      · exact ⟨old, List.mem_append_left _ hold, hkey.trans hgiven⟩
    · exact ⟨given, by simp [hmem], hgiven⟩

/-- Keys are looked at in their order for one that can change. -/
theorem changingPartOf?_eq_findSome? (keys : List Argument) :
    changingPartOf? keys = keys.findSome? changingPart? := by
  induction keys with
  | nil => rfl
  | cons key keys ih =>
    rw [changingPartOf?, List.findSome?_cons, ih]
    cases changingPart? key <;> rfl

theorem changingPartOf?_eq_none_iff {keys : List Argument} :
    changingPartOf? keys = none ↔ ∀ key ∈ keys, changingPart? key = none := by
  rw [changingPartOf?_eq_findSome?, List.findSome?_eq_none_iff]

/-- **A mapping from entries.** It fails for the first key that can change, and only for such a key.
If it is made, then its keys are distinct and all from the entries, and the last entry is found in
it under its key. -/
theorem ofEntries_cases (kind : String) (entries : List (Argument × Argument)) :
    (∃ part, ofEntries kind entries = .error (.noKey part) ∧
        (entries.map Prod.fst).findSome? changingPart? = some part) ∨
      ∃ held, ofEntries kind entries = .ok (.mapping kind held) ∧
        (∀ entry ∈ entries, changingPart? entry.1 = none) ∧ Distinct held ∧
        (∀ entry ∈ held, ∃ given ∈ entries, given.1 = entry.1) ∧
        ∀ front key item, entries = front ++ [(key, item)] → sameKey key key = true →
          itemAt? key held = some item := by
  unfold ofEntries
  cases hchanging : changingPartOf? (entries.map (·.1)) with
  | some part => exact .inl ⟨part, rfl, (changingPartOf?_eq_findSome? _).symm.trans hchanging⟩
  | none =>
    refine .inr ⟨putEntries entries [], rfl, ?_, ?_, ?_, ?_⟩
    · simpa using changingPartOf?_eq_none_iff.mp hchanging
    · exact Distinct.putEntries List.Pairwise.nil
    · intro entry hmem
      simpa using exists_of_mem_putEntries hmem
    -- nothing is put in behind the last entry
    · rintro front key item rfl hkey
      rw [putEntries, List.foldl_append]
      exact itemAt?_putEntry hkey

end SqlTemplate.Argument
