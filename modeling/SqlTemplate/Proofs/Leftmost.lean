import Mathlib.Data.List.Chain
import SqlTemplate.Proofs.Split

/-!
# The leftmost split

The fragments of a text, one after another, are the text again. The other way round, not every list
of braces, skips and texts is what its own text is split into. Two texts that touch are one. And a
marker can overlap with another one: `__SKIP___SKIP__` is a skip and a text, and could be taken for
a text and a skip. `Fragment.Leftmost` leaves such lists out, and `Fragment.InPlace` says that the
fragments stand where their texts start.

* `TextRun` says of a stretch of a text that nothing but text begins in it, whatever follows. In
  front of a brace this is to hold no marker (`textRun_of_brace`), and in front of a marker that no
  other one begins earlier (`textRun_marker_iff`).
* `splitFrom_textRun` makes one fragment of such a stretch, and `induction_on_pieces` goes over a
  text by such stretches, braces and markers.
* `leftmost_splitFrom` and `inPlace_splitFrom` say what is known of the fragments of a text, and
  `splitFrom_flatMap_text` splits the text of a leftmost list, fragment by fragment.
* `ofText_eq_iff` is both together.
-/

namespace SqlTemplate

/-- The first marker in the text starts at the offset. -/
def FirstMarkerAt (s : Text) (i : Nat) : Prop :=
  skipMarker <+: s.drop i ∧ ∀ j < i, ¬ skipMarker <+: s.drop j

namespace Fragment

/-- A fragment that a text can be split into: a brace or a marker as it is written, or a text, which
is not empty and holds none of them. -/
inductive WellMade : Fragment → Prop
  | opening (position : Int) : WellMade ⟨.opening, ['{'], position⟩
  | closing (position : Int) : WellMade ⟨.closing, ['}'], position⟩
  | skip (position : Int) : WellMade ⟨.skip, skipMarker, position⟩
  | text {content : Text} (position : Int) (hne : content ≠ [])
      (hbrace : ∀ c ∈ content, c ≠ '{' ∧ c ≠ '}') (hmarker : ¬ skipMarker <:+: content) :
      WellMade ⟨.text, content, position⟩

/-- Whether a fragment may stand directly in front of another one. A text may not stand in front of
a text, and in front of a skip only if the marker of the skip is the first one in both together. -/
def MayPrecede (f g : Fragment) : Prop :=
  f.kind = .text → g.kind ≠ .text ∧
    (g.kind = .skip → FirstMarkerAt (f.text ++ skipMarker) f.text.length)

/-- The fragments are the leftmost split of some text, whatever their positions are. -/
structure Leftmost (fragments : List Fragment) : Prop where
  wellMade : ∀ f ∈ fragments, f.WellMade
  chain : fragments.IsChain MayPrecede

/-- Each of the fragments stands as far behind the offset `n` as the texts in front of it reach. -/
def InPlace (n : Nat) (fragments : List Fragment) : Prop :=
  ∀ front f rest, fragments = front ++ f :: rest →
    f.position = (n + (front.flatMap text).length : Int)

section Lists

variable {n : Nat} {f : Fragment} {fs : List Fragment}

theorem leftmost_nil : Leftmost [] :=
  ⟨nofun, .nil⟩

/-- Fragments are leftmost if the first is well made and may precede the second, and the rest
are. -/
theorem leftmost_cons_iff : Leftmost (f :: fs) ↔
    f.WellMade ∧ (∀ g ∈ fs.head?, MayPrecede f g) ∧ Leftmost fs := by
  constructor
  · rintro ⟨hmade, hchain⟩
    obtain ⟨hhead, htail⟩ := List.forall_mem_cons.mp hmade
    obtain ⟨hnext, hchain⟩ := List.isChain_cons.mp hchain
    exact ⟨hhead, hnext, htail, hchain⟩
  · rintro ⟨hhead, hnext, htail, hchain⟩
    exact ⟨List.forall_mem_cons.mpr ⟨hhead, htail⟩, List.isChain_cons.mpr ⟨hnext, hchain⟩⟩

theorem inPlace_nil : InPlace n [] := by
  intro front f rest h
  cases front <;> cases h

/-- Fragments are in place if the first is, and the rest start where it ends. -/
theorem inPlace_cons_iff :
    InPlace n (f :: fs) ↔ f.position = n ∧ InPlace (n + f.text.length) fs := by
  rw [InPlace, forall_eq_append_cons_iff]
  simp only [InPlace, List.flatMap_nil, List.length_nil, List.flatMap_cons, List.length_append,
    Int.natCast_add, Int.natCast_zero, Int.add_zero, Int.add_assoc]

theorem mayPrecede_of_ne {g : Fragment} (h : f.kind ≠ .text) : MayPrecede f g :=
  fun htext => absurd htext h

end Lists

/-! ## Where nothing but text begins -/

/-- In the stretch `t` in front of `rest` neither a brace nor a marker begins. -/
structure TextRun (t rest : Text) : Prop where
  brace : ∀ c ∈ t, isBraceChar c = false
  marker : ∀ i < t.length, ¬ skipMarker <+: (t ++ rest).drop i

section TextRun

variable {n : Nat} {c : Char} {s t rest : Text}

theorem textRun_nil (rest : Text) : TextRun [] rest :=
  ⟨nofun, nofun⟩

/-- A run of text goes on where no brace and no marker starts. -/
theorem textRun_cons_iff : TextRun (c :: t) rest ↔
    isBraceChar c = false ∧ ¬ skipMarker <+: c :: (t ++ rest) ∧ TextRun t rest := by
  constructor
  · rintro ⟨hbrace, hmarker⟩
    obtain ⟨hc, hbrace⟩ := List.forall_mem_cons.mp hbrace
    obtain ⟨hhead, hmarker⟩ := Nat.forall_lt_succ_left.mp hmarker
    exact ⟨hc, hhead, hbrace, hmarker⟩
  · rintro ⟨hc, hhead, hbrace, hmarker⟩
    exact ⟨List.forall_mem_cons.mpr ⟨hc, hbrace⟩, Nat.forall_lt_succ_left.mpr ⟨hhead, hmarker⟩⟩

/-- A run of text holds no marker. -/
theorem TextRun.not_infix (h : TextRun t rest) : ¬ skipMarker <:+: t := by
  induction t with
  | nil => simp [skipMarker]
  | cons c t ih =>
    obtain ⟨-, hhead, ht⟩ := textRun_cons_iff.mp h
    have hprefix : ¬ skipMarker <+: c :: t :=
      fun hmarker => hhead (hmarker.trans (List.prefix_append (c :: t) rest))
    rw [skipMarker_infix_cons hprefix]
    exact ih ht

/-- In front of a brace, and at the end, a stretch need only hold no marker itself. -/
theorem textRun_of_brace (hrest : ∀ c ∈ rest.head?, isBraceChar c = true)
    (hbrace : ∀ c ∈ t, isBraceChar c = false) (hmarker : ¬ skipMarker <:+: t) :
    TextRun t rest where
  brace := hbrace
  marker := by
    intro i hi hprefix
    rw [List.drop_append_of_le_length hi.le] at hprefix
    have hdrop : skipMarker <+: t.drop i := skipMarker_prefix_of_append hrest hprefix
    exact hmarker (hdrop.isInfix.trans (List.drop_suffix i t).isInfix)

/-- Whether a long text starts with a marker does not depend on what follows it. -/
theorem skipMarker_prefix_append_iff (h : skipMarker.length ≤ s.length) :
    skipMarker <+: s ++ rest ↔ skipMarker <+: s :=
  ⟨fun hmarker => List.prefix_of_prefix_length_le hmarker (List.prefix_append ..) h,
    fun hmarker => hmarker.trans (List.prefix_append ..)⟩

/-- In front of a marker, that marker has to be the first one. -/
theorem textRun_marker_iff : TextRun t (skipMarker ++ rest) ↔
    (∀ c ∈ t, isBraceChar c = false) ∧ FirstMarkerAt (t ++ skipMarker) t.length := by
  -- a marker that begins in `t` ends before the marker behind `t` does
  have hcut : ∀ i < t.length, skipMarker <+: (t ++ (skipMarker ++ rest)).drop i ↔
      skipMarker <+: (t ++ skipMarker).drop i := by
    intro i hi
    have hle : i ≤ (t ++ skipMarker).length := by
      rw [List.length_append]
      omega
    have hlength : skipMarker.length ≤ ((t ++ skipMarker).drop i).length := by
      rw [List.length_drop, List.length_append]
      omega
    rw [← List.append_assoc, List.drop_append_of_le_length hle,
      skipMarker_prefix_append_iff hlength]
  have hlast : skipMarker <+: (t ++ skipMarker).drop t.length := by
    rw [List.drop_left]
  constructor
  · rintro ⟨hbrace, hmarker⟩
    exact ⟨hbrace, hlast, fun i hi => mt (hcut i hi).mpr (hmarker i hi)⟩
  · rintro ⟨hbrace, -, hmarker⟩
    exact ⟨hbrace, fun i hi => mt (hcut i hi).mp (hmarker i hi)⟩

/-- A stretch in which only text begins is one fragment, if no text goes on behind it. -/
theorem splitFrom_textRun (hne : t ≠ []) (h : TextRun t rest)
    (hnext : ∀ f ∈ (splitFrom (n + t.length) rest).head?, f.kind ≠ .text) :
    splitFrom n (t ++ rest) = ⟨.text, t, n⟩ :: splitFrom (n + t.length) rest := by
  induction t generalizing n with
  | nil => exact absurd rfl hne
  | cons c t ih =>
    obtain ⟨hc, hmarker, ht⟩ := textRun_cons_iff.mp h
    rw [List.cons_append, splitFrom_text hc hmarker]
    cases t with
    | nil => exact consText_append c n [] hnext
    | cons d t =>
      have hlength : n + 1 + (d :: t).length = n + (c :: d :: t).length := by
        simp only [List.length_cons]
        omega
      rw [ih (by simp) ht (hlength ▸ hnext), hlength]
      rfl

end TextRun

/-! ## From texts to fragments -/

/-- Induction along the stretches, braces and markers of a text. -/
theorem induction_on_pieces {motive : Text → Prop} (nil : motive [])
    (brace : ∀ c rest, isBraceChar c = true → motive rest → motive (c :: rest))
    (marker : ∀ rest, motive rest → motive (skipMarker ++ rest))
    (text : ∀ t rest, t ≠ [] → TextRun t rest →
      (∀ n, ∀ f ∈ (splitFrom n rest).head?, f.kind ≠ .text) → motive rest → motive (t ++ rest))
    (s : Text) : motive s := by
  -- the stretch that a text begins with is empty in front of a brace or a marker
  have hmotive : ∀ s, (∃ t rest, s = t ++ rest ∧ TextRun t rest ∧
      (∀ n, ∀ f ∈ (splitFrom n rest).head?, f.kind ≠ .text) ∧ motive rest) → motive s := by
    rintro _ ⟨t, rest, rfl, hrun, hnext, hrest⟩
    by_cases hne : t = []
    · rw [hne]
      exact hrest
    · exact text t rest hne hrun hnext hrest
  apply hmotive
  induction s using induction_on_split with
  | nil =>
    exact ⟨[], [], rfl, textRun_nil [], kind_head_splitFrom nofun, nil⟩
  | brace c rest hc ih =>
    exact ⟨[], c :: rest, rfl, textRun_nil _, kind_head_splitFrom (by simpa using hc),
      brace c rest hc (hmotive rest ih)⟩
  | marker rest ih =>
    refine ⟨[], skipMarker ++ rest, rfl, textRun_nil _, fun n f hf => ?_,
      marker rest (hmotive rest ih)⟩
    rw [splitFrom_marker] at hf
    cases hf
    exact nofun
  | text c rest hc hmarker ih =>
    obtain ⟨t, rest, rfl, hrun, hnext, hrest⟩ := ih
    exact ⟨c :: t, rest, rfl, textRun_cons_iff.mpr ⟨hc, hmarker, hrun⟩, hnext, hrest⟩

theorem wellMade_ofBrace {c : Char} (hc : isBraceChar c = true) (position : Int) :
    WellMade (ofBrace c position) := by
  rcases ofBrace_cases hc position with ⟨h, -⟩ | ⟨h, -⟩
  · exact h ▸ .opening position
  · exact h ▸ .closing position

/-- The fragments that a text is split into are in place. -/
theorem inPlace_splitFrom (n : Nat) (s : Text) : InPlace n (splitFrom n s) := by
  induction s using induction_on_pieces generalizing n with
  | nil =>
    rw [splitFrom_nil]
    exact inPlace_nil
  | brace c rest hc ih =>
    rw [splitFrom_brace hc, inPlace_cons_iff, text_ofBrace hc]
    refine ⟨?_, ih (n + 1)⟩
    rcases ofBrace_cases hc n with ⟨h, -⟩ | ⟨h, -⟩ <;> rw [h] <;> rfl
  | marker rest ih =>
    rw [splitFrom_marker, inPlace_cons_iff]
    exact ⟨rfl, ih _⟩
  | text t rest hne hrun hnext ih =>
    rw [splitFrom_textRun hne hrun (hnext _), inPlace_cons_iff]
    exact ⟨rfl, ih _⟩

theorem leftmost_splitFrom (n : Nat) (s : Text) : Leftmost (splitFrom n s) := by
  induction s using induction_on_pieces generalizing n with
  | nil =>
    rw [splitFrom_nil]
    exact leftmost_nil
  | brace c rest hc ih =>
    rw [splitFrom_brace hc, leftmost_cons_iff]
    exact ⟨wellMade_ofBrace hc n, fun g _ => mayPrecede_of_ne (kind_ofBrace_ne_text hc n), ih _⟩
  | marker rest ih =>
    rw [splitFrom_marker, leftmost_cons_iff]
    exact ⟨.skip n, fun g _ => mayPrecede_of_ne nofun, ih _⟩
  | text t rest hne hrun hnext ih =>
    rw [splitFrom_textRun hne hrun (hnext _), leftmost_cons_iff]
    have hbrace : ∀ c ∈ t, c ≠ '{' ∧ c ≠ '}' :=
      fun c hc => isBraceChar_eq_false_iff.mp (hrun.brace c hc)
    refine ⟨.text n hne hbrace hrun.not_infix, fun g hg _ => ⟨hnext _ g hg, fun hskip => ?_⟩, ih _⟩
    -- the skip comes from the marker that `rest` begins with
    obtain ⟨tail, htail⟩ := List.head?_eq_some_iff.mp hg
    have hmade : g.WellMade := (leftmost_cons_iff.mp (htail ▸ ih _)).1
    have hrest : rest = skipMarker ++ tail.flatMap Fragment.text := by
      rw [← flatMap_text_splitFrom (n + t.length) rest, htail, List.flatMap_cons]
      cases hmade with
      | skip => rfl
      | opening | closing | text => cases hskip
    rw [hrest] at hrun
    exact (textRun_marker_iff.mp hrun).2

/-! ## From fragments to texts -/

/-- In a leftmost list, only text begins in a text, whatever the fragments behind it are. -/
theorem Leftmost.textRun {content : Text} {position : Int} {fs : List Fragment}
    (h : Leftmost (⟨.text, content, position⟩ :: fs)) : TextRun content (fs.flatMap text) := by
  obtain ⟨hmade, hnext, hfs⟩ := leftmost_cons_iff.mp h
  cases hmade with
  | text _ hne hbrace hmarker =>
    have hbrace : ∀ c ∈ content, isBraceChar c = false :=
      fun c hc => isBraceChar_eq_false_iff.mpr (hbrace c hc)
    cases fs with
    | nil => exact textRun_of_brace (by simp) hbrace hmarker
    | cons g fs =>
      obtain ⟨hkind, hfirst⟩ := hnext g rfl rfl
      cases (leftmost_cons_iff.mp hfs).1 with
      | opening | closing => exact textRun_of_brace (by rintro c ⟨⟩; rfl) hbrace hmarker
      | skip => exact textRun_marker_iff.mpr ⟨hbrace, hfirst rfl⟩
      | text => exact absurd rfl hkind

/-- The text of a leftmost list is split into the list. -/
theorem splitFrom_flatMap_text {n : Nat} {fs : List Fragment} (h : Leftmost fs)
    (hplace : InPlace n fs) : splitFrom n (fs.flatMap text) = fs := by
  induction fs generalizing n with
  | nil => exact splitFrom_nil
  | cons f fs ih =>
    obtain ⟨hmade, hnext, hfs⟩ := leftmost_cons_iff.mp h
    obtain ⟨hposition, hplace⟩ := inPlace_cons_iff.mp hplace
    have hrest := ih hfs hplace
    rw [List.flatMap_cons]
    cases hmade with
    | opening | closing =>
      cases hposition
      exact (splitFrom_brace rfl).trans (congrArg _ hrest)
    | skip =>
      cases hposition
      exact splitFrom_marker.trans (congrArg _ hrest)
    | text _ hne =>
      cases hposition
      have hhead : ∀ g ∈ fs.head?, g.kind ≠ .text := fun g hg => (hnext g hg rfl).1
      rw [splitFrom_textRun hne h.textRun (hrest.symm ▸ hhead)]
      exact congrArg _ hrest

/-- **A text has one leftmost split.** Fragments are those of a text exactly if their texts make up
the text, they stand where their texts start, and they are leftmost: braces, markers, and texts
without either that are not empty, of which none touches another one, and such that the first
marker in a text and a skip behind it is the marker of the skip. -/
theorem ofText_eq_iff (s : Text) (fragments : List Fragment) :
    ofText s = fragments ↔
      fragments.flatMap text = s ∧ InPlace 0 fragments ∧ Leftmost fragments := by
  constructor
  · rintro rfl
    exact ⟨flatMap_text_splitFrom 0 s, inPlace_splitFrom 0 s, leftmost_splitFrom 0 s⟩
  · rintro ⟨rfl, hplace, hleftmost⟩
    exact splitFrom_flatMap_text hleftmost hplace

/-- Of two markers that overlap the first one counts, and of what is left of the other one only what
stands behind it. -/
example : ofText "___SKIP__SKIP__\x7d__SKIP".toList = [⟨.text, ['_'], 0⟩, skip 1,
    ⟨.text, "SKIP__".toList, 9⟩, closing 15, ⟨.text, "__SKIP".toList, 16⟩] := by
  cbv

end Fragment

end SqlTemplate
