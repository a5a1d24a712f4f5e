import Mathlib.Data.List.Induction
import SqlTemplate.Proofs.Run

/-!
# The language of flat blocks

The resolution of blocks reads a small language: plain fragments, and blocks of plain fragments and
skips between an opening and a closing brace. `Passage` is what its sentences are made of, and
`Resolution.ofPassages` what a sentence means.

While fragments are read, all that matters of those behind is whether a block is open (`EndsIn`).
One more fragment keeps to the language or breaks it for good (`EndsIn.concat`), so a list of
fragments is a sentence, or a sentence with a block left open, or is broken at some first fragment
(`endsIn_or_broken`). `ofFragments_eq_iff` reads off what the resolution makes of each.
-/

namespace SqlTemplate

/-! ## Sentences -/

/-- A block with its braces. Between them there is no other brace. -/
structure ClosedBlock where
  opening : Fragment
  content : List Fragment
  closing : Fragment
  kind_opening : opening.kind = .opening
  kind_content : ∀ f ∈ content, f.kind.isPlain = true ∨ f.kind = .skip
  kind_closing : closing.kind = .closing

/-- A plain fragment outside blocks, or a block. -/
inductive Passage
  | plain (fragment : Fragment) (hplain : fragment.kind.isPlain = true)
  | block (block : ClosedBlock)

namespace Passage

def fragments : Passage → List Fragment
  | plain fragment _ => [fragment]
  | block b => b.opening :: (b.content ++ [b.closing])

/-- Whether the passage is a block that holds a skip. -/
def isDropped : Passage → Bool
  | plain .. => false
  | block b => b.content.any Fragment.isSkip

/-- The text of the plain fragments of a passage that is not dropped. -/
def sql : Passage → Text
  | plain fragment _ => fragment.text
  | block b => b.content.flatMap Fragment.text

end Passage

/-- What a sentence means: the text of what is not dropped, in order, and how many blocks are. -/
def Resolution.ofPassages (passages : List Passage) : Resolution where
  sql := (passages.filter (!·.isDropped)).flatMap Passage.sql
  dropped := passages.countP Passage.isDropped

/-- The fragments are those of a sentence. -/
def IsFlat (fragments : List Fragment) : Prop :=
  ∃ passages : List Passage, passages.flatMap Passage.fragments = fragments

/-- A sentence can begin with the fragments. -/
def Extendable (fragments : List Fragment) : Prop :=
  ∃ rest, IsFlat (fragments ++ rest)

/-- What is wrong with a fragment that stands where it may not. A plain one may stand anywhere. -/
def Fragment.misplaced? (fragment : Fragment) : Option QueryError :=
  match fragment.kind with
  | .opening => some (.nestedBlock fragment.position)
  | .closing => some (.unbalancedBrace ['}'] fragment.position)
  | .skip => some (.skipOutsideBlock fragment.position)
  | .text | .literal | .other _ => none

namespace Resolution

/-- What the resolution of blocks has to make of the fragments. -/
inductive Verdict (fragments : List Fragment) : Except QueryError Resolution → Prop
  /-- They are a sentence. -/
  | flat (passages : List Passage) (hpassages : passages.flatMap Passage.fragments = fragments) :
    Verdict fragments (.ok (ofPassages passages))
  /-- A sentence can begin with those in front of `fragment`, and not with `fragment` as well. -/
  | broken {front rest : List Fragment} {fragment : Fragment} {error : QueryError}
    (hfragments : fragments = front ++ fragment :: rest) (hfront : Extendable front)
    (hbroken : ¬ Extendable (front ++ [fragment])) (herror : fragment.misplaced? = some error) :
    Verdict fragments (.error error)
  /-- A sentence can begin with all of them, but they are none. -/
  | unclosed {opening : Fragment} (hextendable : Extendable fragments) (hflat : ¬ IsFlat fragments)
    (hlast : (fragments.filter fun f => f.kind = .opening).getLast? = some opening) :
    Verdict fragments (.error (.unbalancedBrace ['{'] opening.position))

/-! ## What is made of sentences -/

variable {passages : List Passage} {fragments front rest content : List Fragment}
  {fragment opening : Fragment}

/-- Puts a passage before what is left. -/
def addPassage (passage : Passage) (resolution : Resolution) : Resolution :=
  if passage.isDropped then { resolution with dropped := resolution.dropped + 1 }
  else resolution.addText passage.sql

theorem ofPassages_cons (passage : Passage) (passages : List Passage) :
    ofPassages (passage :: passages) = addPassage passage (ofPassages passages) := by
  rw [addPassage]
  cases hdropped : passage.isDropped with
  | true => simp [ofPassages, hdropped]
  | false => simp [ofPassages, hdropped, addText]

/-- A block is added as it stands once all its content has been put into it. -/
theorem addBlock_foldl_put (b : ClosedBlock) (position : Int) (resolution : Resolution) :
    addBlock (b.content.foldl OpenBlock.put ⟨position, false, []⟩) resolution =
      addPassage (.block b) resolution := by
  rw [OpenBlock.putsInto_put.addBlock_foldl]
  rfl

theorem isBrace_eq_false (h : fragment.kind.isPlain = true ∨ fragment.kind = .skip) :
    fragment.isBrace = false := by
  rcases h with h | h
  · cases hkind : fragment.kind with
    | opening | closing => simp [hkind, FragmentKind.isPlain] at h
    | text | literal | skip | other => simp [Fragment.isBrace, hkind]
  · simp [Fragment.isBrace, h]

theorem ofFragmentsIn_passage (passage : Passage) (rest : List Fragment) :
    ofFragmentsIn none (passage.fragments ++ rest) =
      (ofFragmentsIn none rest).map (addPassage passage) := by
  cases passage with
  | plain fragment hplain => exact ofFragmentsIn_plain hplain
  | block b =>
    have hcontent : ∀ f ∈ b.content, f.isBrace = false :=
      fun f hf => isBrace_eq_false (b.kind_content f hf)
    rw [Passage.fragments, List.cons_append, List.append_assoc,
      ofFragmentsIn_opening b.kind_opening, ofFragmentsIn_run_some hcontent, List.singleton_append,
      ofFragmentsIn_closing_some b.kind_closing]
    congr 1
    exact funext (addBlock_foldl_put b _)

/-- In front of other fragments, a sentence adds what it means to what is left of them. -/
theorem ofFragmentsIn_passages (passages : List Passage) (rest : List Fragment) :
    ofFragmentsIn none (passages.flatMap Passage.fragments ++ rest) =
      (ofFragmentsIn none rest).map fun left => passages.foldr addPassage left := by
  induction passages with
  | nil => exact (congrFun Except.map_id _).symm
  | cons passage passages ih =>
    rw [List.flatMap_cons, List.append_assoc, ofFragmentsIn_passage, ih]
    cases ofFragmentsIn none rest <;> rfl

theorem ofFragments_passages (passages : List Passage) :
    ofFragments (passages.flatMap Passage.fragments) = .ok (ofPassages passages) := by
  have hmeaning : ofPassages passages = passages.foldr addPassage ⟨[], 0⟩ := by
    induction passages with
    | nil => rfl
    | cons passage passages ih => rw [ofPassages_cons, ih, List.foldr_cons]
  have hall := ofFragmentsIn_passages passages []
  rw [List.append_nil] at hall
  rw [ofFragments, hall, hmeaning]
  rfl

/-- Behind a sentence an error stays what it is. -/
theorem ofFragments_passages_error {error : QueryError} (passages : List Passage)
    (herror : ofFragmentsIn none rest = .error error) :
    ofFragments (passages.flatMap Passage.fragments ++ rest) = .error error := by
  rw [ofFragments, ofFragmentsIn_passages, herror]
  rfl

/-! ## One more fragment -/

/-- The fragments are a sentence, or a sentence and then a block that has not been closed: the one
that `opening` has opened. -/
inductive EndsIn : Option Fragment → List Fragment → Prop
  | outside (passages : List Passage) : EndsIn none (passages.flatMap Passage.fragments)
  | inside (passages : List Passage) {opening : Fragment} {content : List Fragment}
    (hopening : opening.kind = .opening)
    (hcontent : ∀ f ∈ content, f.kind.isPlain = true ∨ f.kind = .skip) :
    EndsIn (some opening) (passages.flatMap Passage.fragments ++ opening :: content)

theorem ofFragments_inside (passages : List Passage) (hopening : opening.kind = .opening)
    (hcontent : ∀ f ∈ content, f.kind.isPlain = true ∨ f.kind = .skip) {error : QueryError}
    (herror : ∀ block : OpenBlock, block.position = opening.position →
      ofFragmentsIn (some block) rest = .error error) :
    ofFragments (passages.flatMap Passage.fragments ++ opening :: (content ++ rest)) =
      .error error := by
  refine ofFragments_passages_error passages ?_
  rw [ofFragmentsIn_opening hopening,
    ofFragmentsIn_run_some fun f hf => isBrace_eq_false (hcontent f hf)]
  exact herror _ (OpenBlock.putsInto_put.position_foldl content _)

/-- The fragment may not stand behind `front`, and is what is reported whatever follows it. -/
structure Breaks (front : List Fragment) (fragment : Fragment) (error : QueryError) : Prop where
  misplaced : fragment.misplaced? = some error
  fails : ∀ rest, ofFragments (front ++ fragment :: rest) = .error error

namespace EndsIn

theorem concat_outside (passages : List Passage) (fragment : Fragment) :
    (∃ open?, EndsIn open? (passages.flatMap Passage.fragments ++ [fragment])) ∨
      ∃ error, Breaks (passages.flatMap Passage.fragments) fragment error := by
  cases hkind : fragment.kind with
  | text | literal | other =>
    -- the fragment is a passage of its own
    have hplain : fragment.kind.isPlain = true := by rw [hkind]; rfl
    have hmore := outside (passages ++ [.plain fragment hplain])
    rw [List.flatMap_append, List.flatMap_singleton] at hmore
    exact .inl ⟨none, hmore⟩
  | opening => exact .inl ⟨some fragment, inside passages hkind nofun⟩
  -- outside, a closing brace and a skip break the language
  | closing =>
    refine .inr ⟨.unbalancedBrace ['}'] fragment.position, ?_, fun rest => ?_⟩
    · rw [Fragment.misplaced?, hkind]
    · exact ofFragments_passages_error passages (ofFragmentsIn_closing hkind)
  | skip =>
    refine .inr ⟨.skipOutsideBlock fragment.position, ?_, fun rest => ?_⟩
    · rw [Fragment.misplaced?, hkind]
    · exact ofFragments_passages_error passages (ofFragmentsIn_skip hkind)

theorem concat_inside (passages : List Passage) (hopening : opening.kind = .opening)
    (hcontent : ∀ f ∈ content, f.kind.isPlain = true ∨ f.kind = .skip) (fragment : Fragment) :
    (∃ open?, EndsIn open?
      (passages.flatMap Passage.fragments ++ opening :: content ++ [fragment])) ∨
      ∃ error, Breaks (passages.flatMap Passage.fragments ++ opening :: content) fragment error := by
  have happend (rest : List Fragment) :
      passages.flatMap Passage.fragments ++ opening :: content ++ rest =
        passages.flatMap Passage.fragments ++ opening :: (content ++ rest) := by
    rw [List.append_assoc, List.cons_append]
  have hstays (h : fragment.kind.isPlain = true ∨ fragment.kind = .skip) :
      EndsIn (some opening)
        (passages.flatMap Passage.fragments ++ opening :: (content ++ [fragment])) :=
    inside passages hopening (List.forall_mem_append.mpr ⟨hcontent, by simpa using h⟩)
  rw [happend]
  cases hkind : fragment.kind with
  | text | literal | other => exact .inl ⟨some opening, hstays (.inl (by rw [hkind]; rfl))⟩
  | skip => exact .inl ⟨some opening, hstays (.inr hkind)⟩
  | closing =>
    -- the block is complete, and is the last passage from here on
    have hmore := outside
      (passages ++ [.block ⟨opening, content, fragment, hopening, hcontent, hkind⟩])
    rw [List.flatMap_append, List.flatMap_singleton] at hmore
    exact .inl ⟨none, hmore⟩
  | opening =>
    refine .inr ⟨.nestedBlock fragment.position, ?_, fun rest => ?_⟩
    · rw [Fragment.misplaced?, hkind]
    · rw [happend]
      exact ofFragments_inside passages hopening hcontent
        fun block _ => ofFragmentsIn_opening_some hkind

/-- One more fragment keeps to the language, or breaks it. -/
theorem concat {open? : Option Fragment} (h : EndsIn open? front) (fragment : Fragment) :
    (∃ open?, EndsIn open? (front ++ [fragment])) ∨ ∃ error, Breaks front fragment error := by
  cases h with
  | outside passages => exact concat_outside passages fragment
  | inside passages hopening hcontent => exact concat_inside passages hopening hcontent fragment

theorem extendable {open? : Option Fragment} (h : EndsIn open? front) : Extendable front := by
  cases h with
  | outside passages => exact ⟨[], passages, (List.append_nil _).symm⟩
  | inside passages hopening hcontent =>
    refine ⟨[.closing 0], passages ++ [.block ⟨_, _, .closing 0, hopening, hcontent, rfl⟩], ?_⟩
    simp [Passage.fragments]

theorem ofFragments_eq (h : EndsIn (some opening) fragments) :
    ofFragments fragments = .error (.unbalancedBrace ['{'] opening.position) := by
  cases h with
  | inside passages hopening hcontent =>
    have hend : ∀ block : OpenBlock, block.position = opening.position →
        ofFragmentsIn (some block) [] = .error (.unbalancedBrace ['{'] opening.position) := by
      intro block hposition
      rw [ofFragmentsIn, hposition]
    have hinside := ofFragments_inside passages hopening hcontent hend
    rwa [List.append_nil] at hinside

/-- An open block was opened by the last opening brace. -/
theorem getLast?_opening (h : EndsIn (some opening) fragments) :
    (fragments.filter fun f => f.kind = .opening).getLast? = some opening := by
  cases h with
  | @inside passages _ content hopening hcontent =>
    have hnone : content.filter (fun f => f.kind = .opening) = [] := by
      refine List.filter_eq_nil_iff.mpr fun f hf => ?_
      have hbrace := isBrace_eq_false (hcontent f hf)
      rw [Fragment.isBrace, Bool.or_eq_false_iff] at hbrace
      exact ne_true_of_eq_false hbrace.1
    rw [List.filter_append, List.filter_cons_of_pos (by simpa using hopening), hnone,
      List.getLast?_append, List.getLast?_singleton, Option.some_or]

end EndsIn

/-! ## The first fragment that breaks the language -/

/-- By induction from the end: `EndsIn` is kept up to the first fragment that breaks the language,
and from there on nothing that follows matters. -/
theorem endsIn_or_broken (fragments : List Fragment) :
    (∃ open?, EndsIn open? fragments) ∨
      ∃ front fragment rest error, fragments = front ++ fragment :: rest ∧ Extendable front ∧
        Breaks front fragment error := by
  induction fragments using List.reverseRecOn with
  | nil => exact .inl ⟨none, .outside []⟩
  | append_singleton fragments fragment ih =>
    rcases ih with ⟨open?, hends⟩ | ⟨front, broken, rest, error, rfl, hfront, hbreaks⟩
    · rcases hends.concat fragment with hmore | ⟨error, hbreaks⟩
      · exact .inl hmore
      · exact .inr ⟨fragments, fragment, [], error, rfl, hends.extendable, hbreaks⟩
    · refine .inr ⟨front, broken, rest ++ [fragment], error, ?_, hfront, hbreaks⟩
      rw [List.append_assoc, List.cons_append]

/-- A sentence cannot begin with what is reported whatever follows, for sentences are resolved. -/
theorem Breaks.not_extendable {error : QueryError} (h : Breaks front fragment error) :
    ¬ Extendable (front ++ [fragment]) := by
  rintro ⟨rest, passages, hpassages⟩
  have hok := ofFragments_passages passages
  rw [hpassages, List.append_assoc, List.singleton_append, h.fails] at hok
  cases hok

theorem endsIn_of_extendable (h : Extendable fragments) : ∃ open?, EndsIn open? fragments := by
  rcases endsIn_or_broken fragments with hends | ⟨front, broken, rest, error, rfl, -, hbreaks⟩
  · exact hends
  · obtain ⟨more, hflat⟩ := h
    refine absurd ⟨rest ++ more, ?_⟩ hbreaks.not_extendable
    simpa using hflat

/-! ## What the resolution makes of any fragments -/

theorem exists_verdict (fragments : List Fragment) : ∃ result, Verdict fragments result := by
  rcases endsIn_or_broken fragments with
    ⟨open?, hends⟩ | ⟨front, broken, rest, error, hfragments, hfront, hbreaks⟩
  · cases open? with
    | none =>
      obtain ⟨passages⟩ := hends
      exact ⟨_, .flat passages rfl⟩
    | some opening =>
      -- a sentence is resolved, and these fragments are not
      have hflat : ¬ IsFlat fragments := by
        rintro ⟨passages, rfl⟩
        have hok := ofFragments_passages passages
        rw [hends.ofFragments_eq] at hok
        cases hok
      exact ⟨_, .unclosed hends.extendable hflat hends.getLast?_opening⟩
  · exact ⟨_, .broken hfragments hfront hbreaks.not_extendable hbreaks.misplaced⟩

theorem Verdict.ofFragments_eq {result : Except QueryError Resolution}
    (h : Verdict fragments result) : ofFragments fragments = result := by
  cases h with
  | flat passages hpassages => rw [← hpassages, ofFragments_passages]
  | broken hfragments hfront hbroken herror =>
    obtain ⟨open?, hends⟩ := endsIn_of_extendable hfront
    rcases hends.concat _ with ⟨_, hmore⟩ | ⟨error, hbreaks⟩
    · exact absurd hmore.extendable hbroken
    · have hsame := herror.symm.trans hbreaks.misplaced
      rw [hfragments, hbreaks.fails, Option.some.inj hsame]
  | unclosed hextendable hflat hlast =>
    obtain ⟨open?, hends⟩ := endsIn_of_extendable hextendable
    cases open? with
    | none =>
      obtain ⟨passages⟩ := hends
      exact absurd ⟨passages, rfl⟩ hflat
    | some opening =>
      rw [hends.getLast?_opening, Option.some.injEq] at hlast
      rw [hends.ofFragments_eq, hlast]

end Resolution

/-- Names of other kinds are not taken for one that the resolution of blocks looks at. -/
theorem FragmentKind.ofName_eq_iff {kind : FragmentKind} (hspecial : kind.isPlain = false)
    (name : Text) : ofName name = kind ↔ name = kind.name := by
  constructor
  · intro h
    rw [ofName] at h
    cases hfind : [text, literal, skip, opening, closing].find? (·.name == name) with
    | none =>
      rw [hfind, Option.getD_none] at h
      -- what is not found is another kind, which is plain
      rw [← h] at hspecial
      cases hspecial
    | some found =>
      rw [hfind, Option.getD_some] at h
      have hname := List.find?_some hfind
      rw [← h]
      exact (eq_of_beq hname).symm
  · rintro rfl
    cases kind with
    | skip | opening | closing => rfl
    | text | literal | other => cases hspecial

/-- **Flat blocks are resolved, and nothing else is.** Of a sentence the resolution gives what it
means. Of other fragments it reports the first that no sentence can have behind those in front of
it; if there is none, the block that is still open. Only three names are those of kinds that are not
plain text. -/
theorem ofFragments_eq_iff (fragments : List Fragment) :
    (∀ result, Resolution.ofFragments fragments = result ↔
      Resolution.Verdict fragments result) ∧
    ∀ kind : FragmentKind, kind.isPlain = false → ∀ name,
      (FragmentKind.ofName name = kind ↔ name = kind.name) := by
  refine ⟨fun result => ⟨fun h => ?_, fun h => h.ofFragments_eq⟩,
    fun kind hspecial => FragmentKind.ofName_eq_iff hspecial⟩
  obtain ⟨verdict, hverdict⟩ := Resolution.exists_verdict fragments
  rwa [← h, hverdict.ofFragments_eq]

/-- The skip of the first block does not drop the last one, which is still open. -/
theorem ofFragments_eq_iff_of_unclosed :
    let fragments : List Fragment := [.opening 0, .skip 1, .closing 9, .opening 10,
      ⟨.literal, ['x'], 11⟩]
    Resolution.Verdict fragments (.error (.unbalancedBrace ['{'] 10)) ∧
      Resolution.Verdict (fragments ++ [.closing 12]) (.ok ⟨['x'], 1⟩) ∧
      FragmentKind.ofName "block".toList ≠ .opening := by
  intro fragments
  refine ⟨((ofFragments_eq_iff fragments).1 _).mp (by decide),
    ((ofFragments_eq_iff (fragments ++ [.closing 12])).1 _).mp (by decide), fun h => ?_⟩
  have hname := ((ofFragments_eq_iff fragments).2 .opening rfl "block".toList).mp h
  exact absurd hname (by decide)

end SqlTemplate
