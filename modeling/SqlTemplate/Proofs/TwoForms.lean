import SqlTemplate.Error.Report
import SqlTemplate.Proofs.OneToken
import SqlTemplate.Proofs.Split

/-!
# A query as fragments and as text

The blocks of a query can be resolved from its fragments, or from its text, which is then split
again. The fragments that come out are others: a skip next to text that looks like part of a marker
is cut in another place. But run by run they have the same text, or both hold a skip
(`Separable.sameBlocks`), and more does not matter to the resolution
(`Resolution.mapError_ofFragmentsIn`). So both forms give one result, or are refused for one cause
(`resolve_text_eq`).
-/

namespace SqlTemplate

/-- The class of an error, with the brace of one that names a brace. The place where it was found is
left out. -/
def QueryError.cause (e : QueryError) : String × Option Text :=
  match e with
  | .unbalancedBrace brace _ => (e.className, some brace)
  | _ => (e.className, none)

/-! ## Runs that agree -/

/-- Two runs of fragments that hold a skip both, or have one text. -/
structure RunAlike (run run' : List Fragment) : Prop where
  inside : ∀ f ∈ run, f.isBrace = false
  inside' : ∀ f ∈ run', f.isBrace = false
  skip : run.any Fragment.isSkip = run'.any Fragment.isSkip
  text : run.any Fragment.isSkip = false →
    run.flatMap Fragment.text = run'.flatMap Fragment.text

/-- Two lists of fragments that are cut by the same braces into runs that agree. -/
inductive SameBlocks : List Fragment → List Fragment → Prop
  | last {run run' : List Fragment} (halike : RunAlike run run') : SameBlocks run run'
  | brace {run run' rest rest' : List Fragment} {f f' : Fragment} (halike : RunAlike run run')
      (hbrace : f.isBrace = true) (hkind : f.kind = f'.kind) (hrest : SameBlocks rest rest') :
      SameBlocks (run ++ f :: rest) (run' ++ f' :: rest')

/-- Blocks that add the same to what follows, once they are closed. -/
structure OpenBlock.Same (block block' : OpenBlock) : Prop where
  skipped : block.skipped = block'.skipped
  content : block.skipped = false → block.content = block'.content

namespace OpenBlock.Same

variable {block block' : OpenBlock}

theorem addBlock_eq (h : Same block block') :
    Resolution.addBlock block = Resolution.addBlock block' := by
  funext resolution
  rw [Resolution.addBlock, Resolution.addBlock, ← h.skipped]
  cases hskipped : block.skipped with
  | true => rfl
  | false => rw [h.content hskipped]

/-- Runs that agree make blocks that are the same of such blocks. -/
theorem foldl_put (h : Same block block') {run run' : List Fragment} (halike : RunAlike run run') :
    Same (run.foldl put block) (run'.foldl put block') where
  skipped := by
    rw [putsInto_put.skipped_foldl, putsInto_put.skipped_foldl, h.skipped, halike.skip]
  content := by
    intro hskipped
    rw [putsInto_put.skipped_foldl, Bool.or_eq_false_iff] at hskipped
    have hskip' : run'.any Fragment.isSkip = false := halike.skip ▸ hskipped.2
    rw [putsInto_put.content_foldl hskipped.2, putsInto_put.content_foldl hskip',
      h.content hskipped.1, halike.text hskipped.2]

end OpenBlock.Same

theorem mapError_map {ε ε' α β : Type} (x : Except ε α) (f : α → β) (g : ε → ε') :
    (x.map f).mapError g = (x.mapError g).map f := by
  cases x <;> rfl

namespace Resolution

/-- A run in front of fragments, outside blocks. -/
theorem mapError_ofFragmentsIn_run {run run' rest rest' : List Fragment}
    (halike : RunAlike run run')
    (hrest : (ofFragmentsIn none rest).mapError QueryError.cause =
      (ofFragmentsIn none rest').mapError QueryError.cause) :
    (ofFragmentsIn none (run ++ rest)).mapError QueryError.cause =
      (ofFragmentsIn none (run' ++ rest')).mapError QueryError.cause := by
  -- outside blocks a run with a skip fails, at whatever fragment the skip is
  cases hskip : run.any Fragment.isSkip with
  | true =>
    obtain ⟨position, h⟩ := ofFragmentsIn_run_skip rest halike.inside hskip
    obtain ⟨position', h'⟩ :=
      ofFragmentsIn_run_skip rest' halike.inside' (halike.skip ▸ hskip)
    rw [h, h']
    rfl
  | false =>
    rw [ofFragmentsIn_run halike.inside hskip,
      ofFragmentsIn_run halike.inside' (halike.skip ▸ hskip), mapError_map, mapError_map, hrest,
      halike.text hskip]

/-- Lists whose runs agree are resolved alike, outside blocks and inside blocks that are the
same. -/
theorem mapError_ofFragmentsIn {fs gs : List Fragment} (h : SameBlocks fs gs) :
    (ofFragmentsIn none fs).mapError QueryError.cause =
        (ofFragmentsIn none gs).mapError QueryError.cause ∧
      ∀ block block', OpenBlock.Same block block' →
        (ofFragmentsIn (some block) fs).mapError QueryError.cause =
          (ofFragmentsIn (some block') gs).mapError QueryError.cause := by
  induction h with
  | @last run run' halike =>
    rw [← List.append_nil run, ← List.append_nil run']
    refine ⟨mapError_ofFragmentsIn_run halike rfl, fun block block' _ => ?_⟩
    -- both blocks stay open
    rw [ofFragmentsIn_run_some halike.inside, ofFragmentsIn_run_some halike.inside']
    rfl
  | @brace run run' rest rest' f f' halike hbrace hkind _ ih =>
    refine ⟨mapError_ofFragmentsIn_run halike ?_, fun block block' hsame => ?_⟩
    · rcases Fragment.isBrace_cases hbrace with hf | hf
      · rw [ofFragmentsIn_opening hf, ofFragmentsIn_opening (hkind ▸ hf)]
        exact ih.2 _ _ ⟨rfl, fun _ => rfl⟩
      · rw [ofFragmentsIn_closing hf, ofFragmentsIn_closing (hkind ▸ hf)]
        rfl
    · rw [ofFragmentsIn_run_some halike.inside, ofFragmentsIn_run_some halike.inside']
      rcases Fragment.isBrace_cases hbrace with hf | hf
      · rw [ofFragmentsIn_opening_some hf, ofFragmentsIn_opening_some (hkind ▸ hf)]
        rfl
      · rw [ofFragmentsIn_closing_some hf, ofFragmentsIn_closing_some (hkind ▸ hf), mapError_map,
          mapError_map, ih.1, (hsame.foldl_put halike).addBlock_eq]

end Resolution

/-! ## Queries that can be told from their text -/

/-- The text that all fragments of the kind have, if there is one. -/
def FragmentKind.sign? : FragmentKind → Option Text
  | opening => some ['{']
  | closing => some ['}']
  | skip => some skipMarker
  | text | literal | other _ => none

/-- A fragment that is a brace or a skip is written as one. -/
def Fragment.IsMarked (fragment : Fragment) : Prop :=
  ∀ sign ∈ fragment.kind.sign?, fragment.text = sign

theorem Fragment.IsMarked.text_of_isSkip {fragment : Fragment} (h : fragment.IsMarked)
    (hskip : fragment.isSkip = true) : fragment.text = skipMarker := by
  apply h
  rw [kind_of_isSkip hskip]
  rfl

/-- In the text of the fragments, the braces are those of the blocks, and there is a marker between
two braces only if there is a skip. -/
structure Separable (fragments : List Fragment) : Prop where
  marked : ∀ f ∈ fragments, f.IsMarked
  braceless : ∀ f ∈ fragments, f.kind.isPlain → ∀ c ∈ f.text, isBraceChar c = false
  markerless : ∀ run ∈ fragments.splitOnP Fragment.isBrace, run.any Fragment.isSkip = false →
    ¬ skipMarker <:+: run.flatMap Fragment.text

namespace Separable

variable {run rest fragments : List Fragment} {f : Fragment}

/-- Separable fragments between braces hold no brace in their texts. -/
theorem isBraceChar_eq_false (h : Separable run) (hrun : ∀ f ∈ run, f.isBrace = false) :
    ∀ c ∈ run.flatMap Fragment.text, isBraceChar c = false := by
  intro c hc
  obtain ⟨f, hf, hmem⟩ := List.mem_flatMap.mp hc
  cases hskip : f.isSkip with
  | false => exact h.braceless f hf (Resolution.isPlain_of_not_isSkip (hrun f hf) hskip) c hmem
  | true =>
    have htext : f.text = skipMarker := (h.marked f hf).text_of_isSkip hskip
    exact not_isBraceChar_of_mem_skipMarker c (htext ▸ hmem)

/-- Between braces there is a marker exactly if there is a skip. -/
theorem skipMarker_infix_iff (h : Separable run) (hrun : ∀ f ∈ run, f.isBrace = false) :
    skipMarker <:+: run.flatMap Fragment.text ↔ run.any Fragment.isSkip = true := by
  cases hskip : run.any Fragment.isSkip with
  | false =>
    have hmem : run ∈ run.splitOnP Fragment.isBrace := by
      rw [List.splitOnP_eq_singleton hrun]
      exact List.mem_singleton_self run
    simpa using h.markerless run hmem hskip
  | true =>
    obtain ⟨f, hf, hfskip⟩ := List.any_eq_true.mp hskip
    have htext : f.text = skipMarker := (h.marked f hf).text_of_isSkip hfskip
    obtain ⟨before, after, rfl⟩ := List.append_of_mem hf
    rw [List.flatMap_append, List.flatMap_cons, htext, iff_true_right rfl]
    exact ⟨before.flatMap Fragment.text, after.flatMap Fragment.text, List.append_assoc ..⟩

/-- Separable fragments between braces are split again into a run that has the same effect. -/
theorem runAlike (h : Separable run) (hrun : ∀ f ∈ run, f.isBrace = false) (n : Nat) :
    RunAlike (Fragment.splitFrom n (run.flatMap Fragment.text)) run where
  inside := Fragment.forall_isBrace_splitFrom (h.isBraceChar_eq_false hrun) n
  inside' := hrun
  skip := by
    rw [Fragment.any_isSkip_splitFrom, Bool.eq_iff_iff, decide_eq_true_iff]
    exact h.skipMarker_infix_iff hrun
  text _ := Fragment.flatMap_text_splitFrom n _

/-- What stands in front of the first brace is separable, and so is what stands behind it. -/
theorem of_append (h : Separable (run ++ f :: rest)) (hrun : ∀ f ∈ run, f.isBrace = false)
    (hf : f.isBrace = true) : Separable run ∧ f.IsMarked ∧ Separable rest := by
  obtain ⟨hmarked, hbraceless, hmarkerless⟩ := h
  rw [List.splitOnP_append_cons_of_forall_mem hrun f hf, List.forall_mem_cons] at hmarkerless
  rw [List.forall_mem_append, List.forall_mem_cons] at hmarked hbraceless
  refine ⟨⟨hmarked.1, hbraceless.1, ?_⟩, hmarked.2.1, hmarked.2.2, hbraceless.2.2,
    hmarkerless.2⟩
  rw [List.splitOnP_eq_singleton hrun, List.forall_mem_singleton]
  exact hmarkerless.1

/-- A brace is one code point, and is split into a fragment of its kind. -/
theorem exists_isBraceChar (hf : f.isBrace = true) (hmarked : f.IsMarked) :
    ∃ c, isBraceChar c = true ∧ f.text = [c] ∧
      ∀ position, (Fragment.ofBrace c position).kind = f.kind := by
  rcases Fragment.isBrace_cases hf with hkind | hkind
  · have htext : f.text = ['{'] := hmarked _ (by rw [hkind]; rfl)
    exact ⟨'{', rfl, htext, fun _ => hkind.symm⟩
  · have htext : f.text = ['}'] := hmarked _ (by rw [hkind]; rfl)
    exact ⟨'}', rfl, htext, fun _ => hkind.symm⟩

/-- The text of separable fragments is split by the same braces, into runs that agree. -/
theorem sameBlocks (h : Separable fragments) (n : Nat) :
    SameBlocks (Fragment.splitFrom n (fragments.flatMap Fragment.text)) fragments := by
  induction fragments using induction_on_runs Fragment.isBrace generalizing n with
  | last run hrun => exact .last (h.runAlike hrun n)
  | more run f rest hrun hf ih =>
    obtain ⟨hfront, hmarked, hrest⟩ := h.of_append hrun hf
    obtain ⟨c, hc, htext, hkind⟩ := exists_isBraceChar hf hmarked
    have hhead : ∀ d ∈ (c :: rest.flatMap Fragment.text).head?, isBraceChar d = true := by
      rintro d ⟨⟩
      exact hc
    rw [List.flatMap_append, List.flatMap_cons, htext, List.singleton_append,
      Fragment.splitFrom_append _ _ hhead, Fragment.splitFrom_brace hc]
    exact .brace (hfront.runAlike hrun n) (Fragment.isBrace_ofBrace hc _) (hkind _) (ih hrest _)

end Separable

/-! ## Queries that are filled in -/

namespace Builder

variable {builder : Builder}

theorem isMarked_of_sign {fragment : Fragment} (h : fragment.kind.sign? = some fragment.text) :
    fragment.IsMarked := by
  intro sign hsign
  exact Option.some.inj (h.symm.trans hsign)

theorem isMarked_of_isPlain {fragment : Fragment} (h : fragment.kind.isPlain) :
    fragment.IsMarked := by
  intro sign hsign
  cases hkind : fragment.kind <;> simp [hkind, FragmentKind.sign?, FragmentKind.isPlain] at h hsign

/-- A placeholder becomes a fragment with the text of its kind. -/
theorem isMarked_fillPlaceholder {specifier : Option Specifier} {position : Int}
    {argument : Argument} {fragment : Fragment}
    (h : (builder.fillPlaceholder specifier position argument).result = .ok fragment) :
    fragment.IsMarked := by
  rw [fillPlaceholder] at h
  split at h
  · cases h
    exact isMarked_of_sign rfl
  · rw [Traced.result_map] at h
    obtain ⟨literal, -, rfl⟩ := exists_of_map_eq_ok h
    exact isMarked_of_isPlain rfl

theorem isMarked_fillToken {argument? : Option Argument} {token : Token} {fragment : Fragment}
    (h : (builder.fillToken argument? token).result = .ok fragment) : fragment.IsMarked := by
  match token, argument? with
  | .text .., _ =>
    cases h
    exact isMarked_of_isPlain rfl
  | .brace .opening _, _ | .brace .closing _, _ =>
    cases h
    exact isMarked_of_sign rfl
  | .placeholder .., some argument => exact isMarked_fillPlaceholder h
  | .placeholder .., none => cases h

theorem isMarked_fillTokens {tokens : List Token} {arguments : List Argument}
    {fragments : List Fragment} (h : (builder.fillTokens tokens arguments).result = .ok fragments) :
    ∀ f ∈ fragments, f.IsMarked := by
  induction tokens generalizing arguments fragments with
  | nil =>
    cases h
    exact nofun
  | cons token tokens ih =>
    obtain ⟨fragment, rest, rfl, hfragment, hrest⟩ := exists_of_fillTokens_cons h
    exact List.forall_mem_cons.mpr ⟨isMarked_fillToken hfragment, ih hrest⟩

theorem isMarked_substitute {template : Text} {arguments : Argument} {query : Query}
    (h : (builder.substitute template arguments).result = .ok query) :
    ∀ f ∈ query.fragments, f.IsMarked := by
  rw [result_substitute] at h
  obtain ⟨tokens, -, h⟩ := exists_of_bind_eq_ok h
  obtain ⟨items, -, h⟩ := exists_of_bind_eq_ok h
  obtain ⟨-, -, h⟩ := exists_of_bind_eq_ok h
  obtain ⟨fragments, hfragments, h⟩ := exists_of_bind_eq_ok h
  cases h
  exact isMarked_fillTokens hfragments

end Builder

/-- **The two forms of a query are resolved alike.** The query has been filled in, or its braces and
skips are written as such. If there is no brace in its other fragments, and no marker in the text of
a run without a skip, then its text and its fragments leave the same SQL, with the same number of
blocks dropped, or they are refused with an error of the same class, for the same brace. -/
theorem resolve_text_eq (query : Query)
    (hsource : (∃ builder template arguments,
        (Builder.substitute builder template arguments).result = .ok query) ∨
      ∀ f ∈ query.fragments, f.IsMarked)
    (hbraceless : ∀ f ∈ query.fragments, f.kind.isPlain → '{' ∉ f.text ∧ '}' ∉ f.text)
    (hmarkerless : ∀ run ∈ query.fragments.splitOnP Fragment.isBrace,
      (∀ f ∈ run, f.kind ≠ .skip) → ¬ skipMarker <:+: run.flatMap Fragment.text) :
    (Resolution.ofText query.text).mapError QueryError.cause =
      (Resolution.ofFragments query.fragments).mapError QueryError.cause := by
  -- the three conditions of the statement are what it takes to split the text again
  have hseparable : Separable query.fragments := {
    marked := by
      rcases hsource with ⟨builder, template, arguments, h⟩ | h
      · exact Builder.isMarked_substitute h
      · exact h
    braceless := by
      intro f hf hplain c hc
      have hne : c ≠ '{' ∧ c ≠ '}' := by
        have hout := hbraceless f hf hplain
        exact ⟨fun h => hout.1 (h ▸ hc), fun h => hout.2 (h ▸ hc)⟩
      simpa [isBraceChar] using hne
    markerless := by
      intro run hrun hskip
      refine hmarkerless run hrun fun f hf => ?_
      have hfskip : f.isSkip = false := by simpa using List.any_eq_false.mp hskip f hf
      simpa [Fragment.isSkip] using hfskip }
  exact (Resolution.mapError_ofFragmentsIn (hseparable.sameBlocks 0)).1

/-- In the text of the first block a marker starts before the skip, with which it overlaps. -/
theorem resolve_text_eq_of_overlap :
    let query : Query := ⟨[.opening 0, ⟨.text, "a__SKIP".toList, 1⟩, .skip 8, .closing 9,
      .opening 10, ⟨.text, " b = ".toList, 11⟩, ⟨.literal, "NULL".toList, 16⟩, .closing 17], 2⟩
    (Builder.substitute ⟨.ofDialect .mysql none, {}⟩ "\x7ba__SKIP?\x7d\x7b b = ?\x7d".toList
        (.ofList [.skip, .null])).result = .ok query ∧
      (∀ f ∈ query.fragments, f.kind.isPlain → '{' ∉ f.text ∧ '}' ∉ f.text) ∧
      (∀ run ∈ query.fragments.splitOnP Fragment.isBrace,
        (∀ f ∈ run, f.kind ≠ .skip) → ¬ skipMarker <:+: run.flatMap Fragment.text) ∧
      Fragment.ofText query.text ≠ query.fragments ∧
      (Resolution.ofText query.text).mapError QueryError.cause = .ok ⟨" b = NULL".toList, 1⟩ := by
  intro query
  have hsubstitute : (Builder.substitute ⟨.ofDialect .mysql none, {}⟩
      "\x7ba__SKIP?\x7d\x7b b = ?\x7d".toList (.ofList [.skip, .null])).result =
      .ok query := rfl
  have hbraceless : ∀ f ∈ query.fragments, f.kind.isPlain → '{' ∉ f.text ∧ '}' ∉ f.text := by
    decide
  have hmarkerless : ∀ run ∈ query.fragments.splitOnP Fragment.isBrace,
      (∀ f ∈ run, f.kind ≠ .skip) → ¬ skipMarker <:+: run.flatMap Fragment.text := by decide
  refine ⟨hsubstitute, hbraceless, hmarkerless, by cbv; decide, ?_⟩
  rw [resolve_text_eq query (.inl ⟨_, _, _, hsubstitute⟩) hbraceless hmarkerless]
  rfl

end SqlTemplate
