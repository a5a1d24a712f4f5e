import SqlTemplate.Block
import SqlTemplate.Traced

/-!
# Runs between braces

Braces cut a list of fragments into runs. Within a run blocks neither open nor close, so what the
resolution of blocks makes of it depends on two things only: whether it holds a skip, and its text.

* `OpenBlock.PutsInto` says what it is to put things into a block, and is followed by what becomes
  of the block once all have been put in, whatever the things are.
* `ofFragmentsIn_run`, `ofFragmentsIn_run_skip` and `ofFragmentsIn_run_some` say what a run does
  outside blocks and inside one.
* `eq_ofRuns` says what is left of a query that can be resolved: the text of the runs without a
  skip. The runs with one are the blocks that are dropped.
-/

namespace SqlTemplate

/-- Induction along the runs that a list is cut into at the elements with `p`. -/
theorem induction_on_runs {α : Type} (p : α → Bool) {motive : List α → Prop}
    (last : ∀ run, (∀ x ∈ run, p x = false) → motive run)
    (more : ∀ run x rest, (∀ y ∈ run, p y = false) → p x = true → motive rest →
      motive (run ++ x :: rest)) (l : List α) : motive l := by
  have hrun : ∀ run, (∀ x ∈ run, p x = false) → motive (run ++ l) := by
    induction l with
    | nil =>
      intro run hrun
      rw [List.append_nil]
      exact last run hrun
    | cons x l ih =>
      intro run hrun
      cases hx : p x with
      | true => exact more run x l hrun hx (ih [] nofun)
      | false =>
        rw [List.append_cons]
        exact ih (run ++ [x]) (List.forall_mem_append.mpr ⟨hrun, by simpa using hx⟩)
  exact hrun [] nofun

/-- Something holds of each element of a list and what stands in front of it exactly if it holds of
the first one, and of the others with the first one put in front. -/
theorem forall_eq_append_cons_iff {α : Type} {p : List α → α → Prop} {x : α} {l : List α} :
    (∀ front y rest, x :: l = front ++ y :: rest → p front y) ↔
      p [] x ∧ ∀ front y rest, l = front ++ y :: rest → p (x :: front) y := by
  constructor
  · intro h
    exact ⟨h [] x l rfl, fun front y rest hl => h (x :: front) y rest (by rw [hl]; rfl)⟩
  · rintro ⟨hhead, htail⟩ front y rest h
    cases front with
    | nil =>
      obtain ⟨rfl, rfl⟩ := List.cons.inj h
      exact hhead
    | cons first front =>
      obtain ⟨rfl, hl⟩ := List.cons.inj h
      exact htail front y rest hl

namespace Fragment

def isBrace (fragment : Fragment) : Bool :=
  fragment.kind = .opening || fragment.kind = .closing

def isSkip (fragment : Fragment) : Bool :=
  fragment.kind = .skip

theorem isBrace_cases {fragment : Fragment} (h : fragment.isBrace = true) :
    fragment.kind = .opening ∨ fragment.kind = .closing := by
  simpa [isBrace] using h

theorem kind_of_isSkip {fragment : Fragment} (h : fragment.isSkip = true) :
    fragment.kind = .skip := by
  simpa [isSkip] using h

end Fragment

/-! ## What a run does -/

namespace OpenBlock

/-- The step puts one thing into a block: a skip marks the block, and anything else adds its
text. -/
def PutsInto {α : Type} (step : OpenBlock → α → OpenBlock) (isSkip : α → Bool) (text : α → Text) :
    Prop :=
  ∀ block x, step block x =
    if isSkip x then { block with skipped := true }
    else { block with content := block.content ++ text x }

namespace PutsInto

variable {α : Type} {step : OpenBlock → α → OpenBlock} {isSkip : α → Bool} {text : α → Text}
  {xs : List α}

theorem position_foldl (h : PutsInto step isSkip text) (xs : List α) (block : OpenBlock) :
    (xs.foldl step block).position = block.position := by
  induction xs generalizing block with
  | nil => rfl
  | cons x xs ih =>
    rw [List.foldl_cons, ih, h]
    cases isSkip x <;> rfl

/-- A block is to be dropped if it was so before, or a skip was put into it. -/
theorem skipped_foldl (h : PutsInto step isSkip text) (xs : List α) (block : OpenBlock) :
    (xs.foldl step block).skipped = (block.skipped || xs.any isSkip) := by
  induction xs generalizing block with
  | nil => simp
  | cons x xs ih =>
    rw [List.foldl_cons, ih, List.any_cons, h]
    cases isSkip x <;> simp

/-- What is put into a block without a skip stands behind its text, in order. -/
theorem content_foldl (h : PutsInto step isSkip text) (hskip : xs.any isSkip = false)
    (block : OpenBlock) : (xs.foldl step block).content = block.content ++ xs.flatMap text := by
  induction xs generalizing block with
  | nil => simp
  | cons x xs ih =>
    rw [List.any_cons, Bool.or_eq_false_iff] at hskip
    rw [List.foldl_cons, ih hskip.2, h, hskip.1, List.flatMap_cons]
    simp

/-- What a block adds to the rest into which nothing had been put before. -/
theorem addBlock_foldl (h : PutsInto step isSkip text) (xs : List α) (position : Int)
    (resolution : Resolution) :
    resolution.addBlock (xs.foldl step ⟨position, false, []⟩) =
      if xs.any isSkip then { resolution with dropped := resolution.dropped + 1 }
      else resolution.addText (xs.flatMap text) := by
  rw [Resolution.addBlock, h.skipped_foldl, Bool.false_or]
  cases hskip : xs.any isSkip with
  | true => rfl
  | false => rw [h.content_foldl hskip, List.nil_append]

end PutsInto

/-- The block with one more fragment inside that is no brace. -/
def put (block : OpenBlock) (fragment : Fragment) : OpenBlock :=
  if fragment.isSkip then { block with skipped := true }
  else { block with content := block.content ++ fragment.text }

theorem putsInto_put : PutsInto put Fragment.isSkip Fragment.text :=
  fun _ _ => rfl

end OpenBlock

namespace Resolution

variable {run rest : List Fragment} {block : OpenBlock} {resolution : Resolution}

/-- What is neither a brace nor a skip is plain text. -/
theorem isPlain_of_not_isSkip {fragment : Fragment} (hbrace : fragment.isBrace = false)
    (hskip : fragment.isSkip = false) : fragment.kind.isPlain := by
  cases hkind : fragment.kind with
  | opening | closing => simp [Fragment.isBrace, hkind] at hbrace
  | skip => simp [Fragment.isSkip, hkind] at hskip
  | text | literal | other => rfl

/-- Inside a block all that is no brace is put into the block. -/
theorem ofFragmentsIn_put {fragment : Fragment} (hbrace : fragment.isBrace = false) :
    ofFragmentsIn (some block) (fragment :: rest) =
      ofFragmentsIn (some (block.put fragment)) rest := by
  rw [OpenBlock.put]
  cases hskip : fragment.isSkip with
  | true => exact ofFragmentsIn_skip_some (Fragment.kind_of_isSkip hskip)
  | false => exact ofFragmentsIn_plain_some (isPlain_of_not_isSkip hbrace hskip)

/-- Inside a block a run is put into the block. -/
theorem ofFragmentsIn_run_some (hrun : ∀ f ∈ run, f.isBrace = false) :
    ofFragmentsIn (some block) (run ++ rest) =
      ofFragmentsIn (some (run.foldl OpenBlock.put block)) rest := by
  induction run generalizing block with
  | nil => rfl
  | cons fragment run ih =>
    rw [List.forall_mem_cons] at hrun
    rw [List.cons_append, ofFragmentsIn_put hrun.1, ih hrun.2]
    rfl

/-- Outside blocks the text of a run without a skip is kept. -/
theorem ofFragmentsIn_run (hrun : ∀ f ∈ run, f.isBrace = false)
    (hskip : run.any Fragment.isSkip = false) :
    ofFragmentsIn none (run ++ rest) =
      (ofFragmentsIn none rest).map (addText (run.flatMap Fragment.text)) := by
  induction run with
  | nil => exact (congrFun Except.map_id _).symm
  | cons fragment run ih =>
    rw [List.forall_mem_cons] at hrun
    rw [List.any_cons, Bool.or_eq_false_iff] at hskip
    rw [List.cons_append, ofFragmentsIn_plain (isPlain_of_not_isSkip hrun.1 hskip.1),
      ih hrun.2 hskip.2]
    cases ofFragmentsIn none rest with
    | error cause => rfl
    | ok resolution => simp [Except.map, addText]

/-- Outside blocks a run with a skip is an error. -/
theorem ofFragmentsIn_run_skip (rest : List Fragment) (hrun : ∀ f ∈ run, f.isBrace = false)
    (hskip : run.any Fragment.isSkip = true) :
    ∃ position, ofFragmentsIn none (run ++ rest) = .error (.skipOutsideBlock position) := by
  induction run with
  | nil => cases hskip
  | cons fragment run ih =>
    rw [List.forall_mem_cons] at hrun
    cases hhead : fragment.isSkip with
    | true => exact ⟨_, ofFragmentsIn_skip (Fragment.kind_of_isSkip hhead)⟩
    | false =>
      rw [List.any_cons, hhead, Bool.false_or] at hskip
      obtain ⟨position, hposition⟩ := ih hrun.2 hskip
      rw [List.cons_append, ofFragmentsIn_plain (isPlain_of_not_isSkip hrun.1 hhead), hposition]
      exact ⟨position, rfl⟩

/-! ## What is left -/

/-- What is left of runs: the text of those without a skip. The others are dropped. -/
def ofRuns (runs : List (List Fragment)) : Resolution where
  sql := (runs.filter fun run => !run.any Fragment.isSkip).flatMap (List.flatMap Fragment.text)
  dropped := runs.countP fun run => run.any Fragment.isSkip

theorem ofRuns_cons_of_skip (runs : List (List Fragment)) (h : run.any Fragment.isSkip = true) :
    ofRuns (run :: runs) = { ofRuns runs with dropped := (ofRuns runs).dropped + 1 } := by
  simp only [ofRuns, List.filter_cons, List.countP_cons, h]
  rfl

theorem ofRuns_cons (runs : List (List Fragment)) (h : run.any Fragment.isSkip = false) :
    ofRuns (run :: runs) = (ofRuns runs).addText (run.flatMap Fragment.text) := by
  simp only [ofRuns, List.filter_cons, List.countP_cons, h]
  rfl

/-- A block that holds a whole run adds to the rest what the run does. -/
theorem addBlock_run (position : Int) (run : List Fragment) (runs : List (List Fragment)) :
    (ofRuns runs).addBlock (run.foldl OpenBlock.put ⟨position, false, []⟩) =
      ofRuns (run :: runs) := by
  rw [OpenBlock.putsInto_put.addBlock_foldl]
  cases hskip : run.any Fragment.isSkip with
  | true => exact (ofRuns_cons_of_skip runs hskip).symm
  | false => exact (ofRuns_cons runs hskip).symm

/-- What is left of a query that can be resolved, outside blocks and inside one. -/
theorem eq_ofRuns_in (fragments : List Fragment) :
    (∀ resolution, ofFragmentsIn none fragments = .ok resolution →
      resolution = ofRuns (fragments.splitOnP Fragment.isBrace)) ∧
    ∀ block resolution, ofFragmentsIn (some block) fragments = .ok resolution →
      ∃ run runs, fragments.splitOnP Fragment.isBrace = run :: runs ∧
        resolution = (ofRuns runs).addBlock (run.foldl OpenBlock.put block) := by
  induction fragments using induction_on_runs Fragment.isBrace with
  | last run hrun =>
    rw [List.splitOnP_eq_singleton hrun, ← List.append_nil run]
    refine ⟨fun resolution h => ?_, fun block resolution h => ?_⟩
    · cases hskip : run.any Fragment.isSkip with
      | true =>
        obtain ⟨position, herror⟩ := ofFragmentsIn_run_skip [] hrun hskip
        rw [herror] at h
        cases h
      | false =>
        rw [ofFragmentsIn_run hrun hskip] at h
        cases h
        rw [List.append_nil, ofRuns_cons [] hskip]
        rfl
    · -- the block stays open
      rw [ofFragmentsIn_run_some hrun] at h
      cases h
  | more run brace rest hrun hbrace ih =>
    rw [List.splitOnP_append_cons_of_forall_mem hrun brace hbrace]
    refine ⟨fun resolution h => ?_, fun block resolution h => ?_⟩
    · cases hskip : run.any Fragment.isSkip with
      | true =>
        obtain ⟨position, herror⟩ := ofFragmentsIn_run_skip (brace :: rest) hrun hskip
        rw [herror] at h
        cases h
      | false =>
        rw [ofFragmentsIn_run hrun hskip] at h
        obtain ⟨inner, hinner, rfl⟩ := exists_of_map_eq_ok h
        rcases Fragment.isBrace_cases hbrace with hkind | hkind
        · rw [ofFragmentsIn_opening hkind] at hinner
          obtain ⟨run', runs, hruns, rfl⟩ := ih.2 _ _ hinner
          rw [hruns, ofRuns_cons _ hskip, addBlock_run]
        · rw [ofFragmentsIn_closing hkind] at hinner
          cases hinner
    · rw [ofFragmentsIn_run_some hrun] at h
      rcases Fragment.isBrace_cases hbrace with hkind | hkind
      · rw [ofFragmentsIn_opening_some hkind] at h
        cases h
      · rw [ofFragmentsIn_closing_some hkind] at h
        obtain ⟨outer, houter, rfl⟩ := exists_of_map_eq_ok h
        exact ⟨run, _, rfl, by rw [ih.1 outer houter]⟩

/-- A query that can be resolved leaves the text of its runs without a skip. -/
theorem eq_ofRuns {fragments : List Fragment} (h : ofFragments fragments = .ok resolution) :
    resolution = ofRuns (fragments.splitOnP Fragment.isBrace) :=
  (eq_ofRuns_in fragments).1 resolution h

end Resolution

end SqlTemplate
