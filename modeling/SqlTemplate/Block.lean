import SqlTemplate.Error
import SqlTemplate.Fragment

/-!
# Conditional blocks

A block is what stands between an opening brace and the next closing one. A block that holds a skip
is dropped with its braces, and any other loses its braces only. Blocks do not nest, and a skip is
only possible inside one. The first fragment that breaks these rules decides the error; a block that
is still open at the end is reported where it opened.
-/

namespace SqlTemplate

/-- A block that has not been closed yet. -/
structure OpenBlock where
  position : Int
  /-- Whether the block holds a skip. -/
  skipped : Bool
  /-- The text of the block so far. -/
  content : Text
  deriving DecidableEq, Repr

/-- What is left of a query after its blocks are resolved. -/
structure Resolution where
  sql : Text
  /-- The number of blocks that were dropped. -/
  dropped : Nat
  deriving DecidableEq, Repr

namespace Resolution

def addText (s : Text) (resolution : Resolution) : Resolution :=
  { resolution with sql := s ++ resolution.sql }

/-- Puts a closed block before what is left: its text, or one more dropped block. -/
def addBlock (block : OpenBlock) (resolution : Resolution) : Resolution :=
  if block.skipped then { resolution with dropped := resolution.dropped + 1 }
  else resolution.addText block.content

/-- Resolves the fragments that follow, inside the block `open?` if there is one. -/
def ofFragmentsIn (open? : Option OpenBlock) : List Fragment → Except QueryError Resolution
  | [] =>
    match open? with
    | none => .ok ⟨[], 0⟩
    | some block => .error (.unbalancedBrace ['{'] block.position)
  | fragment :: fragments =>
    match fragment.kind, open? with
    | .opening, none => ofFragmentsIn (some ⟨fragment.position, false, []⟩) fragments
    | .opening, some _ => .error (.nestedBlock fragment.position)
    | .closing, none => .error (.unbalancedBrace ['}'] fragment.position)
    | .closing, some block => addBlock block <$> ofFragmentsIn none fragments
    | .skip, none => .error (.skipOutsideBlock fragment.position)
    | .skip, some block => ofFragmentsIn (some { block with skipped := true }) fragments
    | _, none => addText fragment.text <$> ofFragmentsIn none fragments
    | _, some block =>
      ofFragmentsIn (some { block with content := block.content ++ fragment.text }) fragments

section Steps

variable {fragment : Fragment} {fragments : List Fragment} {block : OpenBlock}

theorem ofFragmentsIn_opening (h : fragment.kind = .opening) :
    ofFragmentsIn none (fragment :: fragments) =
      ofFragmentsIn (some ⟨fragment.position, false, []⟩) fragments := by
  cases fragment
  cases h
  rfl

/-- A block inside a block is an error, whatever stands in either. -/
theorem ofFragmentsIn_opening_some (h : fragment.kind = .opening) :
    ofFragmentsIn (some block) (fragment :: fragments) =
      .error (.nestedBlock fragment.position) := by
  cases fragment
  cases h
  rfl

/-- A closing brace needs a block. -/
theorem ofFragmentsIn_closing (h : fragment.kind = .closing) :
    ofFragmentsIn none (fragment :: fragments) =
      .error (.unbalancedBrace ['}'] fragment.position) := by
  cases fragment
  cases h
  rfl

/-- A block that is closed counts as it was filled, and the fragments behind it are resolved
outside. -/
theorem ofFragmentsIn_closing_some (h : fragment.kind = .closing) :
    ofFragmentsIn (some block) (fragment :: fragments) =
      (ofFragmentsIn none fragments).map (addBlock block) := by
  cases fragment
  cases h
  rfl

theorem ofFragmentsIn_skip (h : fragment.kind = .skip) :
    ofFragmentsIn none (fragment :: fragments) =
      .error (.skipOutsideBlock fragment.position) := by
  cases fragment
  cases h
  rfl

/-- A skip marks the block that it stands in. The block goes on to its end. -/
theorem ofFragmentsIn_skip_some (h : fragment.kind = .skip) :
    ofFragmentsIn (some block) (fragment :: fragments) =
      ofFragmentsIn (some { block with skipped := true }) fragments := by
  cases fragment
  cases h
  rfl

/-- Outside blocks every other fragment stays as it is. -/
theorem ofFragmentsIn_plain (h : fragment.kind.isPlain) :
    ofFragmentsIn none (fragment :: fragments) =
      (ofFragmentsIn none fragments).map (addText fragment.text) := by
  cases hkind : fragment.kind with
  | text | literal | other =>
    cases fragment
    cases hkind
    rfl
  | skip | opening | closing => simp [hkind, FragmentKind.isPlain] at h

theorem ofFragmentsIn_plain_some (h : fragment.kind.isPlain) :
    ofFragmentsIn (some block) (fragment :: fragments) =
      ofFragmentsIn (some { block with content := block.content ++ fragment.text }) fragments := by
  cases hkind : fragment.kind with
  | text | literal | other =>
    cases fragment
    cases hkind
    rfl
  | skip | opening | closing => simp [hkind, FragmentKind.isPlain] at h

end Steps

/-- Resolves the fragments of a query, from outside any block. -/
def ofFragments (fragments : List Fragment) : Except QueryError Resolution :=
  ofFragmentsIn none fragments

/-- Resolves a query given as text, once it is split into fragments. -/
def ofText (s : Text) : Except QueryError Resolution :=
  ofFragments (Fragment.ofText s)

end Resolution

end SqlTemplate
