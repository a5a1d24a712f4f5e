import SqlTemplate.Proofs.Meaning
import SqlTemplate.Proofs.OneToken
import SqlTemplate.Proofs.Refusal

/-!
# Templates that start further on

Offsets are only carried along: what a build makes of a piece of a template does not depend on where
the piece starts. If it starts `m` code points further on, so does everything that has an offset,
and nothing else changes. `scanFrom_moved`, `result_fillTokens_moved` and `ofFragmentsIn_moved` say
so of the three stages.
-/

namespace SqlTemplate

variable {m : Nat}

/-! ## Moving what has an offset -/

/-- The error with its offset, if it has one in a template, moved by `m`. -/
def QueryError.moved (m : Nat) : QueryError → QueryError
  | invalidSpecifier specifier position =>
    invalidSpecifier specifier (position.map ((m : Int) + ·))
  | nestedBlock position => nestedBlock (m + position)
  | unbalancedBrace brace position => unbalancedBrace brace (m + position)
  | skipOutsideBlock position => skipOutsideBlock (m + position)
  | error => error

def Token.moved (m : Nat) : Token → Token
  | text content position => text content (m + position)
  | placeholder specifier position => placeholder specifier (m + position)
  | brace b position => brace b (m + position)

def Fragment.moved (m : Nat) (fragment : Fragment) : Fragment :=
  { fragment with position := m + fragment.position }

def OpenBlock.moved (m : Nat) (block : OpenBlock) : OpenBlock :=
  { block with position := m + block.position }

@[simp]
theorem QueryError.position?_moved (error : QueryError) :
    (error.moved m).position? = error.position?.map ((m : Int) + ·) := by
  cases error <;> rfl

/-- Text is added to the text before it wherever both stand. -/
theorem Token.consText_moved (c : Char) (n : Nat) (tokens : List Token) :
    consText c (m + n) (tokens.map (moved m)) = (consText c n tokens).map (moved m) := by
  match tokens with
  | [] | text .. :: _ | placeholder .. :: _ | brace .. :: _ => rfl

theorem Token.placeholderCount_moved (tokens : List Token) :
    placeholderCount (tokens.map (moved m)) = placeholderCount tokens := by
  rw [placeholderCount, List.countP_map, placeholderCount]
  congr 1
  funext token
  cases token <;> rfl

/-! ## The stages -/

/-- Scanning from further on gives the same tokens or the same error, moved. -/
theorem Token.scanFrom_moved (n : Nat) (s : Text) :
    scanFrom (m + n) s =
      ((scanFrom n s).map (List.map (moved m))).mapError (QueryError.moved m) := by
  -- the cases are those of one step of the scan; in each the offset is added to what the step
  -- starts with
  induction s using induction_on_scan generalizing n with
  | nil => rfl
  | text c rest hc ih =>
    rw [scanFrom_text hc.1 hc.2.1 hc.2.2, scanFrom_text hc.1 hc.2.1 hc.2.2, Nat.add_assoc, ih]
    cases scanFrom (n + 1) rest with
    | error error => rfl
    | ok tokens => exact congrArg Except.ok (consText_moved c n tokens)
  | brace b rest ih =>
    rw [scanFrom_brace, scanFrom_brace, Nat.add_assoc, ih]
    cases scanFrom (n + 1) rest <;> rfl
  | placeholder specifier rest halone ih =>
    rw [scanFrom_mark halone, scanFrom_mark halone, Nat.add_assoc, ih]
    cases scanFrom (n + (mark specifier).length) rest <;> rfl
  | invalid c rest hc =>
    rw [scanFrom_invalid hc, scanFrom_invalid hc]
    rfl

namespace Builder

variable (builder : Builder)

/-- A placeholder is filled with the same text wherever it stands. -/
theorem result_fillPlaceholder_moved (specifier : Option Specifier) (n : Nat)
    (argument : Argument) :
    (builder.fillPlaceholder specifier (m + n : Nat) argument).result =
      (builder.fillPlaceholder specifier n argument).result.map (Fragment.moved m) := by
  rw [fillPlaceholder, fillPlaceholder]
  split
  · rfl
  · rw [Traced.result_map, Traced.result_map]
    cases (builder.literal specifier argument).result <;> rfl

/-- A token becomes the same fragment wherever it stands, and no error of filling has an offset. -/
theorem result_fillToken_moved (argument? : Option Argument) (token : Token) :
    (builder.fillToken argument? (token.moved m)).result =
      (builder.fillToken argument? token).result.map (Fragment.moved m) := by
  match token, argument? with
  | .text .., _ | .brace .opening _, _ | .brace .closing _, _ | .placeholder .., none => rfl
  | .placeholder specifier position, some argument =>
    exact builder.result_fillPlaceholder_moved specifier position argument

theorem result_fillTokens_moved (tokens : List Token) (arguments : List Argument) :
    (builder.fillTokens (tokens.map (Token.moved m)) arguments).result =
      (builder.fillTokens tokens arguments).result.map (List.map (Fragment.moved m)) := by
  induction tokens generalizing arguments with
  | nil => rfl
  | cons token tokens ih =>
    have hcount : Token.placeholderCount [token.moved m] = Token.placeholderCount [token] :=
      Token.placeholderCount_moved [token]
    rw [List.map_cons, result_fillTokens_cons, result_fillTokens_cons, result_fillToken_moved,
      hcount, ih]
    cases (builder.fillToken arguments[0]? token).result with
    | error fault => rfl
    | ok fragment =>
      cases (builder.fillTokens tokens _).result <;> rfl

end Builder

namespace Resolution

/-- What one fragment does inside the block `open?`, if there is one: which block is open behind it,
and what it adds to the resolution of the rest. -/
def step (open? : Option OpenBlock) (fragment : Fragment) :
    Except QueryError (Option OpenBlock × (Resolution → Resolution)) :=
  match fragment.kind, open? with
  | .opening, none => .ok (some ⟨fragment.position, false, []⟩, id)
  | .opening, some _ => .error (.nestedBlock fragment.position)
  | .closing, none => .error (.unbalancedBrace ['}'] fragment.position)
  | .closing, some block => .ok (none, addBlock block)
  | .skip, none => .error (.skipOutsideBlock fragment.position)
  | .skip, some block => .ok (some { block with skipped := true }, id)
  | .text, _ | .literal, _ | .other _, _ =>
    .ok (open?.map (.addText fragment.text), addTextIn open? fragment.text)

/-- The resolution of blocks goes fragment by fragment. -/
theorem ofFragmentsIn_cons (open? : Option OpenBlock) (fragment : Fragment)
    (fragments : List Fragment) :
    ofFragmentsIn open? (fragment :: fragments) =
      step open? fragment >>= fun next => (ofFragmentsIn next.1 fragments).map next.2 := by
  obtain ⟨kind, text, position⟩ := fragment
  cases kind with
  | opening =>
    cases open? with
    | none => exact (congrFun Except.map_id _).symm
    | some block => rfl
  | closing => cases open? <;> rfl
  | skip =>
    cases open? with
    | none => rfl
    | some block => exact (congrFun Except.map_id _).symm
  | text | literal | other => exact ofFragmentsIn_text rfl

/-- One fragment does the same wherever it stands, and its error is moved with it. -/
theorem step_moved (open? : Option OpenBlock) (fragment : Fragment) :
    step (open?.map (OpenBlock.moved m)) (fragment.moved m) =
      ((step open? fragment).map fun next => (next.1.map (OpenBlock.moved m), next.2)).mapError
        (QueryError.moved m) := by
  obtain ⟨kind, text, position⟩ := fragment
  cases kind <;> cases open? <;> rfl

/-- Blocks are resolved the same wherever the fragments stand, and an error is moved with them. -/
theorem ofFragmentsIn_moved (open? : Option OpenBlock) (fragments : List Fragment) :
    ofFragmentsIn (open?.map (OpenBlock.moved m)) (fragments.map (Fragment.moved m)) =
      (ofFragmentsIn open? fragments).mapError (QueryError.moved m) := by
  -- the block that is open is moved along with the fragments, so it is generalised
  induction fragments generalizing open? with
  | nil => cases open? <;> rfl
  | cons fragment fragments ih =>
    rw [List.map_cons, ofFragmentsIn_cons, ofFragmentsIn_cons, step_moved]
    cases step open? fragment with
    | error error => rfl
    | ok next =>
      show (ofFragmentsIn (next.1.map (OpenBlock.moved m)) _).map next.2 =
        ((ofFragmentsIn next.1 fragments).map next.2).mapError _
      rw [ih]
      cases ofFragmentsIn next.1 fragments <;> rfl

end Resolution

end SqlTemplate
