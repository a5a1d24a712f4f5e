import SqlTemplate.Builder
import SqlTemplate.Proofs.Run

/-!
# What a template means

A template is read as a list of segments: plain text, placeholders, and blocks of these. Each
placeholder stands with the argument that it is given, so the template and the argument list are two
ways to write the segments down. A build gives back what the segments mean (`build_segments`): text
as it stands, each placeholder as its literal, each block without its braces or not at all.

The proof follows one stretch of the template through all stages. `Resolves` says what the scanner,
the filling of placeholders and the resolution of blocks make of the rest of a template, and there
is one lemma for each thing that can come first in it.
-/

namespace SqlTemplate

/-! ## Segments -/

/-- Text of a template, or a placeholder with the argument that it is given. -/
inductive Piece
  | text (content : Text)
  | slot (specifier : Option Specifier) (argument : Argument)

/-- A piece outside of blocks, or a block. -/
inductive Segment
  | piece (piece : Piece)
  | block (pieces : List Piece)

namespace Piece

def lexeme : Piece → Text
  | text content => content
  | slot specifier _ => '?' :: (specifier.map Specifier.char).toList

def arguments : Piece → List Argument
  | text _ => []
  | slot _ argument => [argument]

/-- Whether the piece is a placeholder that is given the request to skip. -/
def isSkip : Piece → Bool
  | text _ => false
  | slot _ argument => argument.isSkip

/-- What the piece means: text itself, and a placeholder its literal. What cannot be written means
nothing here; `Builder.Accepts` leaves it out. -/
def sql (builder : Builder) : Piece → Text
  | text content => content
  | slot specifier argument => (builder.literal specifier argument).result.toOption.getD []

/-- Whether the piece is told from `rest`, which follows it in the template. Text has no characters
that mean something else, and a placeholder without a specifier is not followed by one. -/
def Fits (rest : Text) : Piece → Prop
  | text content => ∀ c ∈ content, c ≠ '?' ∧ c ≠ '{' ∧ c ≠ '}'
  | slot none _ => ∀ c ∈ rest.head?, Token.takesForSpecifier c = false
  | slot (some _) _ => True

/-- That text has no characters that mean something else is found out by going over it. -/
theorem plain_of_all {content : Text}
    (h : (content.all fun c => c != '?' && (c != '{' && c != '}')) = true) :
    ∀ c ∈ content, c ≠ '?' ∧ c ≠ '{' ∧ c ≠ '}' := by
  simpa using h

/-- Whether the argument of the piece, unless it is the request to skip, can be written. -/
def IsWritable (builder : Builder) : Piece → Prop
  | text _ => True
  | slot specifier argument =>
    argument.isSkip = false → ∃ literal, (builder.literal specifier argument).result = .ok literal

/-- Whether each of the pieces is told from what follows it, up to `rest`. -/
def AllFit (rest : Text) : List Piece → Prop
  | [] => True
  | piece :: pieces => piece.Fits (pieces.flatMap lexeme ++ rest) ∧ AllFit rest pieces

end Piece

namespace Segment

def lexeme : Segment → Text
  | piece p => p.lexeme
  | block pieces => '{' :: (pieces.flatMap Piece.lexeme ++ ['}'])

def arguments : Segment → List Argument
  | piece p => p.arguments
  | block pieces => pieces.flatMap Piece.arguments

/-- Whether the segment is left out: a block is if one of its pieces is a skip. -/
def isDropped : Segment → Bool
  | piece _ => false
  | block pieces => pieces.any Piece.isSkip

/-- What the segment adds to a query if it is not left out. -/
def sql (builder : Builder) : Segment → Text
  | piece p => p.sql builder
  | block pieces => pieces.flatMap (Piece.sql builder)

def pieces : Segment → List Piece
  | piece p => [p]
  | block pieces => pieces

/-- Whether each of the segments is told from what follows it. -/
def AllFit : List Segment → Prop
  | [] => True
  | piece p :: segments => p.Fits (segments.flatMap lexeme) ∧ AllFit segments
  | block pieces :: segments =>
    Piece.AllFit ('}' :: segments.flatMap lexeme) pieces ∧ AllFit segments

end Segment

/-- The segments are those of a template, and their arguments can be written: each is told from what
follows it, there is no skip outside a block, and all other arguments have literals. -/
structure Builder.Accepts (builder : Builder) (segments : List Segment) : Prop where
  allFit : Segment.AllFit segments
  skip_inside : ∀ p, Segment.piece p ∈ segments → p.isSkip = false
  writable : ∀ segment ∈ segments, ∀ p ∈ segment.pieces, p.IsWritable builder

/-- What the segments mean: what each that is not dropped adds to the query, in order, and how many
are dropped. -/
def Resolution.ofSegments (builder : Builder) (segments : List Segment) : Resolution where
  sql := (segments.filter (!·.isDropped)).flatMap (Segment.sql builder)
  dropped := segments.countP Segment.isDropped

/-! ## Text outside blocks and inside -/

namespace OpenBlock

def addText (content : Text) (block : OpenBlock) : OpenBlock :=
  { block with content := block.content ++ content }

theorem addText_nil (block : OpenBlock) : block.addText [] = block := by
  rw [addText, List.append_nil]

/-- Text may be added to a block code point by code point. -/
theorem map_addText_cons (c : Char) (content : Text) (open? : Option OpenBlock) :
    open?.map (addText (c :: content)) = (open?.map (addText [c])).map (addText content) := by
  cases open? with
  | none => rfl
  | some block => simp [addText]

end OpenBlock

namespace Resolution

/-- What text adds to the resolution of what follows it. Inside a block it adds nothing, for the
block has it already. -/
def addTextIn (open? : Option OpenBlock) (content : Text) (resolution : Resolution) : Resolution :=
  match open? with
  | none => resolution.addText content
  | some _ => resolution

theorem addTextIn_cons (open? : Option OpenBlock) (c : Char) (content : Text)
    (resolution : Resolution) : addTextIn open? (c :: content) resolution =
      addTextIn open? [c] (addTextIn (open?.map (.addText [c])) content resolution) := by
  cases open? <;> rfl

/-- Plain fragments inside a block and outside, in one equation. -/
theorem ofFragmentsIn_text {fragment : Fragment} {fragments : List Fragment}
    {open? : Option OpenBlock} (h : fragment.kind.isPlain) :
    ofFragmentsIn open? (fragment :: fragments) =
      (ofFragmentsIn (open?.map (.addText fragment.text)) fragments).map
        (addTextIn open? fragment.text) := by
  cases open? with
  | none => exact ofFragmentsIn_plain h
  | some block =>
    rw [ofFragmentsIn_plain_some h]
    exact (congrFun Except.map_id _).symm

end Resolution

/-! ## One thing at a time -/

namespace Builder

/-- The rest `s` of a template, which starts at the offset `n`, is brought to `resolution` by all
stages together: inside the block `open?` if there is one, and with exactly `arguments`. -/
def Resolves (builder : Builder) (n : Nat) (open? : Option OpenBlock) (s : Text)
    (arguments : List Argument) (resolution : Resolution) : Prop :=
  ∃ tokens fragments, Token.scanFrom n s = .ok tokens ∧
    Token.placeholderCount tokens = arguments.length ∧
    (builder.fillTokens tokens arguments).result = .ok fragments ∧
    Resolution.ofFragmentsIn open? fragments = .ok resolution

variable {builder : Builder} {n : Nat} {s : Text} {arguments : List Argument}
  {resolution : Resolution} {block : OpenBlock}

/-- A code point of text in front of tokens is one in front of their fragments. -/
theorem fillTokens_consText {tokens : List Token} {fragments : List Fragment} (c : Char) (n : Nat)
    (h : (builder.fillTokens tokens arguments).result = .ok fragments) :
    ∃ fragments', (builder.fillTokens (Token.consText c n tokens) arguments).result =
        .ok fragments' ∧
      ∀ open? : Option OpenBlock, Resolution.ofFragmentsIn open? fragments' =
        (Resolution.ofFragmentsIn (open?.map (.addText [c])) fragments).map
          (.addTextIn open? [c]) := by
  unfold Token.consText
  split
  · -- the code point joins the text that stands in front already
    rename_i content position tokens
    rw [result_fillTokens_text] at h ⊢
    cases hrest : (builder.fillTokens tokens arguments).result with
    | error fault => rw [hrest] at h; cases h
    | ok rest =>
      rw [hrest] at h
      cases h
      refine ⟨_, rfl, fun open? => ?_⟩
      rw [Resolution.ofFragmentsIn_text rfl, Resolution.ofFragmentsIn_text rfl]
      show (Resolution.ofFragmentsIn (open?.map (.addText (c :: content))) rest).map
        (Resolution.addTextIn open? (c :: content)) = _
      rw [OpenBlock.map_addText_cons]
      cases Resolution.ofFragmentsIn ((open?.map (.addText [c])).map (.addText content)) rest with
      | error cause => rfl
      | ok resolution => exact congrArg Except.ok (Resolution.addTextIn_cons open? c content _)
  · rw [result_fillTokens_text, h]
    exact ⟨_, rfl, fun _ => Resolution.ofFragmentsIn_text rfl⟩

namespace Resolves

theorem nil : builder.Resolves n none [] [] ⟨[], 0⟩ :=
  ⟨[], [], rfl, rfl, rfl, rfl⟩

theorem char {c : Char} {open? : Option OpenBlock} (hc : c ≠ '?' ∧ c ≠ '{' ∧ c ≠ '}')
    (h : builder.Resolves (n + 1) (open?.map (.addText [c])) s arguments resolution) :
    builder.Resolves n open? (c :: s) arguments (resolution.addTextIn open? [c]) := by
  obtain ⟨tokens, fragments, hscan, hcount, hfill, hresolve⟩ := h
  obtain ⟨fragments', hfill', hresolve'⟩ := fillTokens_consText c n hfill
  refine ⟨_, fragments', ?_, ?_, hfill', ?_⟩
  · rw [Token.scanFrom_text hc.1 hc.2.1 hc.2.2, hscan]
    rfl
  · rw [Token.placeholderCount, Token.countP_isPlaceholder_consText]
    exact hcount
  · rw [hresolve', hresolve]
    rfl

/-- A brace that opens a block in front. The block starts out empty. -/
theorem opening (h : builder.Resolves (n + 1) (some ⟨n, false, []⟩) s arguments resolution) :
    builder.Resolves n none ('{' :: s) arguments resolution := by
  obtain ⟨tokens, fragments, hscan, hcount, hfill, hresolve⟩ := h
  refine ⟨.brace .opening n :: tokens, .opening n :: fragments, ?_, hcount, ?_, ?_⟩
  · rw [Token.scanFrom_opening, hscan]
    rfl
  · rw [result_fillTokens_opening, hfill]
    rfl
  · rw [Resolution.ofFragmentsIn_opening rfl]
    exact hresolve

/-- A brace that closes the block in front. All that is in the block is added at once. -/
theorem closing (h : builder.Resolves (n + 1) none s arguments resolution) :
    builder.Resolves n (some block) ('}' :: s) arguments (resolution.addBlock block) := by
  obtain ⟨tokens, fragments, hscan, hcount, hfill, hresolve⟩ := h
  refine ⟨.brace .closing n :: tokens, .closing n :: fragments, ?_, hcount, ?_, ?_⟩
  · rw [Token.scanFrom_closing, hscan]
    rfl
  · rw [result_fillTokens_closing, hfill]
    rfl
  · rw [Resolution.ofFragmentsIn_closing_some rfl, hresolve]
    rfl

/-- A placeholder in front, where `f` is what its fragment does to the resolution of the rest. -/
theorem slot {specifier : Option Specifier} {argument : Argument} {fragment : Fragment}
    {open? next? : Option OpenBlock} {f : Resolution → Resolution}
    (hfits : (Piece.slot specifier argument).Fits s)
    (hfill : (builder.fillPlaceholder specifier n argument).result = .ok fragment)
    (hstep : ∀ fragments, Resolution.ofFragmentsIn open? (fragment :: fragments) =
      (Resolution.ofFragmentsIn next? fragments).map f)
    (h : builder.Resolves (n + (Piece.slot specifier argument).lexeme.length) next? s arguments
      resolution) :
    builder.Resolves n open? ((Piece.slot specifier argument).lexeme ++ s) (argument :: arguments)
      (f resolution) := by
  obtain ⟨tokens, fragments, hscan, hcount, hrest, hresolve⟩ := h
  refine ⟨.placeholder specifier n :: tokens, fragment :: fragments, ?_, ?_, ?_, ?_⟩
  · cases specifier with
    | none =>
      -- what follows is no specifier, so the question mark stands alone
      show Token.scanFrom n ('?' :: s) = _
      rw [Token.scanFrom_bare hfits]
      exact congrArg (Except.map _) hscan
    | some specifier =>
      show Token.scanFrom n ('?' :: specifier.char :: s) = _
      rw [Token.scanFrom_specifier]
      exact congrArg (Except.map _) hscan
  · rw [Token.placeholderCount_placeholder, hcount, List.length_cons]
  · rw [result_fillTokens_placeholder, hfill, hrest]
    rfl
  · rw [hstep, hresolve]
    rfl

theorem text {content : Text} {open? : Option OpenBlock}
    (hcontent : ∀ c ∈ content, c ≠ '?' ∧ c ≠ '{' ∧ c ≠ '}')
    (h : builder.Resolves (n + content.length) (open?.map (.addText content)) s arguments
      resolution) :
    builder.Resolves n open? (content ++ s) arguments (resolution.addTextIn open? content) := by
  induction content generalizing n open? with
  | nil =>
    cases open? with
    | none => exact h
    | some block =>
      rw [Option.map_some, OpenBlock.addText_nil] at h
      exact h
  | cons c content ih =>
    rw [List.forall_mem_cons] at hcontent
    -- the rest of the text starts one further on, where a block has the first code point
    rw [List.length_cons, Nat.add_comm _ 1, ← Nat.add_assoc, OpenBlock.map_addText_cons] at h
    rw [Resolution.addTextIn_cons]
    exact char hcontent.1 (ih hcontent.2 h)

end Resolves

/-! ## Pieces and segments -/

/-- A placeholder that is not skipped becomes a fragment with its literal. -/
theorem result_fillPlaceholder {specifier : Option Specifier} {argument : Argument}
    (hwritable : (Piece.slot specifier argument).IsWritable builder)
    (hskip : argument.isSkip = false) (n : Nat) :
    (builder.fillPlaceholder specifier n argument).result =
      .ok ⟨.literal, (Piece.slot specifier argument).sql builder, n⟩ := by
  obtain ⟨literal, hliteral⟩ := hwritable hskip
  rw [Piece.sql, hliteral, fillPlaceholder, hskip]
  show (builder.literal specifier argument).result.map _ = _
  rw [hliteral]
  rfl

theorem result_fillPlaceholder_skip {specifier : Option Specifier} {argument : Argument}
    (hskip : argument.isSkip = true) (n : Nat) :
    (builder.fillPlaceholder specifier n argument).result = .ok (.skip n) := by
  rw [fillPlaceholder, hskip]
  rfl

def put (builder : Builder) (block : OpenBlock) (piece : Piece) : OpenBlock :=
  if piece.isSkip then { block with skipped := true }
  else { block with content := block.content ++ piece.sql builder }

/-- Pieces are put into blocks as fragments are, so what is known of one holds of the other. -/
theorem putsInto_put (builder : Builder) :
    OpenBlock.PutsInto builder.put Piece.isSkip (Piece.sql builder) :=
  fun _ _ => rfl

theorem Resolves.piece {p : Piece} (hfits : p.Fits s) (hwritable : p.IsWritable builder)
    (hskip : p.isSkip = false)
    (h : builder.Resolves (n + p.lexeme.length) none s arguments resolution) :
    builder.Resolves n none (p.lexeme ++ s) (p.arguments ++ arguments)
      (resolution.addText (p.sql builder)) := by
  cases p with
  | text content => exact h.text hfits
  | slot specifier argument =>
    exact h.slot hfits (result_fillPlaceholder hwritable hskip n) fun _ =>
      Resolution.ofFragmentsIn_plain rfl

theorem Resolves.piece_inside {p : Piece} (hfits : p.Fits s) (hwritable : p.IsWritable builder)
    (h : builder.Resolves (n + p.lexeme.length) (some (builder.put block p)) s arguments
      resolution) :
    builder.Resolves n (some block) (p.lexeme ++ s) (p.arguments ++ arguments) resolution := by
  cases p with
  | text content =>
    have hput : builder.Resolves (n + content.length) ((some block).map (.addText content)) s
        arguments resolution := h
    exact hput.text hfits
  | slot specifier argument =>
    rw [put] at h
    -- a skip marks the block, and anything else is added to it
    cases hskip : argument.isSkip with
    | true =>
      -- the argument is used up, and the content of the block stays as it is
      rw [show (Piece.slot specifier argument).isSkip = true from hskip] at h
      refine h.slot hfits (result_fillPlaceholder_skip hskip n) (f := id) fun fragments => ?_
      rw [Resolution.ofFragmentsIn_skip_some rfl, Except.map_id]
      rfl
    | false =>
      rw [show (Piece.slot specifier argument).isSkip = false from hskip] at h
      refine h.slot hfits (result_fillPlaceholder hwritable hskip n) (f := id) fun fragments => ?_
      rw [Resolution.ofFragmentsIn_plain_some rfl, Except.map_id]
      rfl

theorem Resolves.pieces_inside {pieces : List Piece} (hfit : Piece.AllFit s pieces)
    (hwritable : ∀ p ∈ pieces, p.IsWritable builder)
    (h : builder.Resolves (n + (pieces.flatMap Piece.lexeme).length)
      (some (pieces.foldl builder.put block)) s arguments resolution) :
    builder.Resolves n (some block) (pieces.flatMap Piece.lexeme ++ s)
      (pieces.flatMap Piece.arguments ++ arguments) resolution := by
  induction pieces generalizing n block with
  | nil => exact h
  | cons p pieces ih =>
    rw [List.forall_mem_cons] at hwritable
    rw [List.flatMap_cons, List.length_append, ← Nat.add_assoc, List.foldl_cons] at h
    rw [List.flatMap_cons, List.flatMap_cons, List.append_assoc, List.append_assoc]
    exact piece_inside hfit.1 hwritable.1 (ih hfit.2 hwritable.2 h)

theorem Resolves.whole_block {pieces : List Piece} (hfit : Piece.AllFit ('}' :: s) pieces)
    (hwritable : ∀ p ∈ pieces, p.IsWritable builder)
    (h : builder.Resolves (n + (Segment.block pieces).lexeme.length) none s arguments
      resolution) :
    builder.Resolves n none ((Segment.block pieces).lexeme ++ s)
      (pieces.flatMap Piece.arguments ++ arguments)
      (resolution.addBlock (pieces.foldl builder.put ⟨n, false, []⟩)) := by
  have hlength : n + (Segment.block pieces).lexeme.length =
      n + 1 + (pieces.flatMap Piece.lexeme).length + 1 := by
    simp only [Segment.lexeme, List.length_cons, List.length_append, List.length_nil]
    omega
  have htext : (Segment.block pieces).lexeme ++ s =
      '{' :: (pieces.flatMap Piece.lexeme ++ '}' :: s) := by
    simp [Segment.lexeme]
  rw [hlength] at h
  rw [htext]
  exact (pieces_inside hfit hwritable h.closing).opening

/-- What is accepted of segments is accepted of those behind the first. -/
theorem Accepts.tail {segment : Segment} {segments : List Segment}
    (h : builder.Accepts (segment :: segments)) : builder.Accepts segments where
  allFit := by
    cases segment with
    | piece p => exact h.allFit.2
    | block pieces => exact h.allFit.2
  skip_inside p hp := h.skip_inside p (List.mem_cons_of_mem _ hp)
  writable other hother := h.writable other (List.mem_cons_of_mem _ hother)

/-- What segments mean is what all stages together make of them. -/
theorem resolves_segments {segments : List Segment} (h : builder.Accepts segments) (n : Nat) :
    builder.Resolves n none (segments.flatMap Segment.lexeme) (segments.flatMap Segment.arguments)
      (.ofSegments builder segments) := by
  induction segments generalizing n with
  | nil => exact .nil
  | cons segment segments ih =>
    have hwritable : ∀ p ∈ segment.pieces, p.IsWritable builder :=
      h.writable segment List.mem_cons_self
    rw [List.flatMap_cons, List.flatMap_cons]
    cases segment with
    | piece p =>
      have hmeaning : Resolution.ofSegments builder (.piece p :: segments) =
          (Resolution.ofSegments builder segments).addText (p.sql builder) := rfl
      rw [hmeaning]
      exact .piece h.allFit.1 (hwritable p List.mem_cons_self)
        (h.skip_inside p List.mem_cons_self) (ih h.tail _)
    | block pieces =>
      -- the block is added as it stands once all its pieces have been put into it
      have hmeaning : Resolution.ofSegments builder (.block pieces :: segments) =
          (Resolution.ofSegments builder segments).addBlock
            (pieces.foldl builder.put ⟨n, false, []⟩) := by
        rw [builder.putsInto_put.addBlock_foldl]
        cases hskip : pieces.any Piece.isSkip with
        | true =>
          simp [Resolution.ofSegments, Segment.isDropped, hskip]
        | false =>
          simp [Resolution.ofSegments, Segment.isDropped, Segment.sql, Resolution.addText, hskip]
      rw [hmeaning]
      exact .whole_block h.allFit.1 hwritable (ih h.tail _)

end Builder

/-! ## Builds -/

section Builds

variable {builder : Builder} {segments : List Segment} {template : Text} {arguments : Argument}

/-- As many arguments as placeholders pass, whatever the options. -/
theorem checkCount_self (builder : Builder) (n : Nat) : builder.checkCount n n = .ok () := by
  simp [Builder.checkCount]

/-- The substitution succeeds, and its fragments are resolved to what the segments mean. -/
theorem result_substitute_segments (h : builder.Accepts segments)
    (htemplate : template = segments.flatMap Segment.lexeme)
    (harguments : arguments.elements = .ok (segments.flatMap Segment.arguments)) :
    ∃ query, (builder.substitute template arguments).result = .ok query ∧
      Resolution.ofFragments query.fragments = .ok (.ofSegments builder segments) := by
  obtain ⟨tokens, fragments, hscan, hcount, hfill, hresolve⟩ := builder.resolves_segments h 0
  refine ⟨⟨fragments, Token.placeholderCount tokens⟩, ?_, hresolve⟩
  rw [Builder.result_substitute, Token.scan, htemplate, hscan, harguments]
  show ((builder.checkCount _ _).mapError Fault.query >>= fun _ => _) = _
  -- the count passes whatever the options say of arguments left over
  rw [hcount, checkCount_self]
  show ((builder.fillTokens tokens _).result >>= fun _ => _) = _
  rw [hfill]
  rfl

theorem result_build_segments (h : builder.Accepts segments)
    (htemplate : template = segments.flatMap Segment.lexeme)
    (harguments : arguments.elements = .ok (segments.flatMap Segment.arguments)) :
    (builder.build template arguments).result =
      .ok (Resolution.ofSegments builder segments).sql := by
  obtain ⟨query, hquery, hresolve⟩ := result_substitute_segments h htemplate harguments
  rw [Builder.result_build, Builder.result_run, hquery]
  show (((Resolution.ofFragments query.fragments).mapError Fault.query).map _).map _ = _
  rw [hresolve]
  rfl

/-- **A build gives back what its segments mean.** The SQL has the text of the template as it stands
and the literal of each argument, in order, and of each block the content or nothing; the blocks
that hold a skip are counted as dropped. Literals are never looked into, whatever they hold. What is
kept depends on the segments that are kept only: arguments inside blocks that are dropped make no
difference. -/
theorem build_segments (h : builder.Accepts segments)
    (htemplate : template = segments.flatMap Segment.lexeme)
    (harguments : arguments.elements = .ok (segments.flatMap Segment.arguments)) :
    (∃ query, (builder.substitute template arguments).result = .ok query ∧
      Resolution.ofFragments query.fragments = .ok
        ⟨(segments.filter (!·.isDropped)).flatMap (Segment.sql builder),
          segments.countP Segment.isDropped⟩) ∧
    (builder.build template arguments).result =
      .ok ((segments.filter (!·.isDropped)).flatMap (Segment.sql builder)) ∧
    ∀ (others : List Segment) (template' : Text) (arguments' : Argument),
      builder.Accepts others → template' = others.flatMap Segment.lexeme →
      arguments'.elements = .ok (others.flatMap Segment.arguments) →
      others.filter (!·.isDropped) = segments.filter (!·.isDropped) →
      (builder.build template' arguments').result = (builder.build template arguments).result := by
  have hbuild : (builder.build template arguments).result =
      .ok (Resolution.ofSegments builder segments).sql :=
    result_build_segments h htemplate harguments
  refine ⟨result_substitute_segments h htemplate harguments, hbuild, ?_⟩
  intro others template' arguments' hothers htemplate' harguments' hkept
  rw [hbuild, result_build_segments hothers htemplate' harguments', Resolution.ofSegments, hkept]
  rfl

/-- A literal that looks like a skipped block, a block that is kept and one that is dropped. -/
theorem build_segments_of_braces :
    let builder : Builder := ⟨.ofDialect .mysql none, {}⟩
    let segments : List Segment := [
      .piece (.text "a = ".toList), .piece (.slot none (.ofText "\x7b?__SKIP__\x7d".toList)),
      .block [.text " AND b = ".toList, .slot none .null],
      .block [.text " AND ".toList, .slot (some .identifier) (.ofText "c".toList),
        .text " = ".toList, .slot none .skip]]
    let template : Text := "a = ?\x7b AND b = ?\x7d\x7b AND ?# = ?\x7d".toList
    let arguments : Argument :=
      .ofList [.ofText "\x7b?__SKIP__\x7d".toList, .null, .ofText "c".toList, .skip]
    builder.Accepts segments ∧ template = segments.flatMap Segment.lexeme ∧
      arguments.elements = .ok (segments.flatMap Segment.arguments) ∧
      (builder.build template arguments).result =
        .ok "a = '\x7b?__SKIP__\x7d' AND b = NULL".toList := by
  intro builder segments template arguments
  have haccepts : builder.Accepts segments := {
    allFit := by
      have hslot (c : Char) (s : Text) (h : Token.takesForSpecifier c = false) :
          ∀ d ∈ (c :: s).head?, Token.takesForSpecifier d = false := by
        rintro d ⟨⟩
        exact h
      exact ⟨Piece.plain_of_all (by decide), hslot '\x7b' _ rfl,
        ⟨Piece.plain_of_all (by decide), hslot '\x7d' _ rfl, trivial⟩,
        ⟨Piece.plain_of_all (by decide), trivial, Piece.plain_of_all (by decide),
          hslot '\x7d' _ rfl, trivial⟩, trivial⟩
    skip_inside := by
      intro p hp
      simp only [segments, List.mem_cons, Segment.piece.injEq, reduceCtorEq, List.not_mem_nil,
        or_false] at hp
      rcases hp with rfl | rfl <;> rfl
    writable := by
      simp only [segments, List.forall_mem_cons, List.not_mem_nil, false_imp_iff,
        implies_true, and_true, true_and, Segment.pieces, Piece.IsWritable]
      exact ⟨fun _ => ⟨_, rfl⟩, fun _ => ⟨_, rfl⟩, fun _ => ⟨_, rfl⟩, nofun⟩ }
  exact ⟨haccepts, rfl, rfl, (build_segments haccepts rfl rfl).2.1⟩

end Builds

end SqlTemplate
