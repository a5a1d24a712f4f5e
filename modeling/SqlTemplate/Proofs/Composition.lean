import SqlTemplate.Error.Report
import SqlTemplate.Proofs.Canonical
import SqlTemplate.Proofs.Moved
import SqlTemplate.Proofs.Outcome

/-!
# Templates one after another

A build of two templates, one written directly behind the other, is a build of each, as long as the
cut does not part a question mark from what it would take for its specifier. Every stage is followed
over the cut:

* `Token.scanFrom_append`: the tokens are those of both, where two texts at the cut become one.
* `Builder.result_fillTokens_append`: so are the fragments.
* `Resolution.ofFragmentsIn_append`: behind fragments that can be resolved the resolution is outside
  blocks, and what is left is added up.

`build_append` puts them together.
-/

namespace SqlTemplate

/-! ## Over the cut -/

/-- Puts a token in front of others. A text joins a text that it comes to stand in front of. -/
def Token.attach : Token → List Token → List Token
  | text content position, text content' _ :: tokens =>
    text (content ++ content') position :: tokens
  | token, tokens => token :: tokens

/-- Puts a fragment in front of others, as `Token.attach` does with tokens. -/
def Fragment.attach : Fragment → List Fragment → List Fragment
  | ⟨.text, text, position⟩, ⟨.text, text', _⟩ :: fragments =>
    ⟨.text, text ++ text', position⟩ :: fragments
  | fragment, fragments => fragment :: fragments

/-- A fragment that is no text is attached by standing in front. -/
theorem Fragment.attach_of_kind {fragment : Fragment} (h : fragment.kind ≠ .text)
    (fragments : List Fragment) : attach fragment fragments = fragment :: fragments := by
  rw [attach]
  rintro text position _ _ _ rfl
  exact absurd rfl h

theorem Fragment.attach_cons {next : Fragment} (h : next.kind ≠ .text) (fragment : Fragment)
    (fragments : List Fragment) :
    attach fragment (next :: fragments) = fragment :: next :: fragments := by
  rw [attach]
  rintro _ _ text position _ _ hnext
  obtain ⟨rfl, -⟩ := List.cons.inj hnext
  exact absurd rfl h

/-- Whether no question mark at the end of the first template takes anything from the second. -/
def Separate (s t : Text) : Prop :=
  ¬ (s.getLast? = some '?' ∧ ∃ c ∈ t.head?, c.isAlpha ∨ c = '#')

/-- A template is cut behind a token where it is cut behind its tail. -/
theorem Separate.tail {s t u : Text} (h : Separate (u ++ s) t) : Separate s t := by
  rintro ⟨hlast, hhead⟩
  exact h ⟨by rw [List.getLast?_append, hlast]; rfl, hhead⟩

namespace Token

variable {s t : Text} {n : Nat} {c : Char}

theorem consText_attach (c : Char) (n : Nat) (token : Token) (tokens : List Token) :
    consText c n (attach token tokens) = (consText c n [token]).foldr attach tokens := by
  match token, tokens with
  | text .., [] | text .., text .. :: _ | text .., placeholder .. :: _ | text .., brace .. :: _
  | placeholder .., _ | brace .., _ => rfl

/-- A code point in front of a template is one in front of its first part. -/
theorem consText_foldr_attach (c : Char) (n : Nat) (front tokens : List Token) :
    consText c n (front.foldr attach tokens) = (consText c n front).foldr attach tokens := by
  match front with
  | [] =>
    match tokens with
    | [] | text .. :: _ | placeholder .. :: _ | brace .. :: _ => rfl
  | token :: front =>
    show consText c n (attach token (front.foldr attach tokens)) = _
    rw [consText_attach]
    match token with
    | text .. | placeholder .. | brace .. => rfl

theorem placeholderCount_attach (token : Token) (tokens : List Token) :
    placeholderCount (attach token tokens) = placeholderCount (token :: tokens) := by
  match token, tokens with
  | text .., [] | text .., text .. :: _ | text .., placeholder .. :: _ | text .., brace .. :: _
  | placeholder .., _ | brace .., _ => rfl

/-- Two templates take as many arguments together as each of them takes. -/
theorem placeholderCount_foldr_attach (front tokens : List Token) :
    placeholderCount (front.foldr attach tokens) =
      placeholderCount front + placeholderCount tokens := by
  induction front with
  | nil => exact (Nat.zero_add _).symm
  | cons token front ih =>
    rw [List.foldr_cons, placeholderCount_attach, placeholderCount_cons, ih,
      placeholderCount_cons token front, Nat.add_assoc]

/-- A question mark at the cut takes as little as it did. -/
theorem StandsAlone.append {rest : Text} (h : StandsAlone rest) (hcut : Separate ('?' :: rest) t) :
    StandsAlone (rest ++ t) := by
  cases rest with
  | cons c rest => exact h
  | nil =>
    intro c hc
    rw [takesForSpecifier_eq_false_iff]
    exact fun htakes => hcut ⟨rfl, c, hc, htakes⟩

/-- A scan of two templates, one behind the other, is a scan of each. -/
theorem scanFrom_append {tokens : List Token} (hscan : scanFrom n s = .ok tokens)
    (hcut : Separate s t) :
    scanFrom n (s ++ t) = (scanFrom (n + s.length) t).map (tokens.foldr attach) := by
  induction s using induction_on_scan generalizing n tokens with
  | nil =>
    cases hscan
    exact (congrFun Except.map_id _).symm
  | text c rest hc ih =>
    rw [scanFrom_text hc.1 hc.2.1 hc.2.2] at hscan
    obtain ⟨front, hrest, rfl⟩ := exists_of_map_eq_ok hscan
    rw [List.cons_append, scanFrom_text hc.1 hc.2.1 hc.2.2, ih hrest (hcut.tail (u := [c])),
      List.length_cons, Nat.add_right_comm, ← Nat.add_assoc]
    -- `front` may be empty: the code point then joins the text that the second template starts with
    cases scanFrom (n + rest.length + 1) t with
    | error error => rfl
    | ok tokens => exact congrArg Except.ok (consText_foldr_attach c n front tokens)
  | brace b rest ih =>
    rw [scanFrom_brace] at hscan
    obtain ⟨front, hrest, rfl⟩ := exists_of_map_eq_ok hscan
    rw [List.cons_append, scanFrom_brace, ih hrest (hcut.tail (u := [b.char])), List.length_cons,
      Nat.add_right_comm, ← Nat.add_assoc]
    cases scanFrom (n + rest.length + 1) t <;> rfl
  | placeholder specifier rest halone ih =>
    rw [scanFrom_mark halone] at hscan
    obtain ⟨front, hrest, rfl⟩ := exists_of_map_eq_ok hscan
    -- only here the cut matters: a question mark at the end of the first template is left alone
    have halone' : specifier = none → StandsAlone (rest ++ t) := by
      rintro rfl
      exact (halone rfl).append hcut
    rw [List.append_assoc, scanFrom_mark halone', ih hrest hcut.tail, List.length_append,
      Nat.add_assoc]
    cases scanFrom (n + ((mark specifier).length + rest.length)) t <;> rfl
  | invalid c rest hc =>
    rw [scanFrom_invalid hc] at hscan
    cases hscan

end Token

/-! ## Filling in -/

namespace Builder

variable {builder : Builder}

/-- What an argument becomes is no text, even where it is written as one. -/
theorem kind_of_fillPlaceholder {specifier : Option Specifier} {position : Int}
    {argument : Argument} {fragment : Fragment}
    (h : (builder.fillPlaceholder specifier position argument).result = .ok fragment) :
    fragment.kind ≠ .text := by
  rw [fillPlaceholder] at h
  split at h
  · cases h
    show FragmentKind.skip ≠ .text
    decide
  · obtain ⟨literal, -, rfl⟩ := exists_of_map_eq_ok h
    show FragmentKind.literal ≠ .text
    decide

/-- A text that comes to stand in front of tokens comes to stand in front of their fragments. -/
theorem result_fillTokens_attach (content : Text) (position : Nat) (tokens : List Token)
    (arguments : List Argument) :
    (builder.fillTokens (Token.attach (.text content position) tokens) arguments).result =
      (builder.fillTokens tokens arguments).result.map
        (Fragment.attach ⟨.text, content, position⟩) := by
  -- text joins only text in front of it, and no other token becomes text
  match tokens, arguments with
  | [], _ | .placeholder .. :: _, [] => rfl
  | .text content' position' :: tokens, arguments =>
    rw [Token.attach, result_fillTokens_text, result_fillTokens_text]
    cases (builder.fillTokens tokens arguments).result <;> rfl
  | .brace .opening _ :: tokens, arguments =>
    show (builder.fillTokens (.text content position :: _) _).result = _
    rw [result_fillTokens_text, result_fillTokens_opening]
    cases (builder.fillTokens tokens arguments).result <;> rfl
  | .brace .closing _ :: tokens, arguments =>
    show (builder.fillTokens (.text content position :: _) _).result = _
    rw [result_fillTokens_text, result_fillTokens_closing]
    cases (builder.fillTokens tokens arguments).result <;> rfl
  | .placeholder specifier position' :: tokens, argument :: arguments =>
    show (builder.fillTokens (.text content position :: _) _).result = _
    rw [result_fillTokens_text, result_fillTokens_placeholder]
    cases hfragment : (builder.fillPlaceholder specifier position' argument).result with
    | error fault => rfl
    | ok fragment =>
      cases (builder.fillTokens tokens arguments).result with
      | error fault => rfl
      | ok fragments =>
        exact congrArg Except.ok (Fragment.attach_cons (kind_of_fillPlaceholder hfragment) ..).symm

/-- Filling in tokens over a cut fills in the first ones with their arguments, and then the others
with what is left. -/
theorem result_fillTokens_append {front tokens : List Token} {as bs : List Argument}
    (hcount : Token.placeholderCount front = as.length) :
    (builder.fillTokens (front.foldr Token.attach tokens) (as ++ bs)).result =
      (builder.fillTokens front as).result >>= fun fragments =>
        (builder.fillTokens tokens bs).result.map (fragments.foldr Fragment.attach) := by
  induction front generalizing as with
  | nil =>
    obtain rfl : as = [] := List.length_eq_zero_iff.mp hcount.symm
    exact (congrFun Except.map_id _).symm
  | cons token front ih =>
    rw [List.foldr_cons]
    cases token with
    | text content position =>
      rw [result_fillTokens_attach, ih hcount, result_fillTokens_text]
      cases (builder.fillTokens front as).result with
      | error fault => rfl
      | ok fragments => cases (builder.fillTokens tokens bs).result <;> rfl
    | brace b position =>
      cases b with
      | opening =>
        show (builder.fillTokens (.brace .opening position :: _) _).result = _
        rw [result_fillTokens_opening, ih hcount, result_fillTokens_opening]
        cases (builder.fillTokens front as).result with
        | error fault => rfl
        | ok fragments => cases (builder.fillTokens tokens bs).result <;> rfl
      | closing =>
        show (builder.fillTokens (.brace .closing position :: _) _).result = _
        rw [result_fillTokens_closing, ih hcount, result_fillTokens_closing]
        cases (builder.fillTokens front as).result with
        | error fault => rfl
        | ok fragments => cases (builder.fillTokens tokens bs).result <;> rfl
    | placeholder specifier position =>
      rw [Token.placeholderCount_placeholder] at hcount
      cases as with
      | nil => cases hcount
      | cons argument as =>
        show (builder.fillTokens (.placeholder specifier position :: _)
          (argument :: (as ++ bs))).result = _
        rw [result_fillTokens_placeholder, result_fillTokens_placeholder,
          ih (Nat.succ.inj hcount)]
        cases hfragment : (builder.fillPlaceholder specifier position argument).result with
        | error fault => rfl
        | ok fragment =>
          cases (builder.fillTokens front as).result with
          | error fault => rfl
          | ok fragments =>
            -- a literal is no text, so no text behind it joins it
            have hattach : ∀ rest, Fragment.attach fragment rest = fragment :: rest :=
              Fragment.attach_of_kind (kind_of_fillPlaceholder hfragment)
            cases (builder.fillTokens tokens bs).result with
            | error fault => rfl
            | ok rest => exact congrArg Except.ok (hattach _).symm

end Builder

/-! ## Resolving blocks -/

namespace Resolution

/-- What is left of two queries, one behind the other. -/
def append (first second : Resolution) : Resolution where
  sql := first.sql ++ second.sql
  dropped := first.dropped + second.dropped

theorem addText_append (text : Text) (first second : Resolution) :
    addText text (first.append second) = (addText text first).append second := by
  simp [addText, append]

theorem addBlock_append (block : OpenBlock) (first second : Resolution) :
    addBlock block (first.append second) = (addBlock block first).append second := by
  rw [addBlock, addBlock]
  split
  · simp [append, Nat.add_right_comm]
  · exact addText_append ..

/-- What a fragment adds it adds to what is left of the fragments behind it. -/
theorem step_append {open? : Option OpenBlock} {fragment : Fragment}
    {next : Option OpenBlock × (Resolution → Resolution)}
    (h : step open? fragment = .ok next) (first second : Resolution) :
    next.2 (first.append second) = (next.2 first).append second := by
  obtain ⟨kind, text, position⟩ := fragment
  cases kind with
  | opening => cases open? <;> cases h; rfl
  | closing => cases open? <;> cases h; exact addBlock_append ..
  | skip => cases open? <;> cases h; rfl
  | text | literal | other =>
    cases h
    -- an open block would have failed at the end of the front
    cases open? with
    | none => exact addText_append ..
    | some block => rfl

/-- Behind fragments that can be resolved no block is open. -/
theorem ofFragmentsIn_append {front : List Fragment} {open? : Option OpenBlock}
    {resolution : Resolution} (h : ofFragmentsIn open? front = .ok resolution)
    (fragments : List Fragment) :
    ofFragmentsIn open? (front ++ fragments) =
      (ofFragmentsIn none fragments).map resolution.append := by
  induction front generalizing open? resolution with
  | nil =>
    cases open? with
    | some block => cases h
    | none =>
      cases h
      rw [List.nil_append]
      cases ofFragmentsIn none fragments with
      | error error => rfl
      | ok rest => simp [Except.map, append]
  | cons fragment front ih =>
    rw [ofFragmentsIn_cons] at h
    obtain ⟨next, hstep, h⟩ := exists_of_bind_eq_ok h
    obtain ⟨inner, hinner, rfl⟩ := exists_of_map_eq_ok h
    rw [List.cons_append, ofFragmentsIn_cons, hstep]
    show (ofFragmentsIn next.1 (front ++ fragments)).map next.2 = _
    rw [ih hinner]
    cases ofFragmentsIn none fragments with
    | error error => rfl
    | ok rest => exact congrArg Except.ok (step_append hstep inner rest)

/-- Text that is cut in two is resolved as in one. -/
theorem ofFragmentsIn_attach (open? : Option OpenBlock) (fragment : Fragment)
    (fragments : List Fragment) :
    ofFragmentsIn open? (Fragment.attach fragment fragments) =
      ofFragmentsIn open? (fragment :: fragments) := by
  unfold Fragment.attach
  split
  · rename_i text position text' position' fragments
    rw [ofFragmentsIn_text rfl, ofFragmentsIn_text rfl, ofFragmentsIn_text rfl]
    dsimp only
    cases open? with
    | none =>
      dsimp only [Option.map_none]
      cases ofFragmentsIn none fragments with
      | error error => rfl
      | ok rest => simp [Except.map, addTextIn, addText]
    | some block =>
      have hcontent : block.addText (text ++ text') = (block.addText text).addText text' := by
        simp [OpenBlock.addText]
      dsimp only [Option.map_some]
      rw [hcontent]
      cases ofFragmentsIn (some ((block.addText text).addText text')) fragments <;> rfl
  · rfl

/-- Text that is attached is resolved like text that stands alone. -/
theorem ofFragmentsIn_foldr_attach (open? : Option OpenBlock) (front fragments : List Fragment) :
    ofFragmentsIn open? (front.foldr Fragment.attach fragments) =
      ofFragmentsIn open? (front ++ fragments) := by
  induction front generalizing open? with
  | nil => rfl
  | cons fragment front ih =>
    rw [List.foldr_cons, ofFragmentsIn_attach, List.cons_append, ofFragmentsIn_cons,
      ofFragmentsIn_cons]
    simp only [ih]

end Resolution

/-! ## Builds -/

@[simp]
theorem QueryError.className_moved (m : Nat) (error : QueryError) :
    (error.moved m).className = error.className := by
  cases error <;> rfl

namespace Builder

variable {builder : Builder} {t₁ t₂ : Text} {as bs : List Argument}

/-- A count that passes also passes if there are more placeholders, each with its argument. -/
theorem checkCount_add {expected supplied : Nat}
    (h : builder.checkCount expected supplied = .ok ()) (n : Nat) :
    builder.checkCount (n + expected) (n + supplied) = .ok () := by
  simpa [checkCount] using h

section Cut

variable {tokens rest : List Token} {fragments : List Fragment} {resolution : Resolution}

/-- Where two templates are cut, they are scanned one after the other, and the second from further
on. -/
theorem scan_append (hscan : Token.scan t₁ = .ok tokens) (hcut : Separate t₁ t₂) :
    Token.scan (t₁ ++ t₂) =
      ((Token.scan t₂).map fun rest =>
        tokens.foldr Token.attach (rest.map (Token.moved t₁.length))).mapError
          (QueryError.moved t₁.length) := by
  rw [Token.scan, Token.scanFrom_append hscan hcut, Nat.zero_add]
  show (Token.scanFrom (t₁.length + 0) t₂).map _ = _
  rw [Token.scanFrom_moved, Token.scan]
  cases Token.scanFrom 0 t₂ <;> rfl

/-- The first template takes its arguments, and the second takes those behind them. -/
theorem fill_append (hcount : Token.placeholderCount tokens = as.length)
    (hfill : (builder.fillTokens tokens as).result = .ok fragments) (m : Nat) :
    (builder.fillTokens (tokens.foldr Token.attach (rest.map (Token.moved m))) (as ++ bs)).result =
      (builder.fillTokens rest bs).result.map fun others =>
        fragments.foldr Fragment.attach (others.map (Fragment.moved m)) := by
  rw [result_fillTokens_append hcount, hfill, result_fillTokens_moved]
  cases (builder.fillTokens rest bs).result <;> rfl

/-- If the first template leaves no block open, the second is resolved as if it stood alone. -/
theorem resolve_append (hresolve : Resolution.ofFragments fragments = .ok resolution) (m : Nat)
    (others : List Fragment) :
    Resolution.ofFragments (fragments.foldr Fragment.attach (others.map (Fragment.moved m))) =
      ((Resolution.ofFragments others).map resolution.append).mapError (QueryError.moved m) := by
  rw [Resolution.ofFragments, Resolution.ofFragmentsIn_foldr_attach,
    Resolution.ofFragmentsIn_append hresolve]
  show (Resolution.ofFragmentsIn ((none : Option OpenBlock).map (OpenBlock.moved m)) _).map _ = _
  rw [Resolution.ofFragmentsIn_moved, Resolution.ofFragments]
  cases Resolution.ofFragmentsIn none others <;> rfl

/-- If both templates can be filled in, so can both together. -/
theorem Filled.append {others : List Fragment} (h : builder.Filled t₁ as tokens fragments)
    (hcount : Token.placeholderCount tokens = as.length) (h' : builder.Filled t₂ bs rest others)
    (hcut : Separate t₁ t₂) :
    builder.Filled (t₁ ++ t₂) (as ++ bs)
      (tokens.foldr Token.attach (rest.map (Token.moved t₁.length)))
      (fragments.foldr Fragment.attach (others.map (Fragment.moved t₁.length))) where
  scan := by
    rw [scan_append h.scan hcut, h'.scan]
    rfl
  count := by
    rw [Token.placeholderCount_foldr_attach, Token.placeholderCount_moved, hcount,
      List.length_append]
    exact checkCount_add h'.count as.length
  fill := by
    rw [fill_append hcount h.fill, h'.fill]
    rfl

end Cut

end Builder

/-- **Two templates, one behind the other.** The first one is built by itself, and has exactly one
argument for each placeholder. It does not end in a question mark that would take the start of the
second template for its specifier. Then a build of both gives the SQL of both, if the second one can
be built as well. If that one has an error with an offset, which is a question mark with a letter
that is no specifier or a fault of its blocks, then both have the same error, further on by the
length of the first template. Such an error is none that the escaping routine has raised, and the
library's own routines raise none (`TextEscaper.neverRaises_ofTarget`). -/
theorem build_append (builder : Builder) (t₁ t₂ : Text) (first second whole : Argument)
    (as bs : List Argument) (hfirst : first.elements = .ok as) (hsecond : second.elements = .ok bs)
    (hwhole : whole.elements = .ok (as ++ bs)) (hcut : Separate t₁ t₂)
    (hcount : (Token.scan t₁).map Token.placeholderCount = .ok as.length) (sql₁ : Text)
    (hbuild : (builder.build t₁ first).result = .ok sql₁) :
    (∀ sql₂, (builder.build t₂ second).result = .ok sql₂ →
      (builder.build (t₁ ++ t₂) whole).result = .ok (sql₁ ++ sql₂)) ∧
    ∀ error position, (builder.build t₂ second).result = .error (.query error) →
      error.position? = some position →
      builder.escaper.text.NeverRaises error →
        (builder.build (t₁ ++ t₂) whole).result = .error (.query (error.moved t₁.length)) ∧
          (error.moved t₁.length).className = error.className ∧
          (error.moved t₁.length).position? = some (t₁.length + position) := by
  obtain ⟨tokens, fragments, resolution, hfilled, hresolve, rfl⟩ :=
    Builder.filled_of_build hfirst hbuild
  rw [hfilled.scan] at hcount
  have hcount : Token.placeholderCount tokens = as.length := Except.ok.inj hcount
  -- an error with an offset is one of the scan or of the blocks, because no argument is refused
  -- with one
  refine ⟨fun sql₂ h => ?_, fun error position h hposition hroutine => ⟨?_, ?_, ?_⟩⟩
  · obtain ⟨rest, others, left, hfilled', hresolve', rfl⟩ := Builder.filled_of_build hsecond h
    show (builder.build (t₁ ++ t₂) whole).result = .ok (resolution.append left).sql
    refine (Builder.Outcome.sql (hfilled.append hcount hfilled' hcut) ?_).result_eq hwhole
    rw [Builder.resolve_append hresolve, hresolve']
    rfl
  · rcases Builder.scan_or_filled_of_build hsecond h hposition hroutine with hscan' |
      ⟨rest, others, hfilled', hresolve'⟩
    · refine (Builder.Outcome.scan ?_).result_eq hwhole
      rw [Builder.scan_append hfilled.scan hcut, hscan']
      rfl
    · refine (Builder.Outcome.blocks (hfilled.append hcount hfilled' hcut) ?_).result_eq hwhole
      rw [Builder.resolve_append hresolve, hresolve']
      rfl
  · exact error.className_moved _
  · rw [QueryError.position?_moved, hposition]
    rfl

/-- Behind a template with a dropped block one that can be built, and one with a brace too many. -/
theorem build_append_of_blocks :
    let builder : Builder := ⟨.ofDialect .mysql none, {}⟩
    let t : Text := "\x7b?d\x7d?".toList
    let as : List Argument := [.skip, .ofText ['x']]
    let bs : List Argument := [.ofText ['n']]
    (builder.build (t ++ " ?#".toList) (.ofList (as ++ bs))).result = .ok "'x' `n`".toList ∧
      (builder.build (t ++ "?\x7d".toList) (.ofList (as ++ bs))).result =
        .error (.query (.unbalancedBrace ['\x7d'] 6)) := by
  intro builder t as bs
  have hseparate : ∀ u : Text, Separate t (' ' :: u) ∧ Separate t ('?' :: u) := by
    refine fun u => ⟨?_, ?_⟩ <;> · rintro ⟨-, c, ⟨⟩, hc⟩; exact absurd hc (by decide)
  have hname := build_append builder t " ?#".toList (.ofList as) (.ofList bs) (.ofList (as ++ bs))
    as bs rfl rfl rfl (hseparate _).1 rfl "'x'".toList rfl
  have hbrace := build_append builder t "?\x7d".toList (.ofList as) (.ofList bs)
    (.ofList (as ++ bs)) as bs rfl rfl rfl (hseparate _).2 rfl "'x'".toList rfl
  have hroutine := TextEscaper.neverRaises_ofTarget (.unbalancedBrace ['\x7d'] 1) Dialect.mysql.name
  exact ⟨hname.1 _ rfl, (hbrace.2 _ 1 rfl rfl hroutine).1⟩

end SqlTemplate
