import SqlTemplate.Builder
import SqlTemplate.Proofs.Number.Printed
import SqlTemplate.Proofs.Outline
import SqlTemplate.Proofs.SameOutcome
import SqlTemplate.Proofs.Skeleton

/-!
# Arguments cannot change the structure of a query

Two builds of one template, with arguments of one shape, fail for one cause or give queries of one
quote skeleton (`build_skeleton_eq`). Whatever texts the arguments hold, they stay in the regions
that the shape puts there, and every region is closed.

The proof compares each run with the run on outlines, stage by stage:

* what is rendered from a value is alike to what is rendered from its outline, because text stays
  inside its quotes and everything else is written the same (`render_outline`);
* so are the literals of placeholders, the fragments that the tokens become, and what is left of
  them after blocks are resolved.
-/

namespace SqlTemplate

/-! ## Literals without quotes -/

theorem ofChar?_eq_none_of_isDigit {c : Char} (h : c.isDigit) : Quote.ofChar? c = none := by
  unfold Quote.ofChar?
  split <;> first | rfl | simp at h

/-- A numeral holds no quote: it is made of digits, signs, a point and an `e`. -/
theorem Spelling.WellFormed.unquoted {n : Spelling} (h : n.WellFormed) :
    ∀ c ∈ n.text, Quote.ofChar? c = none := by
  have hdigits : ∀ {s : Text}, IsDigits s → ∀ c ∈ s, Quote.ofChar? c = none :=
    fun hs c hc => ofChar?_eq_none_of_isDigit (hs.2 c hc)
  intro c hc
  simp only [text, fractionText, powerText.eq_def, List.mem_append] at hc
  -- the four parts of the numeral
  rcases hc with ((hsign | hwhole) | hfraction) | hpower
  · split at hsign <;> simp_all [Quote.ofChar?]
  · exact hdigits h.whole c hwhole
  · split at hfraction
    · cases hfraction
    · rename_i hne
      rcases List.mem_cons.mp hfraction with rfl | hfraction
      · rfl
      · exact hdigits (h.fraction.resolve_left hne) c hfraction
  · split at hpower
    · cases hpower
    · rename_i negative digits heq
      rcases List.mem_cons.mp hpower with rfl | hpower
      · rfl
      · rcases List.mem_cons.mp hpower with rfl | hpower
        · cases negative <;> rfl
        · exact hdigits (h.power _ heq) c hpower

theorem unquoted_intLiteral {n : Int} {s : Text} (h : (Escaper.intLiteral n).result = .ok s) :
    ∀ c ∈ s, Quote.ofChar? c = none := by
  unfold Escaper.intLiteral at h
  split at h
  · cases h
    rw [← Spelling.text_ofInt]
    exact (Spelling.wellFormed_ofInt n).unquoted
  · cases h

theorem unquoted_floatLiteral {x : Binary64} {s : Text}
    (h : (Escaper.floatLiteral x).result = .ok s) : ∀ c ∈ s, Quote.ofChar? c = none := by
  unfold Escaper.floatLiteral at h
  split at h
  · rename_i hfinite
    cases h
    cases x with
    | finite negative significand exponent canonical =>
      obtain ⟨n, hn, -, htext, -⟩ := Binary64.exists_spelling negative canonical
      rw [← htext]
      exact hn.unquoted
    | infinite _ => cases hfinite
    | nan => cases hfinite
  · cases h

variable {escaper : Escaper} {idiom : Idiom}

theorem Escaper.Speaks.unquoted_boolLiteral (h : escaper.Speaks idiom) (b : Bool) :
    ∀ c ∈ escaper.dialect.boolLiteral b, Quote.ofChar? c = none := by
  rw [h.boolLiteral]
  cases b <;> split <;> exact Quote.unquoted_of_all (by decide)

/-- One result that holds no quote is alike to itself, and so is one failure. -/
theorem SameOutcome.of_unquoted {backslash : Bool} {x : Except Fault Text}
    (h : ∀ s, x = .ok s → ∀ c ∈ s, Quote.ofChar? c = none) :
    SameOutcome (Alike backslash) x x := by
  cases x with
  | ok s => exact .ok (.of_unquoted (h s rfl))
  | error fault => exact .error fault

/-! ## Rendering -/

/-- Two quoted names are alike, whatever the names hold: in the quotes of an identifier the names
stay inside. -/
theorem Escaper.Speaks.alike_identifier (h : escaper.Speaks idiom) (name name' : Text) :
    Alike idiom.backslash (escaper.dialect.quoteIdentifier name)
      (escaper.dialect.quoteIdentifier name') := by
  -- a name is never escaped by backslashes, and that is safe only while its quotes are not those of
  -- text
  have hsingle : (idiom.backslash && idiom.identifierQuote = .single) = false := by
    simp [h.identifierQuote_ne]
  rw [h.quoteIdentifier, h.quoteIdentifier]
  exact (StaysInside.double hsingle).alike (StaysInside.double hsingle)

mutual

/-- A value is rendered alike to its outline. -/
theorem render_outline (h : escaper.Speaks idiom) : ∀ value : SqlValue,
    SameOutcome (Alike idiom.backslash) (escaper.render value).result
      (escaper.render value.outline).result
  | .null => .ok (.of_unquoted (Quote.unquoted_of_all (by decide)))
  | .bool value => .ok (.of_unquoted (h.unquoted_boolLiteral value))
  | .int _ => .of_unquoted fun _ hs => unquoted_intLiteral hs
  | .float _ => .of_unquoted fun _ hs => unquoted_floatLiteral hs
  | .text s => by
    rw [SqlValue.outline, Escaper.render, Escaper.render, h.result_textLiteral,
      h.result_textLiteral]
    exact .ok ((StaysInside.escaped idiom s).alike (StaysInside.escaped idiom []))
  | .list items => by
    rw [SqlValue.outline, Escaper.result_render_list, Escaper.result_render_list]
    exact (renderItems_outline h items).map fun _ _ => Alike.commaSeparated
  | .mapping entries => by
    rw [SqlValue.outline, Escaper.result_render_mapping, Escaper.result_render_mapping]
    exact (renderEntries_outline h entries).map fun _ _ => Alike.commaSeparated

theorem renderItems_outline (h : escaper.Speaks idiom) : ∀ items : List SqlValue,
    SameOutcome (List.Forall₂ (Alike idiom.backslash)) (escaper.renderItems items).result
      (escaper.renderItems (SqlValue.outlineItems items)).result
  | [] => .ok .nil
  | item :: items => by
    rw [SqlValue.outlineItems, Escaper.result_renderItems_cons, Escaper.result_renderItems_cons]
    refine (render_outline h item).bind fun written written' hwritten => ?_
    exact (renderItems_outline h items).map fun _ _ hparts => .cons hwritten hparts

/-- The entries of a mapping are written alike to their outlines. Keys may differ too, since they
are quoted as names. -/
theorem renderEntries_outline (h : escaper.Speaks idiom) : ∀ entries : List (Text × SqlValue),
    SameOutcome (List.Forall₂ (Alike idiom.backslash)) (escaper.renderEntries entries).result
      (escaper.renderEntries (SqlValue.outlineEntries entries)).result
  | [] => .ok .nil
  | (key, item) :: entries => by
    rw [SqlValue.outlineEntries, Escaper.result_renderEntries_cons,
      Escaper.result_renderEntries_cons]
    refine (render_outline h item).bind fun written written' hwritten => ?_
    have hequals : Alike idiom.backslash [' ', '=', ' '] [' ', '=', ' '] :=
      .of_unquoted (Quote.unquoted_of_all (by decide))
    have hentry := ((h.alike_identifier key []).append hequals).append hwritten
    exact (renderEntries_outline h entries).map fun _ _ hparts => .cons hentry hparts

end

mutual

/-- Names are written alike to their nesting. What is no name fails, and for the kind that both
arguments have. -/
theorem identifier_nesting (h : escaper.Speaks idiom) : ∀ argument : Argument,
    SameOutcome (Alike idiom.backslash) (escaper.identifier argument)
      (escaper.identifier argument.nesting)
  | .text _ name => .ok (h.alike_identifier name [])
  | .sequence _ items => by
    rw [Argument.nesting, Argument.ofList, Escaper.identifier, Escaper.identifier]
    exact (identifiers_nestings h items).map fun _ _ => Alike.commaSeparated
  | .mapping .. | .classified _ | .null | .skip | .bool _ | .int .. | .float .. | .decimal _
  | .fraction _ | .complex .. | .bytes .. | .other .. => .error _

/-- The names of a sequence are written alike to their nestings, one by one. -/
theorem identifiers_nestings (h : escaper.Speaks idiom) : ∀ items : List Argument,
    SameOutcome (List.Forall₂ (Alike idiom.backslash)) (escaper.identifiers items)
      (escaper.identifiers (Argument.nestings items))
  | [] => .ok .nil
  | item :: items => by
    rw [Argument.nestings, Escaper.identifiers, Escaper.identifiers]
    refine (identifier_nesting h item).bind fun written written' hwritten => ?_
    exact (identifiers_nestings h items).map fun _ _ hparts => .cons hwritten hparts

end

/-! ## Placeholders -/

/-- The literal of an argument is alike to that of its outline: both are classified to values with
one outline, or refused for one cause. -/
theorem escapeValue_outline (h : escaper.Speaks idiom) (argument : Argument) :
    SameOutcome (Alike idiom.backslash) (escaper.escapeValue argument).result
      (escaper.escapeValue argument.outline).result := by
  rw [Escaper.result_escapeValue, Escaper.result_escapeValue, Argument.classify_outline]
  cases argument.classify with
  | error cause => exact .error _
  | ok value => exact render_outline h value

/-- The same for an argument that has to be a list or a mapping. One that is neither is refused for
its kind, which the outline keeps. -/
theorem escapeArray_outline (h : escaper.Speaks idiom) (argument : Argument) :
    SameOutcome (Alike idiom.backslash) (escaper.escapeArray argument).result
      (escaper.escapeArray argument.outline).result := by
  simp only [Escaper.escapeArray, Traced.result_bind, Traced.result_ofQuery,
    Argument.classify_outline, Argument.kind_outline]
  cases argument.classify with
  | error cause => exact .error _
  | ok value =>
    cases value with
    | list items => exact render_outline h (.list items)
    | mapping entries => exact render_outline h (.mapping entries)
    | _ => exact .error _

/-- A number is its own outline, so its literal is alike to itself. -/
theorem escapeValue_number (h : escaper.Speaks idiom) {argument : Argument}
    (hnumber : argument.outline = argument) : SameOutcome (Alike idiom.backslash)
      (escaper.escapeValue argument).result (escaper.escapeValue argument).result := by
  simpa only [hnumber] using escapeValue_outline h argument

variable {builder : Builder}

/-- Arguments that look alike to a specifier are written alike by it, or refused for one cause. -/
theorem literal_lookAlike (h : builder.escaper.Speaks idiom) {specifier : Option Specifier}
    {a b : Argument} (hab : LookAlike specifier a b) :
    SameOutcome (Alike idiom.backslash) (builder.literal specifier a).result
      (builder.literal specifier b).result := by
  have hthird : ∀ s t u : Text, Alike idiom.backslash s u → Alike idiom.backslash t u →
      Alike idiom.backslash s t := fun _ _ _ => Alike.trans_symm
  match specifier, hab with
  | none, hab =>
    -- each run is compared with the run on the outline that both arguments have
    have hb := escapeValue_outline h b
    rw [← hab] at hb
    exact (escapeValue_outline h a).trans_symm hb hthird
  -- the two coercions see the number itself, so here the arguments are equal
  | some .integer, hab =>
    obtain rfl := hab
    simp only [Builder.literal, Traced.result_bind]
    exact .bind_same _ fun n => escapeValue_number h rfl
  | some .float, hab =>
    obtain rfl := hab
    simp only [Builder.literal, Traced.result_bind]
    exact .bind_same _ fun x => escapeValue_number h rfl
  -- names and arrays are first checked for emptiness, which both arguments share
  | some .identifier, hab =>
    have hempty : a.isEmptyCollection = b.isEmptyCollection := by
      simpa using congrArg Argument.isEmptyCollection hab
    have hb := identifier_nesting h b
    rw [← hab] at hb
    simp only [Builder.literal, Builder.checkNotEmpty, Traced.result_bind, hempty]
    refine .bind_same _ fun _ => ?_
    exact ((identifier_nesting h a).trans_symm hb hthird).mapError _
  | some .array, hab =>
    have hempty : a.isEmptyCollection = b.isEmptyCollection := by
      simpa using congrArg Argument.isEmptyCollection hab
    have hb := escapeArray_outline h b
    rw [← hab] at hb
    simp only [Builder.literal, Builder.checkNotEmpty, Traced.result_bind, hempty]
    exact .bind_same _ fun _ => (escapeArray_outline h a).trans_symm hb hthird

/-- Fragments of one kind and position, with texts that are alike. -/
structure FragmentAlike (backslash : Bool) (f g : Fragment) : Prop where
  kind : f.kind = g.kind
  position : f.position = g.position
  text : Alike backslash f.text g.text

theorem FragmentAlike.of_unquoted {backslash : Bool} {f : Fragment}
    (h : ∀ c ∈ f.text, Quote.ofChar? c = none) : FragmentAlike backslash f f :=
  ⟨rfl, rfl, .of_unquoted h⟩

/-- A placeholder becomes alike fragments for arguments that look alike. A skip looks like nothing
but a skip. -/
theorem fillPlaceholder_lookAlike (h : builder.escaper.Speaks idiom)
    {specifier : Option Specifier} {a b : Argument} (hab : LookAlike specifier a b)
    (position : Int) :
    SameOutcome (FragmentAlike idiom.backslash)
      (builder.fillPlaceholder specifier position a).result
      (builder.fillPlaceholder specifier position b).result := by
  unfold Builder.fillPlaceholder
  rw [hab.isSkip_eq]
  split
  · have hmarker : ∀ c ∈ skipMarker, Quote.ofChar? c = none :=
      Quote.unquoted_of_all (by decide)
    exact .ok (.of_unquoted hmarker)
  · exact (literal_lookAlike h hab).map fun _ _ htext => ⟨rfl, rfl, htext⟩

/-- No text token of the list holds a quote. -/
def Token.Unquoted (tokens : List Token) : Prop :=
  ∀ content position, Token.text content position ∈ tokens →
    ∀ c ∈ content, Quote.ofChar? c = none

theorem Token.Unquoted.tail {token : Token} {tokens : List Token}
    (h : Token.Unquoted (token :: tokens)) : Token.Unquoted tokens :=
  fun content position hmem => h content position (List.mem_cons_of_mem _ hmem)

/-- The tokens of a template become alike fragments for arguments of one shape. By recursion over
the tokens, where a placeholder takes one slot of the shape away. -/
theorem fillTokens_sameShape (h : builder.escaper.Speaks idiom) :
    ∀ (tokens : List Token) (as bs : List Argument), Token.Unquoted tokens →
      SameShape tokens as bs →
      SameOutcome (List.Forall₂ (FragmentAlike idiom.backslash))
        (builder.fillTokens tokens as).result (builder.fillTokens tokens bs).result
  | [], _, _, _, _ => .ok .nil
  | .text content position :: tokens, as, bs, hquotes, hshape => by
    have hhead : ∀ c ∈ content, Quote.ofChar? c = none :=
      hquotes content position List.mem_cons_self
    exact (fillTokens_sameShape h tokens as bs hquotes.tail hshape).map fun _ _ hrest =>
      .cons (.of_unquoted hhead) hrest
  | .brace .opening position :: tokens, as, bs, hquotes, hshape => by
    have hbrace : ∀ c ∈ ['{'], Quote.ofChar? c = none := Quote.unquoted_of_all (by decide)
    exact (fillTokens_sameShape h tokens as bs hquotes.tail hshape).map fun _ _ hrest =>
      .cons (.of_unquoted hbrace) hrest
  | .brace .closing position :: tokens, as, bs, hquotes, hshape => by
    have hbrace : ∀ c ∈ ['}'], Quote.ofChar? c = none := Quote.unquoted_of_all (by decide)
    exact (fillTokens_sameShape h tokens as bs hquotes.tail hshape).map fun _ _ hrest =>
      .cons (.of_unquoted hbrace) hrest
  | .placeholder specifier position :: tokens, [], [], _, _ => .error _
  | .placeholder specifier position :: tokens, a :: as, b :: bs, hquotes, hshape => by
    obtain ⟨hlength, halike⟩ := hshape
    -- the first slot is this placeholder's, and the others are those of the tokens behind it
    have hslots : ∀ slot ∈ (specifier, a, b) :: (Token.specifiers tokens).zip (as.zip bs),
        LookAlike slot.1 slot.2.1 slot.2.2 := halike
    have hshape' : SameShape tokens as bs :=
      ⟨by simpa using hlength, fun slot hslot => hslots slot (List.mem_cons_of_mem _ hslot)⟩
    have hab : LookAlike specifier a b := hslots _ List.mem_cons_self
    rw [Builder.result_fillTokens_placeholder, Builder.result_fillTokens_placeholder]
    refine (fillPlaceholder_lookAlike h hab position).bind fun _ _ hfragment => ?_
    exact (fillTokens_sameShape h tokens as bs hquotes.tail hshape').map fun _ _ hrest =>
      .cons hfragment hrest
  | .placeholder .. :: _, [], _ :: _, _, hshape => nomatch hshape.1
  | .placeholder .. :: _, _ :: _, [], _, hshape => nomatch hshape.1

/-! ## Blocks -/

/-- What is left of two queries: alike texts, and the same number of dropped blocks. -/
structure ResolutionAlike (backslash : Bool) (r r' : Resolution) : Prop where
  sql : Alike backslash r.sql r'.sql
  dropped : r.dropped = r'.dropped

/-- Blocks opened at one place, with or without a skip, whose texts so far are alike. -/
structure OpenBlockAlike (backslash : Bool) (block block' : OpenBlock) : Prop where
  position : block.position = block'.position
  skipped : block.skipped = block'.skipped
  content : Alike backslash block.content block'.content

/-- Two blocks that are closed are both kept or both dropped, and what is left stays alike. -/
theorem OpenBlockAlike.addBlock {backslash : Bool} {block block' : OpenBlock} {r r' : Resolution}
    (h : OpenBlockAlike backslash block block') (hr : ResolutionAlike backslash r r') :
    ResolutionAlike backslash (r.addBlock block) (r'.addBlock block') := by
  unfold Resolution.addBlock
  rw [h.skipped]
  split
  · exact ⟨hr.sql, congrArg (· + 1) hr.dropped⟩
  · exact ⟨h.content.append hr.sql, hr.dropped⟩

/-- Fragments that are alike one by one are resolved alike, inside blocks that are alike. -/
theorem ofFragmentsIn_alike {backslash : Bool} {fs gs : List Fragment}
    (h : List.Forall₂ (FragmentAlike backslash) fs gs) :
    ∀ {open? open?' : Option OpenBlock}, Option.Rel (OpenBlockAlike backslash) open? open?' →
      SameOutcome (ResolutionAlike backslash) (Resolution.ofFragmentsIn open? fs)
        (Resolution.ofFragmentsIn open?' gs) := by
  induction h with
  | nil =>
    intro open? open?' hopen
    cases hopen with
    | none => exact .ok ⟨.nil, rfl⟩
    | some hblock =>
      rw [Resolution.ofFragmentsIn, Resolution.ofFragmentsIn]
      -- a block that stays open is reported where it was opened, in both at one place
      simp only [hblock.position]
      exact .error _
  | @cons f g fs gs hfg _ ih =>
    intro open? open?' hopen
    obtain ⟨hkind, hposition, htext⟩ := hfg
    have hplain : f.kind.isPlain → g.kind.isPlain := by rw [hkind]; exact id
    cases hopen with
    | none =>
      have hrest := ih (.none : Option.Rel (OpenBlockAlike backslash) none none)
      cases hf : f.kind with
      | opening =>
        rw [Resolution.ofFragmentsIn_opening hf, Resolution.ofFragmentsIn_opening (hkind ▸ hf)]
        exact ih (.some ⟨hposition, rfl, .nil⟩)
      | closing =>
        rw [Resolution.ofFragmentsIn_closing hf, Resolution.ofFragmentsIn_closing (hkind ▸ hf),
          hposition]
        exact .error _
      | skip =>
        rw [Resolution.ofFragmentsIn_skip hf, Resolution.ofFragmentsIn_skip (hkind ▸ hf), hposition]
        exact .error _
      | text | literal | other =>
        have hf' : f.kind.isPlain := by rw [hf]; rfl
        rw [Resolution.ofFragmentsIn_plain hf', Resolution.ofFragmentsIn_plain (hplain hf')]
        exact hrest.map fun r r' hr => ⟨htext.append hr.sql, hr.dropped⟩
    | @some block block' hblock =>
      cases hf : f.kind with
      | opening =>
        rw [Resolution.ofFragmentsIn_opening_some hf,
          Resolution.ofFragmentsIn_opening_some (hkind ▸ hf), hposition]
        exact .error _
      | closing =>
        rw [Resolution.ofFragmentsIn_closing_some hf,
          Resolution.ofFragmentsIn_closing_some (hkind ▸ hf)]
        have hrest := ih (.none : Option.Rel (OpenBlockAlike backslash) none none)
        exact hrest.map fun r r' hr => hblock.addBlock hr
      | skip =>
        rw [Resolution.ofFragmentsIn_skip_some hf, Resolution.ofFragmentsIn_skip_some (hkind ▸ hf)]
        exact ih (.some ⟨hblock.position, rfl, hblock.content⟩)
      | text | literal | other =>
        have hf' : f.kind.isPlain := by rw [hf]; rfl
        rw [Resolution.ofFragmentsIn_plain_some hf',
          Resolution.ofFragmentsIn_plain_some (hplain hf')]
        exact ih (.some ⟨hblock.position, hblock.skipped, hblock.content.append htext⟩)

/-! ## Builds -/

section Builds

variable {template : Text} {kind kind' : String} {as bs : List Argument}

/-- Two substitutions of one template with arguments of one shape give alike fragments, or fail for
one cause. -/
theorem substitute_sameShape (h : builder.escaper.Speaks idiom)
    (hquotes : ∀ tokens, Token.scan template = .ok tokens → Token.Unquoted tokens)
    (hshape : ∀ tokens, Token.scan template = .ok tokens → SameShape tokens as bs) :
    SameOutcome
      (fun query query' => List.Forall₂ (FragmentAlike idiom.backslash) query.fragments
        query'.fragments)
      (builder.substitute template (.sequence kind as)).result
      (builder.substitute template (.sequence kind' bs)).result := by
  rw [Builder.result_substitute, Builder.result_substitute]
  cases hscan : Token.scan template with
  | error cause => exact .error _
  | ok tokens =>
    have hfill := fillTokens_sameShape h tokens as bs (hquotes tokens hscan) (hshape tokens hscan)
    -- the count looks at the number of arguments only
    let expected := Token.placeholderCount tokens
    show SameOutcome _
      ((builder.checkCount expected as.length).mapError Fault.query >>= fun _ => _)
      ((builder.checkCount expected bs.length).mapError Fault.query >>= fun _ => _)
    rw [(hshape tokens hscan).1]
    refine .bind_same _ fun _ => hfill.bind fun fragments fragments' hfragments => ?_
    exact .ok hfragments

/-- Two runs on one template with arguments of one shape leave alike texts, or fail for one
cause. -/
theorem run_sameShape (h : builder.escaper.Speaks idiom)
    (hquotes : ∀ tokens, Token.scan template = .ok tokens → Token.Unquoted tokens)
    (hshape : ∀ tokens, Token.scan template = .ok tokens → SameShape tokens as bs) :
    SameOutcome
      (fun build build' => ResolutionAlike idiom.backslash build.resolution build'.resolution)
      (builder.run template (.sequence kind as)).result
      (builder.run template (.sequence kind' bs)).result := by
  rw [Builder.result_run, Builder.result_run]
  refine (substitute_sameShape h hquotes hshape).bind fun query query' hfragments => ?_
  have hresolution := ofFragmentsIn_alike hfragments .none
  exact (hresolution.mapError _).map fun _ _ hr => hr

end Builds

/-- **Arguments of one shape give queries of one skeleton.** Take a dialect of the library with its
own text escaper, any options, and a template without quotes in its text. Two builds with arguments
of one shape fail for one cause, or both succeed; then the queries have one skeleton, and in both
every quoted region has its end. -/
theorem build_skeleton_eq (vendor : Vendor) (options : Options) (template : Text)
    (kind kind' : String) (as bs : List Argument)
    (hquotes : ∀ tokens, Token.scan template = .ok tokens → Token.Unquoted tokens)
    (hshape : ∀ tokens, Token.scan template = .ok tokens → SameShape tokens as bs) :
    let builder : Builder := ⟨.ofDialect vendor.dialect none, options⟩
    let backslash := vendor.backslashByDefault
    (∃ fault, (builder.build template (.sequence kind as)).result = .error fault ∧
      (builder.build template (.sequence kind' bs)).result = .error fault) ∨
    ∃ sql sql', (builder.build template (.sequence kind as)).result = .ok sql ∧
      (builder.build template (.sequence kind' bs)).result = .ok sql' ∧
      skeleton backslash sql = skeleton backslash sql' ∧
      quotesClosed backslash sql ∧ quotesClosed backslash sql' := by
  intro builder backslash
  have hspeaks : builder.escaper.Speaks (vendor.idiom backslash) := vendor.speaks_default
  have hbuild : SameOutcome (Alike backslash) (builder.build template (.sequence kind as)).result
      (builder.build template (.sequence kind' bs)).result :=
    (run_sameShape hspeaks hquotes hshape).map fun _ _ hr => hr.sql
  generalize (builder.build template (.sequence kind as)).result = x at hbuild ⊢
  generalize (builder.build template (.sequence kind' bs)).result = y at hbuild ⊢
  cases hbuild with
  | error cause => exact .inl ⟨cause, rfl, rfl⟩
  | ok halike =>
    exact .inr ⟨_, _, rfl, rfl, halike.skeleton_eq, halike.quotesClosed_left,
      halike.quotesClosed_right⟩

/-- Texts full of quotes and backslashes against texts without any. -/
theorem build_skeleton_eq_of_quotes :
    let template : Text := "a = ?{ AND ?# = ?d}".toList
    let as : List Argument := [.ofText "O'Brien\\".toList, .ofText "`".toList, .ofInt 7]
    let bs : List Argument := [.ofText [], .ofText "id".toList, .ofInt 7]
    let builder : Builder := ⟨.ofDialect Vendor.mysql.dialect none, {}⟩
    (∀ tokens, Token.scan template = .ok tokens → Token.Unquoted tokens) ∧
      (∀ tokens, Token.scan template = .ok tokens → SameShape tokens as bs) ∧
      ((∃ fault, (builder.build template (.sequence "list" as)).result = .error fault ∧
          (builder.build template (.sequence "list" bs)).result = .error fault) ∨
        ∃ sql sql', (builder.build template (.sequence "list" as)).result = .ok sql ∧
          (builder.build template (.sequence "list" bs)).result = .ok sql' ∧
          skeleton true sql = skeleton true sql' ∧
          quotesClosed true sql ∧ quotesClosed true sql') := by
  intro template as bs builder
  have hscan : Token.scan template = .ok [.text "a = ".toList 0, .placeholder none 4,
      .brace .opening 5, .text " AND ".toList 6, .placeholder (some .identifier) 11,
      .text " = ".toList 13, .placeholder (some .integer) 16, .brace .closing 18] := by rfl
  have hquotes : ∀ tokens, Token.scan template = .ok tokens → Token.Unquoted tokens := by
    intro tokens h content position hmem
    obtain rfl := Except.ok.inj (hscan.symm.trans h)
    simp only [List.mem_cons, Token.text.injEq, reduceCtorEq, List.not_mem_nil, or_false,
      false_or] at hmem
    rcases hmem with ⟨rfl, -⟩ | ⟨rfl, -⟩ | ⟨rfl, -⟩ <;> exact Quote.unquoted_of_all (by decide)
  have hshape : ∀ tokens, Token.scan template = .ok tokens → SameShape tokens as bs := by
    intro tokens h
    obtain rfl := Except.ok.inj (hscan.symm.trans h)
    refine ⟨rfl, ?_⟩
    intro slot hslot
    simp only [Token.specifiers, as, bs, List.filterMap_cons, List.filterMap_nil,
      List.zip_cons_cons, List.zip_nil_right, List.mem_cons, List.not_mem_nil, or_false] at hslot
    rcases hslot with rfl | rfl | rfl <;> rfl
  exact ⟨hquotes, hshape, build_skeleton_eq .mysql {} template "list" "list" as bs hquotes hshape⟩

end SqlTemplate
