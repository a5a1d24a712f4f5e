import SqlTemplate.Proofs.Outcome

/-!
# Which texts are handed over

Texts are handed over to be escaped while a template is filled in, and at no other stage of a build:
behind the scan and the count, what a build hands over is what the walk along its slots does
(`Builder.Counted.calls_build`). A build that succeeds, or fails only for its blocks, has filled all
slots (`Builder.filled_of_blocks`). `build_calls` puts this together.
-/

namespace SqlTemplate

/-- The blocks of a template cannot be resolved. -/
def Fault.IsOfBlocks (fault : Fault) : Prop :=
  ∃ error, fault = .query error ∧ error.blockPosition?.isSome

/-- With a routine that never fails, no argument is refused for where it stands. -/
theorem Escaper.Refusal.not_isOfBlocks {escaper : Escaper} {fault : Fault}
    (h : escaper.Refusal fault) (hanswers : escaper.Answers) : ¬ fault.IsOfBlocks := by
  rintro ⟨error, rfl, hposition⟩
  have hnone : error.position? = none := by
    refine h.position?_eq_none fun s hs => ?_
    obtain ⟨escaped, hescaped⟩ := hanswers s
    rw [hescaped] at hs
    cases hs
  rw [QueryError.blockPosition?_eq_none hnone] at hposition
  cases hposition

namespace Builder

variable {builder : Builder} {template : Text} {arguments : Argument} {items : List Argument}
  {tokens : List Token} {error : QueryError}

/-- A build that succeeds or fails for its blocks has passed the count and filled all slots. -/
theorem filled_of_blocks (hanswers : builder.escaper.Answers)
    (hitems : arguments.elements = .ok items) (hscan : Token.scan template = .ok tokens)
    (h : FailsWith Fault.IsOfBlocks (builder.build template arguments).result) :
    ∃ fragments, builder.Filled template items tokens fragments := by
  have houtcome := builder.build_outcome template hitems
  generalize (builder.build template arguments).result = result at h houtcome
  cases houtcome with
  | scan hscan' =>
    rw [hscan] at hscan'
    cases hscan'
  | count _ hcount =>
    -- a wrong count is reported without an offset, a fault of the blocks with one
    obtain ⟨_, ⟨⟩, hposition⟩ := h _ rfl
    rw [QueryError.blockPosition?_eq_none (position?_of_checkCount hcount)] at hposition
    cases hposition
  | slot _ _ hslot => exact absurd (h _ rfl) ((slotFault?_refusal hslot).not_isOfBlocks hanswers)
  | blocks hfilled | sql hfilled =>
    obtain rfl : tokens = _ := Except.ok.inj (hscan.symm.trans hfilled.scan)
    exact ⟨_, hfilled⟩

theorem calls_build (template : Text) (arguments : Argument) :
    (builder.build template arguments).calls = (builder.substitute template arguments).calls := by
  rw [build, Traced.calls_map, run]
  exact Traced.calls_bind_of_silent _ fun _ => Traced.calls_bind_of_silent _ fun _ => rfl

theorem calls_build_of_scan (hscan : Token.scan template = .error error) :
    (builder.build template arguments).calls = [] := by
  rw [calls_build, substitute, hscan]
  rfl

theorem calls_build_of_count (hitems : arguments.elements = .ok items)
    (hscan : Token.scan template = .ok tokens)
    (hcount : builder.checkCount (Token.placeholderCount tokens) items.length = .error error) :
    (builder.build template arguments).calls = [] := by
  rw [calls_build, substitute_eq_fail hitems hscan hcount]
  rfl

/-- Behind the scan and the count there is only the walk along the slots. -/
theorem Counted.calls_build (h : builder.Counted template items tokens)
    (hitems : arguments.elements = .ok items) :
    (builder.build template arguments).calls =
      (forM (Token.slots tokens items) builder.fillSlot).calls := by
  rw [Builder.calls_build, h.substitute_eq hitems, Traced.calls_map, ← Traced.calls_forget,
    forget_fillTokens h.le]

end Builder

/-- **Which texts are handed over to be escaped**, by a routine that never fails. If a build
succeeds, or fails only for its blocks, these are the texts in the values of all arguments, skipped
ones apart, that are written by their kind or as collections, in the order in which they stand, also
in blocks that are dropped. If the template cannot be scanned, or there are too few or too many
arguments, there are none. If an argument cannot be written, they are those of the arguments in
front of it, and then, if it is given up only while its value is written, the texts in front of the
leaf that has no literal. -/
theorem build_calls (builder : Builder) (template : Text) (arguments : Argument)
    (items : List Argument) (hanswers : builder.escaper.Answers)
    (hitems : arguments.elements = .ok items) :
    let result := (builder.build template arguments).result
    let calls := (builder.build template arguments).calls
    (∀ error, Token.scan template = .error error → calls = []) ∧
    ∀ tokens, Token.scan template = .ok tokens →
      let slots := Token.slots tokens items
      let count := builder.checkCount (Token.placeholderCount tokens) items.length
      (∀ error, count = .error error → calls = []) ∧
      (FailsWith Fault.IsOfBlocks result → calls = slots.flatMap Slot.texts) ∧
      ∀ front slot rest fault, count = .ok () → slots = front ++ slot :: rest →
        (∀ earlier ∈ front, builder.slotFault? earlier = none) →
        builder.slotFault? slot = some fault →
          result = .error fault ∧
          (∀ value, builder.Admits slot value →
            calls = front.flatMap Slot.texts ++ value.textsBeforeFault) ∧
          ((∀ value, ¬ builder.Admits slot value) → calls = front.flatMap Slot.texts) := by
  intro result calls
  refine ⟨fun error hscan => Builder.calls_build_of_scan hscan, fun tokens hscan =>
    ⟨fun error hcount => Builder.calls_build_of_count hitems hscan hcount, fun hblocks => ?_,
      fun front slot rest fault hcount hslots hfront hfault => ?_⟩⟩
  -- blocks are resolved after all placeholders are filled, so every text has been handed over
  · obtain ⟨fragments, hfilled⟩ := Builder.filled_of_blocks hanswers hitems hscan hblocks
    exact (hfilled.calls_build hitems).trans
      (Builder.calls_fillSlots hanswers hfilled.slotFault?_eq_none)
  · have hcounted : builder.Counted template items tokens := ⟨hscan, hcount⟩
    have hfirst : builder.firstUnfilled? (Token.slots tokens items) = some slot := by
      rw [show Token.slots tokens items = _ from hslots]
      exact Builder.firstUnfilled?_append hfront hfault
    -- filling ends at this slot, so nothing behind it is handed over
    have hresult : result = .error fault :=
      (Builder.Outcome.slot hcounted hfirst hfault).result_eq hitems
    have hcalls : calls = front.flatMap Slot.texts ++ (builder.fillSlot slot).calls := by
      rw [show calls = _ from hcounted.calls_build hitems,
        show Token.slots tokens items = _ from hslots]
      exact Builder.calls_fillSlots_of_fault hanswers hfront hfault
    refine ⟨hresult, fun value hvalue => ?_, fun hnone => ?_⟩
    · rw [hcalls, Builder.calls_fillSlot_of_admits hanswers hvalue]
    · rw [hcalls, Builder.calls_fillSlot_of_not_admits hnone, List.append_nil]

/-- A text in a block that is dropped is handed over, and a text behind an infinity is not. -/
theorem build_calls_of_infinite :
    let builder : Builder := ⟨.ofDialect .mysql (some (.custom "Recorder" .ok)), {}⟩
    let list : List Argument :=
      [.ofText ['z'], .ofList [.ofText ['w']], .ofFloat (.infinite false), .ofText ['v']]
    let items : List Argument := [.ofText ['x'], .skip, .ofText ['y'], .ofList list]
    builder.escaper.Answers ∧ (Argument.ofList items).elements = .ok items ∧
      (builder.build "? \x7b?d ?\x7d ?a".toList (.ofList items)).calls =
        [['x'], ['y'], ['z'], ['w']] := by
  intro builder list items
  have hanswers : builder.escaper.Answers := fun s => ⟨s, rfl⟩
  have hitems : (Argument.ofList items).elements = .ok items := rfl
  have hscan : Token.scan "? \x7b?d ?\x7d ?a".toList = .ok [.placeholder none 0, .text [' '] 1,
      .brace .opening 2, .placeholder (some .integer) 3, .text [' '] 5, .placeholder none 6,
      .brace .closing 7, .text [' '] 8, .placeholder (some .array) 9] := by rfl
  have hfault := (build_calls builder _ _ items hanswers hitems).2 _ hscan |>.2.2
    [⟨none, .ofText ['x']⟩, ⟨some .integer, .skip⟩, ⟨none, .ofText ['y']⟩]
    ⟨some .array, .ofList list⟩ [] _ rfl rfl (by decide) rfl
  exact ⟨hanswers, hitems, hfault.2.1 _ (.array rfl rfl (.inl rfl))⟩

end SqlTemplate
