import SqlTemplate.Query

/-!
# One token at a time

Each token becomes one fragment, and uses up at most one argument. `Builder.fillToken` is what is
done for a single token, and `Builder.fillTokens_cons` splits the first one off, whatever it is. So
what holds of the fragments of a template is shown of a single token, where the kinds of tokens
differ, and then of all of them, where they do not.
-/

namespace SqlTemplate

namespace Builder

variable {builder : Builder} {items : List Argument} {token : Token} {tokens : List Token}
  {fragments : List Fragment}

/-- What a token becomes. A placeholder needs an argument. -/
def fillToken (builder : Builder) (argument? : Option Argument) : Token → Traced Fragment
  | .text content position => pure ⟨.text, content, position⟩
  | .brace .opening position => pure (.opening position)
  | .brace .closing position => pure (.closing position)
  | .placeholder specifier position =>
    match argument? with
    | some argument => builder.fillPlaceholder specifier position argument
    | none => .ofExcept (.error .missingArgument)

/-- Filling in is to fill the first token, to drop the argument that it has used up, and to fill the
others. -/
theorem fillTokens_cons (token : Token) (tokens : List Token) (items : List Argument) :
    builder.fillTokens (token :: tokens) items =
      builder.fillToken items[0]? token >>= fun fragment =>
        (fragment :: ·) <$>
          builder.fillTokens tokens (items.drop (Token.placeholderCount [token])) := by
  match token, items with
  | .text .., _ | .brace .opening _, _ | .brace .closing _, _ => exact (pure_bind ..).symm
  | .placeholder .., [] | .placeholder .., _ :: _ => rfl

theorem result_fillTokens_cons (token : Token) (tokens : List Token) (items : List Argument) :
    (builder.fillTokens (token :: tokens) items).result =
      (builder.fillToken items[0]? token).result >>= fun fragment =>
        (builder.fillTokens tokens (items.drop (Token.placeholderCount [token]))).result.map
          (fragment :: ·) := by
  rw [fillTokens_cons]
  exact Traced.result_bind ..

/-- What can be filled has a first fragment, which is that of the first token. -/
theorem exists_of_fillTokens_cons
    (h : (builder.fillTokens (token :: tokens) items).result = .ok fragments) :
    ∃ fragment rest, fragments = fragment :: rest ∧
      (builder.fillToken items[0]? token).result = .ok fragment ∧
      (builder.fillTokens tokens (items.drop (Token.placeholderCount [token]))).result =
        .ok rest := by
  rw [result_fillTokens_cons] at h
  obtain ⟨fragment, hfragment, h⟩ := exists_of_bind_eq_ok h
  obtain ⟨rest, hrest, rfl⟩ := exists_of_map_eq_ok h
  exact ⟨fragment, rest, rfl, hfragment, hrest⟩

end Builder

end SqlTemplate
