import SqlTemplate.Text

/-!
# Blanks

The code points that count as white space when a numeral is read from text. They are the ones with
the Unicode property `White_Space`, and the four information separators U+001C to U+001F. Zero
width spaces and joiners are not among them.
-/

namespace SqlTemplate.Text

def isBlank (c : Char) : Bool :=
  let n := c.toNat
  (0x09 ≤ n && n ≤ 0x0D) || (0x1C ≤ n && n ≤ 0x20) || n == 0x85 || n == 0xA0 || n == 0x1680 ||
    (0x2000 ≤ n && n ≤ 0x200A) || n == 0x2028 || n == 0x2029 || n == 0x202F || n == 0x205F ||
    n == 0x3000

def strip (s : Text) : Text :=
  ((s.dropWhile isBlank).reverse.dropWhile isBlank).reverse

/-- Blanks in front are dropped up to what is no blank. -/
theorem dropWhile_isBlank {blanks rest : Text} (hblanks : ∀ c ∈ blanks, isBlank c)
    (hrest : ∀ c ∈ rest.head?, isBlank c = false) :
    (blanks ++ rest).dropWhile isBlank = rest := by
  rw [List.dropWhile_append_of_pos hblanks]
  cases rest with
  | nil => rfl
  | cons c rest => exact List.dropWhile_cons_of_neg (by simp [hrest c rfl])

/-- What stands between blanks is left, if it holds none itself. -/
theorem strip_between {before s after : Text} (hne : s ≠ []) (hs : ∀ c ∈ s, isBlank c = false)
    (hbefore : ∀ c ∈ before, isBlank c) (hafter : ∀ c ∈ after, isBlank c) :
    strip (before ++ s ++ after) = s := by
  have hfront : (before ++ (s ++ after)).dropWhile isBlank = s ++ after := by
    refine dropWhile_isBlank hbefore fun c hc => hs c ?_
    obtain ⟨d, s, rfl⟩ := List.exists_cons_of_ne_nil hne
    cases hc
    exact List.mem_cons_self
  have hback : (after.reverse ++ s.reverse).dropWhile isBlank = s.reverse := by
    refine dropWhile_isBlank (fun c hc => hafter c (List.mem_reverse.mp hc)) fun c hc => hs c ?_
    exact List.mem_reverse.mp (List.mem_of_mem_head? hc)
  rw [strip, List.append_assoc, hfront, List.reverse_append, hback, List.reverse_reverse]

end SqlTemplate.Text
