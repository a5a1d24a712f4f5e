import SqlTemplate.Text.CaseTable

/-!
# Lower case

Dialect names are compared in lower case, by the full mapping of Unicode: every code point by
itself, but for two. A capital I with a dot becomes an i followed by a combining dot, and a capital
sigma takes its final form at the end of a word.
-/

namespace SqlTemplate.Text

def CaseRun.contains (run : CaseRun) (n : Nat) : Bool :=
  run.first ≤ n && n ≤ run.last && (n - run.first) % run.step == 0

/-- The lower case letter of a capital that has exactly one, and any other code point itself. -/
def lowerChar (c : Char) : Char :=
  match caseRuns.find? (·.contains c.toNat) with
  | some run => Char.ofNat (c.toNat + run.offset).toNat
  | none => c

def inRanges (ranges : List (Nat × Nat)) (c : Char) : Bool :=
  ranges.any fun (first, last) => first ≤ c.toNat && c.toNat ≤ last

/-- Whether a cased code point stands at the head of `s`, once those that are passed over are. -/
def startsCased (s : Text) : Bool :=
  match s.dropWhile (inRanges caseIgnorableRanges) with
  | [] => false
  | c :: _ => inRanges casedRanges c

/-- Lower case from some place in a text on. `inWord` says whether a cased code point stands just
before that place, once those that are passed over are. -/
def lowerFrom : Bool → Text → Text
  | _, [] => []
  | inWord, c :: rest =>
    -- only for a capital sigma does it matter what stands around it
    let lowered :=
      if c = 'Σ' then (if inWord && !startsCased rest then ['ς'] else ['σ'])
      else if c = 'İ' then ['i', '\u0307']
      else [lowerChar c]
    let inWord := if inRanges caseIgnorableRanges c then inWord else inRanges casedRanges c
    lowered ++ lowerFrom inWord rest

def lowercase (s : Text) : Text :=
  lowerFrom false s

end SqlTemplate.Text
