/-!
# Sets of code points

A Unicode property is kept as a list of inclusive ranges of code points. Membership is a scan of
the list; the characters below U+0080 are settled before any table is asked.
-/

namespace TemplateEngine
namespace Text

/-- A set of code points, as inclusive ranges in increasing order. -/
abbrev CodeRanges := List (Nat × Nat)

def CodeRanges.contains (ranges : CodeRanges) (code : Nat) : Bool :=
  ranges.any fun range => range.1 ≤ code && code ≤ range.2

theorem CodeRanges.contains_iff (ranges : CodeRanges) (code : Nat) :
    ranges.contains code = true ↔ ∃ range ∈ ranges, range.1 ≤ code ∧ code ≤ range.2 := by
  simp [CodeRanges.contains]

end Text
end TemplateEngine
