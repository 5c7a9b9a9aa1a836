/-! Sets of characters as ranges of code points. -/
namespace FilingName.Text

/-- Ascending, disjoint ranges of code points; both ends belong to a range. -/
abbrev Ranges := List (Nat × Nat)

/-- The search stops at the first range that starts beyond the code point. -/
def Ranges.has : Ranges → Nat → Bool
  | [], _ => false
  | (first, last) :: rest, n => if n < first then false else n ≤ last || has rest n

end FilingName.Text
