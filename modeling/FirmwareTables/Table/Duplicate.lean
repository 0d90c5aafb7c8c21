/-
**The first pair of equal items.**

`findDuplicate?` compares every item with all later ones, in order, and gives the positions of the
first pair found: no earlier item has an equal one after it, and no item between the two is equal to
the first.
-/

namespace FirmwareTables

/-- The positions of the first pair of items that a test takes for equal. -/
def findDuplicate? {α : Type} (equal : α → α → Bool) : List α → Option (Nat × Nat)
  | [] => none
  | first :: rest =>
    match rest.findIdx? (equal first) with
    | some index => some (0, index + 1)
    | none => (findDuplicate? equal rest).map fun (left, right) => (left + 1, right + 1)

end FirmwareTables
