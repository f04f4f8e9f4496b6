import SqlWeave.Text.Hex

/-!
# Universally unique identifiers

Sixteen bytes, written as thirty-two lower-case digits in five groups.
-/

namespace SqlWeave

/-- An identifier of 128 bits. -/
structure Uuid where
  value : BitVec 128
  deriving DecidableEq, Repr

namespace Uuid

/-- The five groups with hyphens between them. -/
def text (u : Uuid) : String :=
  let digits := Chars.hexDigits 32 u.value.toNat
  let group (start length : Nat) : String := String.ofList ((digits.drop start).take length)
  "-".intercalate [group 0 8, group 8 4, group 12 4, group 16 4, group 20 12]

/-- Reads thirty-two digits of either case, with or without hyphens. -/
def ofText? (s : String) : Option Uuid :=
  let digits := s.toList.filter (· ≠ '-')
  if digits.length = 32 then (Chars.hexRead? digits).map fun n => ⟨BitVec.ofNat 128 n⟩ else none

end Uuid

end SqlWeave
