/-
# Digits

Runs of digits and the numbers that they write.
-/

import DocTags.Text.Basic

namespace DocTags.Text

/-- The run of decimal digits that a text starts with, and the rest. -/
def digits (text : Text) : Text × Text :=
  (text.takeWhile Char.isDigit, text.dropWhile Char.isDigit)

/-- The value of a digit of any base up to sixteen. -/
def digit? (c : Char) : Option Nat :=
  if '0' ≤ c ∧ c ≤ '9' then some (c.toNat - '0'.toNat)
  else if 'a' ≤ c ∧ c ≤ 'f' then some (c.toNat - 'a'.toNat + 10)
  else if 'A' ≤ c ∧ c ≤ 'F' then some (c.toNat - 'A'.toNat + 10)
  else none

/-- The number that some digits write in a base. -/
def numberIn (base : Nat) (digits : Text) : Nat :=
  digits.foldl (fun n c => base * n + (digit? c).getD 0) 0

/-- The number that some decimal digits write. -/
def decimal (digits : Text) : Nat :=
  numberIn 10 digits

end DocTags.Text
