/-
# Numerals

The texts that write whole numbers of 64 bits, and those that write double-precision numbers: a
sign, digits around a point of which one side may be empty, and an exponent, or one of the words
for infinity and for what is not a number.
-/

import DocTags.Decimal.Binary64

namespace DocTags.Numeral

/-- A text without its sign, and whether the sign was a minus. -/
def sign : Text → Bool × Text
  | '-' :: rest => (true, rest)
  | '+' :: rest => (false, rest)
  | text => (false, text)

/-- The whole number that a text writes, if it fits into 64 bits. -/
def integer? (text : Text) : Option Int :=
  let (negative, magnitude) := sign text
  if magnitude = [] ∨ magnitude.any (!·.isDigit) then none
  else
    let value : Int := if negative then -(Text.decimal magnitude : Int) else Text.decimal magnitude
    let limit : Int := Nat.pow 2 63
    if -limit ≤ value ∧ value < limit then some value else none

/-- The exponent that ends a numeral, which may be missing. -/
def exponent? : Text → Option Int
  | [] => some 0
  | c :: rest =>
    if c = 'e' ∨ c = 'E' then
      let (negative, magnitude) := sign rest
      if magnitude = [] ∨ magnitude.any (!·.isDigit) then none
      else some (if negative then -(Text.decimal magnitude : Int) else Text.decimal magnitude)
    else none

/-- The digits that a numeral has after a point, and what follows them. -/
def fraction : Text → Text × Text
  | '.' :: rest => Text.digits rest
  | text => ([], text)

/-- The double-precision number nearest to what a text writes. -/
def binary64? (text : Text) : Option Binary64 :=
  let (negative, magnitude) := sign text
  if Text.equalIgnoringCase magnitude ['i', 'n', 'f'] ∨
      Text.equalIgnoringCase magnitude ['i', 'n', 'f', 'i', 'n', 'i', 't', 'y'] then
    some (.infinite negative)
  else if Text.equalIgnoringCase magnitude ['n', 'a', 'n'] then some .nan
  else
    let (whole, rest) := Text.digits magnitude
    let (decimals, rest) := fraction rest
    if whole = [] ∧ decimals = [] then none
    else
      (exponent? rest).map fun exponent =>
        Binary64.ofDecimal negative (whole ++ decimals) (exponent - decimals.length)

end DocTags.Numeral
