/-
# Shortest decimals

The decimal with the fewest digits that rounds to a given double-precision number, and of those
the nearest one. For each count of digits only two decimals have to be looked at: the neighbours of
the number on the grid of decimals with that many digits.
-/

import DocTags.Decimal.Binary64

namespace DocTags.Binary64

/-- A number in units of a fourth of its last binary place, with the ends of the interval of reals
that round to it and whether the ends belong to it. -/
structure Neighbourhood where
  low : Nat
  value : Nat
  high : Nat
  closed : Bool
  /-- The exponent of two of the unit. -/
  unit : Int

/-- The neighbourhood of `m · 2 ^ q`. Below a power of two the numbers lie twice as dense. -/
def neighbourhood (m : Nat) (q : Int) : Neighbourhood where
  low := if m = Nat.pow 2 52 ∧ leastExponent < q then 4 * m - 1 else 4 * m - 2
  value := 4 * m
  high := 4 * m + 2
  closed := m % 2 = 0
  unit := q - 2

/-- The fraction `2 ^ unit / 10 ^ place`. -/
def unitOnGrid (unit place : Int) : Nat × Nat :=
  (Nat.pow 2 unit.toNat * Nat.pow 10 (-place).toNat,
    Nat.pow 2 (-unit).toNat * Nat.pow 10 place.toNat)

/-- Whether `digits · 10 ^ place` lies in a neighbourhood. -/
def Neighbourhood.holds (n : Neighbourhood) (place : Int) (digits : Nat) : Bool :=
  let (num, den) := unitOnGrid n.unit place
  if n.closed then n.low * num ≤ digits * den && digits * den ≤ n.high * num
  else n.low * num < digits * den && digits * den < n.high * num

/-- The decimal with its last digit at `place` that is nearest to a number among the two around
it that round to the number. An equally near one that is greater is preferred. -/
def Neighbourhood.onGrid? (n : Neighbourhood) (place : Int) : Option Nat :=
  let (num, den) := unitOnGrid n.unit place
  let below := n.value * num / den
  let nearer := if 2 * (n.value * num) < (2 * below + 1) * den then below else below + 1
  let other := if nearer = below then below + 1 else below
  if n.holds place nearer then some nearer
  else if n.holds place other then some other
  else none

/-- The place of the first digit of a number: `10 ^ place` is the greatest power of ten that is
not above it. -/
def Neighbourhood.firstPlace (n : Neighbourhood) : Int :=
  let guess := (((n.value.log2 : Int) + n.unit) * 30103).fdiv 100000
  let reaches (place : Int) : Bool :=
    let (num, den) := unitOnGrid n.unit place
    den ≤ n.value * num
  if reaches (guess + 1) then guess + 1 else if reaches guess then guess else guess - 1

/-- The first of some numbers of further digits with which a decimal rounds to the number. A
decimal that was rounded up to the next power of ten has a single digit. -/
def Neighbourhood.search (n : Neighbourhood) (first : Int) : List Nat → Nat × Int
  | [] => (0, 0)
  | further :: rest =>
    match n.onGrid? (first - further) with
    | some digits =>
      if digits = Nat.pow 10 (further + 1) then (1, first + 1) else (digits, first - further)
    | none => search n first rest

/-- The shortest decimal that rounds to `m · 2 ^ q`, as digits and the place of the last of them.
Seventeen digits are always enough. -/
def shortest (m : Nat) (q : Int) : Nat × Int :=
  let n := neighbourhood m q
  n.search n.firstPlace (List.range 17)

/-- The text of `digits · 10 ^ place` without an exponent. -/
def positional (digits : Nat) (place : Int) : Text :=
  let text := Text.ofNat digits
  if 0 ≤ place then text ++ List.replicate place.toNat '0'
  else
    let decimals := (-place).toNat
    let padded := List.replicate (decimals + 1 - text.length) '0' ++ text
    padded.take (padded.length - decimals) ++ '.' :: padded.drop (padded.length - decimals)

/-- A number in the fewest digits that read back, without an exponent. A whole number has no
decimal point. -/
def toText : Binary64 → Text
  | nan => ['N', 'a', 'N']
  | infinite negative => (if negative then ['-'] else []) ++ ['i', 'n', 'f']
  | finite negative significand exponent =>
    let magnitude :=
      if significand = 0 then ['0']
      else
        let (digits, place) := shortest significand exponent
        positional digits place
    (if negative then ['-'] else []) ++ magnitude

/-- The same with a decimal point in every finite number. -/
def toPointText (number : Binary64) : Text :=
  match number with
  | finite _ _ _ =>
    let text := number.toText
    if '.' ∈ text then text else text ++ ['.', '0']
  | _ => number.toText

end DocTags.Binary64
