/-
# Double-precision numbers

A number of the format binary64, held exactly as a whole number times a power of two. A decimal is
rounded to the nearest such number, and of two that are equally near to the even one; what is too
large becomes infinite.
-/

import DocTags.Text.Digits

namespace DocTags

/-- A double-precision number. The value of `finite negative m q` is `m · 2 ^ q` with its sign,
where `m` is below `2 ^ 53` and, unless `q` is least, not below `2 ^ 52`. -/
inductive Binary64 where
  | nan
  | infinite (negative : Bool)
  | finite (negative : Bool) (significand : Nat) (exponent : Int)
deriving DecidableEq

namespace Binary64

/-- The least exponent. -/
def leastExponent : Int :=
  -1074

/-- The greatest exponent. -/
def greatestExponent : Int :=
  971

/-- A quotient rounded to the nearest whole number, a half to the even one. -/
def roundHalfEven (num den : Nat) : Nat :=
  let quotient := num / den
  let twice := 2 * (num % den)
  if twice < den then quotient
  else if den < twice then quotient + 1
  else if quotient % 2 = 0 then quotient
  else quotient + 1

/-- The fraction `num / (den · 2 ^ q)` without a negative power. -/
def scale (num den : Nat) (q : Int) : Nat × Nat :=
  if 0 ≤ q then (num, den * Nat.pow 2 q.toNat) else (num * Nat.pow 2 (-q).toNat, den)

/-- The number nearest to the fraction `num / den`. -/
def ofFraction (negative : Bool) (num den : Nat) : Binary64 :=
  if num = 0 then finite negative 0 leastExponent
  else
    let guess : Int := (num.log2 : Int) - den.log2 - 53
    let (n, d) := scale num den guess
    let exponent := if n / d < Nat.pow 2 53 then guess else guess + 1
    let exponent := if exponent < leastExponent then leastExponent else exponent
    let (n, d) := scale num den exponent
    let significand := roundHalfEven n d
    let (significand, exponent) :=
      if significand = Nat.pow 2 53 then (Nat.pow 2 52, exponent + 1) else (significand, exponent)
    if greatestExponent < exponent then infinite negative
    else finite negative significand exponent

/-- The number nearest to a whole number. -/
def ofNat (n : Nat) : Binary64 :=
  ofFraction false n 1

/-- The number nearest to the decimal `digits · 10 ^ exponent`. Far outside the range of the
format the fraction need not be computed. -/
def ofDecimal (negative : Bool) (digits : Text) (exponent : Int) : Binary64 :=
  let digits := digits.dropWhile (· == '0')
  if digits = [] ∨ exponent + digits.length < -400 then finite negative 0 leastExponent
  else if 400 < exponent + digits.length then infinite negative
  else if 0 ≤ exponent then ofFraction negative (Text.decimal digits * Nat.pow 10 exponent.toNat) 1
  else ofFraction negative (Text.decimal digits) (Nat.pow 10 (-exponent).toNat)

/-- Whether a number equals zero. -/
def isZero : Binary64 → Bool
  | finite _ significand _ => significand == 0
  | _ => false

/-- Whether a number is infinite. -/
def isInfinite : Binary64 → Bool
  | infinite _ => true
  | _ => false

/-- The number nearest to a product. -/
def mul : Binary64 → Binary64 → Binary64
  | finite negative m q, finite negative' m' q' =>
    let (num, den) := scale (m * m') 1 (-(q + q'))
    ofFraction (negative != negative') num den
  | infinite negative, infinite negative' => infinite (negative != negative')
  | infinite negative, finite negative' m _ =>
    if m = 0 then nan else infinite (negative != negative')
  | finite negative m _, infinite negative' =>
    if m = 0 then nan else infinite (negative != negative')
  | _, _ => nan

end Binary64

end DocTags
