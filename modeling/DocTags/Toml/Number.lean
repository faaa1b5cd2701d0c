/-
# Numbers and dates of TOML

Whole numbers of 64 bits in four bases, decimals, and dates and times of the calendar. Digits may
have single underscores between them.
-/

import DocTags.Decimal.Binary64
import DocTags.Toml.Text

namespace DocTags.Toml

/-- Digits of a class with single underscores between them. -/
def digitsOf (isDigit : Char → Bool) : Bool → Reader Text
  | after, '_' :: c :: rest =>
    if after && isDigit c then do
      let (digits, rest) ← digitsOf isDigit true (c :: rest)
      return (digits, rest)
    else if after then some ([], '_' :: c :: rest)
    else none
  | after, c :: rest =>
    if isDigit c then do
      let (digits, rest) ← digitsOf isDigit true rest
      return (c :: digits, rest)
    else if after then some ([], c :: rest)
    else none
  | after, [] => if after then some ([], []) else none

/-- Decimal digits, of which the first may be a zero. -/
def decimals : Reader Text :=
  digitsOf Char.isDigit false

/-- A sign, which may be missing. -/
def sign : Text → Text × Text
  | '+' :: rest => (['+'], rest)
  | '-' :: rest => (['-'], rest)
  | text => ([], text)

/-- Decimal digits that start with a zero only if it stands alone. -/
def wholeDigits : Reader Text
  | '0' :: rest => some (['0'], rest)
  | text => decimals text

/-- A number without its underscores, if it fits into 64 bits. -/
def bounded (negative : Bool) (base : Nat) (digits : Text) : Option Text :=
  let value := Text.numberIn base digits
  if value < Nat.pow 2 63 ∨ (negative ∧ value = Nat.pow 2 63) then
    some ((if negative then ['-'] else []) ++ Text.ofNat value)
  else none

/-- A whole number. -/
def integer : Reader Text
  | '0' :: 'x' :: rest => do
    let (digits, rest) ← digitsOf (fun c => (Text.digit? c).isSome) false rest
    return (← bounded false 16 digits, rest)
  | '0' :: 'o' :: rest => do
    let (digits, rest) ← digitsOf (fun c => '0' ≤ c && c ≤ '7') false rest
    return (← bounded false 8 digits, rest)
  | '0' :: 'b' :: rest => do
    let (digits, rest) ← digitsOf (fun c => c == '0' || c == '1') false rest
    return (← bounded false 2 digits, rest)
  | text => do
    let (sign, rest) := sign text
    let (digits, rest) ← wholeDigits rest
    return (← bounded (sign == ['-']) 10 digits, rest)

/-- The exponent of a decimal with its letter. -/
def exponent : Reader Text
  | c :: rest =>
    if c = 'e' ∨ c = 'E' then do
      let (sign, rest) := sign rest
      let (digits, rest) ← decimals rest
      return (c :: sign ++ digits, rest)
    else none
  | [] => none

/-- The decimal places of a decimal without their point. -/
def places : Reader Text
  | '.' :: rest => decimals rest
  | _ => none

/-- Whether a decimal lies above all double-precision numbers. -/
def overflows (sign whole places exponent : Text) : Bool :=
  let power : Int :=
    match exponent with
    | _ :: '-' :: digits => -(Text.decimal digits : Int)
    | _ :: '+' :: digits => Text.decimal digits
    | _ :: digits => Text.decimal digits
    | [] => 0
  Binary64.ofDecimal (sign == ['-']) (whole ++ places) (power - places.length) == .infinite false

/-- A decimal with decimal places, an exponent, or both, or one of the words for infinity and for
what is not a number. A decimal may be too small for any double-precision number, but not too
large. -/
def decimal : Reader Text := fun text =>
  match sign text with
  | (sign, 'i' :: 'n' :: 'f' :: rest) => some (sign ++ ['i', 'n', 'f'], rest)
  | (sign, 'n' :: 'a' :: 'n' :: rest) => some (sign ++ ['n', 'a', 'n'], rest)
  | (sign, rest) => do
    let (whole, rest) ← wholeDigits rest
    match places rest with
    | some (places, rest) =>
      let (exponent, rest) := (exponent rest).getD ([], rest)
      if overflows sign whole places exponent then none
      else some (sign ++ whole ++ '.' :: places ++ exponent, rest)
    | none => do
      let (exponent, rest) ← exponent rest
      if overflows sign whole [] exponent then none
      else some (sign ++ whole ++ exponent, rest)

/-- A number of exactly `count` digits. -/
def fixedDigits (count : Nat) : Reader Nat := fun text =>
  let digits := text.take count
  if digits.length = count ∧ digits.all Char.isDigit then
    some (Text.decimal digits, text.drop count)
  else none

/-- A number of two digits in a range. -/
def twoDigits (least greatest : Nat) : Reader Nat := fun text => do
  let (value, rest) ← fixedDigits 2 text
  if least ≤ value ∧ value ≤ greatest then some (value, rest) else none

/-- One fixed character. -/
def exactly (expected : Char) : Reader Unit
  | c :: rest => if c = expected then some ((), rest) else none
  | [] => none

/-- The number of days of a month. -/
def daysOf (year month : Nat) : Nat :=
  if month = 2 then
    if year % 4 = 0 ∧ (year % 100 ≠ 0 ∨ year % 400 = 0) then 29 else 28
  else if month = 4 ∨ month = 6 ∨ month = 9 ∨ month = 11 then 30
  else 31

/-- A date. -/
def date : Reader Unit := fun text => do
  let (year, rest) ← fixedDigits 4 text
  let (_, rest) ← exactly '-' rest
  let (month, rest) ← twoDigits 1 12 rest
  let (_, rest) ← exactly '-' rest
  let (_, rest) ← twoDigits 1 (daysOf year month) rest
  return ((), rest)

/-- The fraction of a second, which may be missing. -/
def skipFraction : Text → Text
  | '.' :: rest =>
    match Text.digits rest with
    | ([], _) => '.' :: rest
    | (_, after) => after
  | text => text

/-- A time of day. -/
def time : Reader Unit := fun text => do
  let (_, rest) ← twoDigits 0 23 text
  let (_, rest) ← exactly ':' rest
  let (_, rest) ← twoDigits 0 59 rest
  let (_, rest) ← exactly ':' rest
  let (_, rest) ← twoDigits 0 60 rest
  return ((), skipFraction rest)

/-- The distance from universal time. -/
def offset : Reader Unit
  | c :: rest =>
    if c = 'Z' ∨ c = 'z' then some ((), rest)
    else if c = '+' ∨ c = '-' then do
      let (_, rest) ← twoDigits 0 23 rest
      let (_, rest) ← exactly ':' rest
      let (_, rest) ← twoDigits 0 59 rest
      return ((), rest)
    else none
  | [] => none

/-- The time behind a date, which may be missing, with its distance from universal time, which may
be missing too. -/
def skipTime : Text → Text
  | c :: rest =>
    if c = 'T' ∨ c = 't' ∨ c = ' ' then
      match time rest with
      | some (_, rest) =>
        match offset rest with
        | some (_, rest) => rest
        | none => rest
      | none => c :: rest
    else c :: rest
  | [] => []

/-- A date, a time of day, or both. -/
def moment : Reader Unit := fun text =>
  match date text with
  | some (_, rest) => some ((), skipTime rest)
  | none => time text

end DocTags.Toml
