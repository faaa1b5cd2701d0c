/-
# Reading JSON

The parts of JSON that a reader of some particular shape is put together from. A text that is not
read is refused for one of three reasons: it broke the rules of JSON, it ended too early, or it
was sound so far but did not have the wanted shape. The first fault from the left decides.

A value of the wrong shape is still read as far as its first token before it is refused, so that a
broken token counts as broken. Values that nobody wants are passed over; there a string may hold
half of a surrogate pair, and nesting is not limited.
-/

import DocTags.Assoc
import DocTags.Decimal.Binary64
import DocTags.Text.Digits
import DocTags.Text.Utf8

namespace DocTags.Json

/-- Why a JSON text is refused. -/
inductive Fault where
  | malformed
  | misshapen
  | ended
deriving DecidableEq

/-- A reader takes something from the front of a text and leaves the rest. -/
abbrev Reader (α : Type) := Text → Except Fault (α × Text)

/-- The characters that may stand between tokens. -/
def isBlank (c : Char) : Bool :=
  c == ' ' || c == '\n' || c == '\t' || c == '\r'

/-- The text from its next token on. -/
def skipBlanks (text : Text) : Text :=
  text.dropWhile isBlank

/-- Four hexadecimal digits. With fewer than four bytes left the text ended too early, whatever
the bytes are. -/
def fourDigits : Reader Nat := fun text =>
  if Text.utf8Size (text.take 4) < 4 then .error .ended
  else
    match text with
    | a :: b :: c :: d :: rest =>
      match Text.digit? a, Text.digit? b, Text.digit? c, Text.digit? d with
      | some a, some b, some c, some d => .ok (((a * 16 + b) * 16 + c) * 16 + d, rest)
      | _, _, _, _ => .error .malformed
    | _ => .error .malformed

/-- The character that a letter after a backslash stands for. -/
def shortEscape? (c : Char) : Option Char :=
  if c = '"' ∨ c = '\\' ∨ c = '/' then some c
  else if c = 'b' then some '\x08'
  else if c = 'f' then some '\x0c'
  else if c = 'n' then some '\n'
  else if c = 'r' then some '\r'
  else if c = 't' then some '\t'
  else none

/-- The second half of a surrogate pair whose first half has been read. -/
def lowSurrogate (high : Nat) : Reader Char
  | [] => .error .ended
  | '\\' :: [] => .error .ended
  | '\\' :: 'u' :: rest => do
    let (low, rest) ← fourDigits rest
    if 0xDC00 ≤ low ∧ low ≤ 0xDFFF then
      return (Char.ofNat ((high - 0xD800) * 0x400 + (low - 0xDC00) + 0x10000), rest)
    else .error .malformed
  | _ => .error .malformed

/-- What follows a backslash in a string. -/
def escape : Reader Char
  | [] => .error .ended
  | 'u' :: rest => do
    let (code, rest) ← fourDigits rest
    if 0xDC00 ≤ code ∧ code ≤ 0xDFFF then .error .malformed
    else if 0xD800 ≤ code ∧ code ≤ 0xDBFF then lowSurrogate code rest
    else return (Char.ofNat code, rest)
  | c :: rest =>
    match shortEscape? c with
    | some meant => .ok (meant, rest)
    | none => .error .malformed

/-- What follows a backslash in a string that nobody wants. -/
def skipEscape : Reader Unit
  | [] => .error .ended
  | 'u' :: rest => do
    let (_, rest) ← fourDigits rest
    return ((), rest)
  | c :: rest =>
    match shortEscape? c with
    | some _ => .ok ((), rest)
    | none => .error .malformed

/-- The characters of a string up to its closing quote, of which at most `fuel` are read. -/
def stringChars {α : Type} (escape : Reader α) (plain : Char → α) :
    Nat → Reader (List α)
  | 0, _ => .error .ended
  | _ + 1, [] => .error .ended
  | _ + 1, '"' :: rest => .ok ([], rest)
  | fuel + 1, '\\' :: rest => do
    let (first, rest) ← escape rest
    let (chars, rest) ← stringChars escape plain fuel rest
    return (first :: chars, rest)
  | fuel + 1, c :: rest =>
    if c.toNat < 0x20 then .error .malformed
    else do
      let (chars, rest) ← stringChars escape plain fuel rest
      return (plain c :: chars, rest)

/-- A string whose opening quote has been read. -/
def stringRest : Reader Text := fun text =>
  stringChars escape id (text.length + 1) text

/-- A string that nobody wants and whose opening quote has been read. -/
def skipString : Reader Unit := fun text => do
  let (_, rest) ← stringChars skipEscape (fun _ => ()) (text.length + 1) text
  return ((), rest)

/-- The letters of a fixed word. -/
def word : Text → Reader Unit
  | [], text => .ok ((), text)
  | _ :: _, [] => .error .ended
  | expected :: more, c :: rest =>
    if c = expected then word more rest else .error .malformed

/-- The digits of a whole number: a lone zero, or digits that do not start with one. A number
that is missing at the end of the text is the fault `atEnd`. -/
def wholePart (atEnd : Fault) : Reader Text := fun text =>
  match Text.digits text with
  | ([], rest) => .error (if rest = [] then atEnd else .malformed)
  | ('0' :: _ :: _, _) => .error .malformed
  | (found, rest) => .ok (found, rest)

/-- At least one digit. Digits that are missing at the end of the text are the fault `atEnd`. -/
def someDigits (atEnd : Fault) : Reader Text := fun text =>
  match Text.digits text with
  | ([], rest) => .error (if rest = [] then atEnd else .malformed)
  | (found, rest) => .ok (found, rest)

/-- The digits after a decimal point, if there is one. -/
def fractionPart (atEnd : Fault) : Reader Text
  | '.' :: rest => someDigits atEnd rest
  | text => .ok ([], text)

/-- The exponent, if there is one. -/
def exponentPart (atEnd : Fault) : Reader Int
  | c :: rest =>
    if c = 'e' ∨ c = 'E' then
      match rest with
      | '-' :: rest => do
        let (found, rest) ← someDigits atEnd rest
        return (-(Text.decimal found : Int), rest)
      | '+' :: rest => do
        let (found, rest) ← someDigits atEnd rest
        return (Text.decimal found, rest)
      | rest => do
        let (found, rest) ← someDigits atEnd rest
        return (Text.decimal found, rest)
    else .ok (0, c :: rest)
  | [] => .ok (0, [])

/-- The number that digits make up behind `n`, as far as it fits into 64 bits, and how many digits
are left out: the first one with which it does not fit, and all that follow. -/
def leading (n : Nat) : Text → Nat × Nat
  | [] => (n, 0)
  | c :: rest =>
    let next := 10 * n + (Text.digit? c).getD 0
    if next < Nat.pow 2 64 then leading next rest else (n, rest.length + 1)

/-- Whether `significand · 10 ^ exponent` is too large for a double when the two factors are rounded
before they are multiplied. A power of ten that is too large itself is too large a factor for
everything but zero; nothing is too large without a power of ten. -/
def tooLarge (significand : Nat) (exponent : Int) : Bool :=
  if significand = 0 ∨ exponent < 0 then false
  else if 308 < exponent then true
  else
    let power := Binary64.ofNat (Nat.pow 10 exponent.toNat)
    ((Binary64.ofNat significand).mul power).isInfinite

/-- A number without its sign. It has to fit into a double, of which its leading digits and its
power of ten decide. -/
def numberRest : Reader Unit := fun text => do
  let (whole, rest) ← wholePart .ended text
  let (fraction, rest) ← fractionPart .ended rest
  let (exponent, rest) ← exponentPart .ended rest
  let (significand, wholeLeft) := leading 0 whole
  let (significand, fractionLeft) := leading significand fraction
  let moved : Int := (wholeLeft + fractionLeft : Nat) - (fraction.length : Int)
  if tooLarge significand (exponent + moved) then .error .malformed else return ((), rest)

/-- A number that nobody wants, without its sign. It may be of any size. -/
def skipNumber : Reader Unit := fun text => do
  let (_, rest) ← wholePart .malformed text
  let (_, rest) ← fractionPart .malformed rest
  let (_, rest) ← exponentPart .malformed rest
  return ((), rest)

/-- The fault of a value that is not of the wanted shape: it is misshapen if its first token is
sound. The text starts with that token. -/
def refuse : Text → Fault
  | [] => .ended
  | c :: rest =>
    let judge : Except Fault (Unit × Text) → Fault
      | .ok _ => .misshapen
      | .error fault => fault
    if c = 'n' then judge (word ['u', 'l', 'l'] rest)
    else if c = 't' then judge (word ['r', 'u', 'e'] rest)
    else if c = 'f' then judge (word ['a', 'l', 's', 'e'] rest)
    else if c = '-' then judge (numberRest rest)
    else if c.isDigit then judge (numberRest (c :: rest))
    else if c = '"' then judge (do let (_, rest) ← stringRest rest; return ((), rest))
    else if c = '[' ∨ c = '\x7b' then .misshapen
    else .malformed

/-- A string where a string is wanted. -/
def readString : Reader Text := fun text =>
  match skipBlanks text with
  | '"' :: rest => stringRest rest
  | other => .error (refuse other)

/-- The colon between a name and its value. -/
def colon : Reader Unit := fun text =>
  match skipBlanks text with
  | ':' :: rest => .ok ((), rest)
  | [] => .error .ended
  | _ => .error .malformed

/-- The opening quote of the next name of an object, or its closing bracket. Before every name
but the first there is a comma, and there is none before the bracket. -/
def nextName (first : Bool) : Reader Bool := fun text =>
  match skipBlanks text with
  | [] => .error .ended
  | '\x7d' :: rest => .ok (false, rest)
  | '"' :: rest => if first then .ok (true, rest) else .error .malformed
  | ',' :: rest =>
    if first then .error .malformed
    else
      match skipBlanks rest with
      | [] => .error .ended
      | '"' :: rest => .ok (true, rest)
      | _ => .error .malformed
  | _ => .error .malformed

mutual

/-- Pass over a value, with at most `fuel` steps. -/
def skipValue : Nat → Reader Unit
  | 0, _ => .error .ended
  | fuel + 1, text =>
    match skipBlanks text with
    | [] => .error .ended
    | c :: rest =>
      if c = 'n' then word ['u', 'l', 'l'] rest
      else if c = 't' then word ['r', 'u', 'e'] rest
      else if c = 'f' then word ['a', 'l', 's', 'e'] rest
      else if c = '-' then skipNumber rest
      else if c.isDigit then skipNumber (c :: rest)
      else if c = '"' then skipString rest
      else if c = '[' then
        match skipBlanks rest with
        | ']' :: rest => .ok ((), rest)
        | [] => .error .ended
        | rest => skipItems fuel rest
      else if c = '\x7b' then skipFields fuel true rest
      else .error .malformed

/-- Pass over the items of an array, from an item to the closing bracket. -/
def skipItems : Nat → Reader Unit
  | 0, _ => .error .ended
  | fuel + 1, text => do
    let (_, rest) ← skipValue fuel text
    match skipBlanks rest with
    | ']' :: rest => return ((), rest)
    | ',' :: rest => skipItems fuel rest
    | [] => .error .ended
    | _ => .error .malformed

/-- Pass over the fields of an object, from a name to the closing bracket. -/
def skipFields : Nat → Bool → Reader Unit
  | 0, _, _ => .error .ended
  | fuel + 1, first, text => do
    let (more, rest) ← nextName first text
    if more then
      let (_, rest) ← skipString rest
      let (_, rest) ← colon rest
      let (_, rest) ← skipValue fuel rest
      skipFields fuel false rest
    else return ((), rest)

end

/-- Pass over a value that nobody wants. -/
def skip : Reader Unit := fun text =>
  skipValue (2 * text.length + 2) text

/-- The fields of an object up to its closing bracket, of which at most `fuel` are read, put into
what has been read before. A name that comes again keeps its place and takes the new value. -/
def entriesFrom {α : Type} (value : Reader α) :
    Nat → Bool → List (Text × α) → Reader (List (Text × α))
  | 0, _, _, _ => .error .ended
  | fuel + 1, first, found, text => do
    let (more, rest) ← nextName first text
    if more then
      let (name, rest) ← stringRest rest
      let (_, rest) ← colon rest
      let (item, rest) ← value rest
      entriesFrom value fuel false (Assoc.put name item found) rest
    else return (found, rest)

/-- An object whose values are all of one shape, where `levels` more arrays and objects may be
opened inside each other. -/
def readObject {α : Type} (levels : Nat) (value : Reader α) : Reader (List (Text × α)) := fun text =>
  match skipBlanks text with
  | '\x7b' :: rest =>
    if levels = 0 then .error .malformed else entriesFrom value (rest.length + 1) true [] rest
  | other => .error (refuse other)

/-- Whether another item of an array follows, up to that item or past the closing bracket. -/
def nextItem (first : Bool) : Reader Bool := fun text =>
  match skipBlanks text with
  | [] => .error .ended
  | ']' :: rest => .ok (false, rest)
  | c :: rest =>
    if first then .ok (true, c :: rest)
    else if c = ',' then
      match skipBlanks rest with
      | [] => .error .ended
      | ']' :: _ => .error .malformed
      | rest => .ok (true, rest)
    else .error .malformed

/-- The closing bracket of an array. -/
def closeArray : Reader Unit := fun text =>
  match skipBlanks text with
  | [] => .error .ended
  | ']' :: rest => .ok ((), rest)
  | _ => .error .malformed

/-- The whole of a text, which holds one value with blanks around it. -/
def readAll {α : Type} (value : Reader α) (text : Text) : Except Fault α := do
  let (read, rest) ← value text
  if skipBlanks rest = [] then return read else .error .malformed

end DocTags.Json
