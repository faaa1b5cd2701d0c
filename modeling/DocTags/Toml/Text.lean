/-
# Keys and strings of TOML

The tokens that hold text: blanks and comments, the four kinds of strings, and keys.
-/

import DocTags.Text.Digits

namespace DocTags.Toml

/-- A reader takes something from the front of a text and leaves the rest. -/
abbrev Reader (α : Type) := Text → Option (α × Text)

/-- The characters that stand between tokens of a line. -/
def isBlank (c : Char) : Bool :=
  c == ' ' || c == '\t'

/-- The characters that may stand for themselves: all but the controls, of which the tab is
allowed. -/
def isPlain (c : Char) : Bool :=
  c == '\t' || (0x20 ≤ c.toNat && c.toNat != 0x7f)

/-- The text without the blanks that it starts with. -/
def skipBlanks (text : Text) : Text :=
  text.dropWhile isBlank

/-- A line break, which may have a carriage return in front. -/
def newline : Reader Unit
  | '\n' :: rest => some ((), rest)
  | '\r' :: '\n' :: rest => some ((), rest)
  | _ => none

/-- The text without the comment that it starts with, if it starts with one. -/
def skipComment : Text → Text
  | '#' :: rest => rest.dropWhile isPlain
  | text => text

/-- What ends a line: blanks, a comment, and a line break or the end of the text. -/
def lineEnd : Reader Unit := fun text =>
  match skipComment (skipBlanks text) with
  | [] => some ((), [])
  | rest => newline rest

/-- The text without the blanks, comments and line breaks that it starts with, where `inComment`
holds behind the start of a comment. -/
def skipFrom (inComment : Bool) : Text → Text
  | [] => []
  | '\n' :: rest => skipFrom false rest
  | '\r' :: '\n' :: rest => skipFrom false rest
  | c :: rest =>
    if inComment then if isPlain c then skipFrom true rest else c :: rest
    else if isBlank c then skipFrom false rest
    else if c = '#' then skipFrom true rest
    else c :: rest

/-- The text without the blanks, comments and line breaks that it starts with. -/
def skipSpace (text : Text) : Text :=
  skipFrom false text

/-- The character with the code point that `count` hexadecimal digits write. -/
def codePoint (count : Nat) : Reader Char := fun text =>
  let digits := text.take count
  if digits.length = count ∧ digits.all fun c => (Text.digit? c).isSome then
    let code := Text.numberIn 16 digits
    if code.isValidChar then some (Char.ofNat code, text.drop count) else none
  else none

/-- What follows a backslash. -/
def escape : Reader Char
  | 'b' :: rest => some ('\x08', rest)
  | 't' :: rest => some ('\t', rest)
  | 'n' :: rest => some ('\n', rest)
  | 'f' :: rest => some ('\x0c', rest)
  | 'r' :: rest => some ('\r', rest)
  | '"' :: rest => some ('"', rest)
  | '\\' :: rest => some ('\\', rest)
  | 'u' :: rest => codePoint 4 rest
  | 'U' :: rest => codePoint 8 rest
  | _ => none

/-- The characters of a string between double quotes up to the closing one, of which at most
`fuel` are read. -/
def basicChars : Nat → Reader Text
  | 0, _ => none
  | _ + 1, [] => none
  | _ + 1, '"' :: rest => some ([], rest)
  | fuel + 1, '\\' :: rest => do
    let (c, rest) ← escape rest
    let (chars, rest) ← basicChars fuel rest
    return (c :: chars, rest)
  | fuel + 1, c :: rest =>
    if isPlain c then do
      let (chars, rest) ← basicChars fuel rest
      return (c :: chars, rest)
    else none

/-- The characters of a string between single quotes up to the closing one. -/
def literalChars : Reader Text
  | [] => none
  | '\'' :: rest => some ([], rest)
  | c :: rest =>
    if isPlain c then do
      let (chars, rest) ← literalChars rest
      return (c :: chars, rest)
    else none

/-- The text without the blanks and line breaks that it starts with. -/
def skipBlankLines : Text → Text
  | '\n' :: rest => skipBlankLines rest
  | '\r' :: '\n' :: rest => skipBlankLines rest
  | c :: rest => if isBlank c then skipBlankLines rest else c :: rest
  | [] => []

/-- What follows a backslash at the end of a line: the line break, and all blanks and line breaks
after it. -/
def joinedLine : Reader Unit := fun text => do
  let (_, rest) ← newline (skipBlanks text)
  return ((), skipBlankLines rest)

/-- The characters of a string between three double quotes up to the closing ones, of which at
most `fuel` are read. One or two quotes may stand anywhere, also in front of the closing ones. -/
def longBasicChars : Nat → Reader Text
  | 0, _ => none
  | _ + 1, '"' :: '"' :: '"' :: '"' :: '"' :: rest => some (['"', '"'], rest)
  | _ + 1, '"' :: '"' :: '"' :: '"' :: rest => some (['"'], rest)
  | _ + 1, '"' :: '"' :: '"' :: rest => some ([], rest)
  | fuel + 1, '\\' :: rest =>
    match joinedLine rest with
    | some (_, rest) => longBasicChars fuel rest
    | none => do
      let (c, rest) ← escape rest
      let (chars, rest) ← longBasicChars fuel rest
      return (c :: chars, rest)
  | fuel + 1, text =>
    match newline text, text with
    | some (_, rest), _ => do
      let (chars, rest) ← longBasicChars fuel rest
      return ('\n' :: chars, rest)
    | none, c :: rest =>
      if isPlain c then do
        let (chars, rest) ← longBasicChars fuel rest
        return (c :: chars, rest)
      else none
    | none, [] => none

/-- The characters of a string between three single quotes up to the closing ones, of which at
most `fuel` are read. -/
def longLiteralChars : Nat → Reader Text
  | 0, _ => none
  | _ + 1, '\'' :: '\'' :: '\'' :: '\'' :: '\'' :: rest => some (['\'', '\''], rest)
  | _ + 1, '\'' :: '\'' :: '\'' :: '\'' :: rest => some (['\''], rest)
  | _ + 1, '\'' :: '\'' :: '\'' :: rest => some ([], rest)
  | fuel + 1, text =>
    match newline text, text with
    | some (_, rest), _ => do
      let (chars, rest) ← longLiteralChars fuel rest
      return ('\n' :: chars, rest)
    | none, c :: rest =>
      if isPlain c then do
        let (chars, rest) ← longLiteralChars fuel rest
        return (c :: chars, rest)
      else none
    | none, [] => none

/-- The text without a line break at its start. -/
def skipNewline (text : Text) : Text :=
  match newline text with
  | some (_, rest) => rest
  | none => text

/-- A string of any kind. A line break right after three opening quotes does not count. -/
def string : Reader Text
  | '"' :: '"' :: '"' :: rest => longBasicChars (rest.length + 1) (skipNewline rest)
  | '"' :: rest => basicChars (rest.length + 1) rest
  | '\'' :: '\'' :: '\'' :: rest => longLiteralChars (rest.length + 1) (skipNewline rest)
  | '\'' :: rest => literalChars rest
  | _ => none

/-- The characters of a key without quotes. -/
def isKeyChar (c : Char) : Bool :=
  c.isAlphanum || c == '_' || c == '-'

/-- One key between dots. -/
def simpleKey : Reader Text
  | '"' :: rest => basicChars (rest.length + 1) rest
  | '\'' :: rest => literalChars rest
  | text =>
    match text.takeWhile isKeyChar with
    | [] => none
    | key => some (key, text.dropWhile isKeyChar)

/-- Keys with dots between them and blanks around them, of which at most `fuel` are read. -/
def keysFrom : Nat → Reader (List Text)
  | 0, _ => none
  | fuel + 1, text => do
    let (key, rest) ← simpleKey (skipBlanks text)
    match skipBlanks rest with
    | '.' :: rest =>
      let (keys, rest) ← keysFrom fuel rest
      return (key :: keys, rest)
    | rest => return ([key], rest)

/-- How deep keys and values may be nested. -/
def nestingLimit : Nat :=
  79

/-- Keys with dots between them and blanks around them. -/
def keys : Reader (List Text) :=
  keysFrom nestingLimit

end DocTags.Toml
