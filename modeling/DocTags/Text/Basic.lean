/-
# Text

A text is the list of its Unicode scalar values. The operations here are the few that doc
comments, settings files and paths are read and written with: cutting at a separator, trimming
a class of characters at the ends, and comparing.
-/

import DocTags.Order

namespace DocTags

/-- A text, character by character. -/
abbrev Text := List Char

namespace Text

/-- The pieces of a text between the occurrences of `separator`. There is always at least one
piece, and none of them holds the separator. -/
def splitOn (separator : Char) : Text → List Text
  | [] => [[]]
  | c :: rest =>
    if c = separator then [] :: splitOn separator rest
    else
      match splitOn separator rest with
      | [] => [[c]]
      | piece :: pieces => (c :: piece) :: pieces

/-- The pieces written one after the other with `separator` between neighbours. -/
def joinWith (separator : Text) : List Text → Text
  | [] => []
  | [piece] => piece
  | piece :: next :: pieces => piece ++ separator ++ joinWith separator (next :: pieces)

/-- Every piece followed by a newline. -/
def unlines (pieces : List Text) : Text :=
  pieces.flatMap fun piece => piece ++ ['\n']

/-- The text without the longest run of `p` characters at its end. -/
def trimEnd (p : Char → Bool) (text : Text) : Text :=
  (text.reverse.dropWhile p).reverse

/-- The text without the longest runs of `p` characters at its two ends. -/
def trim (p : Char → Bool) (text : Text) : Text :=
  trimEnd p (text.dropWhile p)

/-- The number of newline characters. -/
def newlines (text : Text) : Nat :=
  text.count '\n'

theorem newlines_append (first second : Text) :
    newlines (first ++ second) = newlines first + newlines second :=
  List.count_append

/-- Equality up to the case of ASCII letters. -/
def equalIgnoringCase (s t : Text) : Bool :=
  s.map Char.toLower == t.map Char.toLower

/-- Text order compares code points from the left; a proper beginning comes first. Since UTF-8
keeps the order of code points, this is also the order of the encoded bytes. -/
def le : Text → Text → Bool :=
  lexicographicLe fun a b => a.toNat ≤ b.toNat

/-- A number in decimal digits. -/
def ofNat (n : Nat) : Text :=
  Nat.toDigits 10 n

/-- The cut at the first place where `mark` occurs: what stands before it and what after. -/
def cutAt? (mark : Text) : Text → Option (Text × Text)
  | [] => if mark = [] then some ([], []) else none
  | c :: rest =>
    match mark.isPrefixOf? (c :: rest) with
    | some after => some ([], after)
    | none => (cutAt? mark rest).map fun (before, after) => (c :: before, after)

/-- Every occurrence of `mark`, from the left and without overlaps, replaced. A skipped
character is one that belongs to an occurrence already replaced. -/
def replaceFrom (mark replacement : Text) : Nat → Text → Text
  | _, [] => []
  | skip + 1, _ :: rest => replaceFrom mark replacement skip rest
  | 0, c :: rest =>
    if mark.isPrefixOf (c :: rest) then
      replacement ++ replaceFrom mark replacement (mark.length - 1) rest
    else c :: replaceFrom mark replacement 0 rest

/-- Every occurrence of a non-empty `mark`, from the left and without overlaps, replaced. -/
def replace (mark replacement text : Text) : Text :=
  replaceFrom mark replacement 0 text

end Text

end DocTags
