/-
# Lower case

The lower-case form of a text under the full Unicode rules: each character by itself, except that
a capital dotted I keeps its dot as a separate mark, and that a capital sigma at the end of a word
takes its final form.
-/

import DocTags.Text.Basic
import DocTags.Text.CaseData

namespace DocTags.Text

/-- The run that holds a code point, if it has another lower-case form. -/
def CaseRun.holds (run : CaseRun) (n : Nat) : Bool :=
  run.first ≤ n && n ≤ run.last && (n - run.first) % run.step == 0

/-- The lower-case form of a character by itself. -/
def lowerChar (c : Char) : Text :=
  if c.toNat < 0x80 then [c.toLower]
  else if c = '\u0130' then ['i', '\u0307']
  else
    match caseRuns.find? (·.holds c.toNat) with
    | some run => [Char.ofNat (c.toNat + run.shift).toNat]
    | none => [c]

/-- Whether the first character that is not passed over has case. -/
def meetsCased (text : Text) : Bool :=
  match text.dropWhile caseIgnorableRanges.contains with
  | [] => false
  | c :: _ => casedRanges.contains c

/-- The lower-case form of what follows `before`, which is given from right to left. A capital
sigma is final when a cased character stands before it and none after. -/
def lowerAfter (before : Text) : Text → Text
  | [] => []
  | c :: rest =>
    let lowered :=
      if c = '\u03a3' then
        if meetsCased before && !meetsCased rest then ['\u03c2'] else ['\u03c3']
      else lowerChar c
    lowered ++ lowerAfter (c :: before) rest

/-- The lower-case form of a text. -/
def lowercase (text : Text) : Text :=
  lowerAfter [] text

end DocTags.Text
