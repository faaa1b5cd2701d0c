/-
# Terminal styles

Labels and headings are coloured when the environment forces it. The output is not taken for a
terminal otherwise, so that nothing else turns colours on.
-/

import DocTags.Settings.Environment

namespace DocTags

/-- How a label stands out. -/
inductive Style where
  | error
  | warning
  | heading
  | action

namespace Style

/-- The codes of a style. -/
def codes : Style → Text
  | error => "1;31".toList
  | warning => "33".toList
  | heading => "1;36".toList
  | action => "32".toList

/-- A text in a style, if colours are on. -/
def paint (style : Style) (coloured : Bool) (text : Text) : Text :=
  if coloured then
    ['\x1b', '['] ++ style.codes ++ ['m'] ++ text ++ ['\x1b', '[', '0', 'm']
  else text

end Style

/-- Whether the environment forces colours. -/
def Environment.forcesColour (environment : Environment) : Bool :=
  match environment.lookup "CLICOLOR_FORCE".toList with
  | some value => value != ['0']
  | none => false

/-- A styled label, a colon, a text, and the end of the line. -/
def labelled (style : Style) (coloured : Bool) (label text : Text) : Text :=
  style.paint coloured label ++ [':', ' '] ++ text ++ ['\n']

end DocTags
