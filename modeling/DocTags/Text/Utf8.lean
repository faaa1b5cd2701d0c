/-
# Bytes as text

Files and streams hold bytes. They are read as UTF-8, and bytes that are not UTF-8 are no text.
-/

import DocTags.Text.Basic

namespace DocTags.Text

/-- The text that some bytes encode. -/
def ofUtf8? (bytes : ByteArray) : Option Text :=
  (String.fromUTF8? bytes).map String.toList

/-- The number of bytes that a text takes. -/
def utf8Size (text : Text) : Nat :=
  text.foldr (fun c size => c.utf8Size + size) 0

end DocTags.Text
