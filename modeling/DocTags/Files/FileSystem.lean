/-
# File systems

What the library asks of the files around it: whether a path is a file or a directory, the text
of a file, and all files below a directory. Nothing is written.
-/

import DocTags.Files.Path
import DocTags.Text.Utf8

namespace DocTags

/-- Why a file or a directory cannot be read. -/
inductive IoFault where
  | notFound
  | permissionDenied
  | isADirectory
  | notADirectory
  | invalidData
  | invalidPath
  | nameTooLong
  | linkLoop
  | other
deriving DecidableEq

/-- The reason in the words of the system. -/
def IoFault.message : IoFault → Text
  | notFound => "No such file or directory (os error 2)".toList
  | permissionDenied => "Permission denied (os error 13)".toList
  | isADirectory => "Is a directory (os error 21)".toList
  | notADirectory => "Not a directory (os error 20)".toList
  | invalidData => "stream did not contain valid UTF-8".toList
  | invalidPath => "file name contained an unexpected NUL byte".toList
  | nameTooLong => "File name too long (os error 36)".toList
  | linkLoop => "Too many levels of symbolic links (os error 40)".toList
  | other => "input/output error".toList

/-- The reason that the system gives by a number. -/
def IoFault.ofCode : Nat → IoFault
  | 2 => notFound
  | 13 => permissionDenied
  | 20 => notADirectory
  | 21 => isADirectory
  | 36 => nameTooLong
  | 40 => linkLoop
  | _ => other

/-- The text that was read as bytes. -/
def decodeText (bytes : ByteArray) : Except IoFault Text :=
  (Text.ofUtf8? bytes).elim (.error .invalidData) .ok

/-- The files found below a directory, and the entries below it that could not be read. -/
structure Listing where
  files : List Path
  unreadable : List Path

/-- A file system, seen from one working directory. -/
structure FileSystem where
  isFile : Path → Bool
  isDir : Path → Bool
  readText : Path → Except IoFault Text
  list : Path → Except IoFault Listing

namespace FileSystem

/-- Whether something stands at a path. -/
def hasEntry (files : FileSystem) (path : Path) : Bool :=
  files.isFile path || files.isDir path

end FileSystem

end DocTags
