/-
# Accounts

The system keeps a line for each account, with fields between colons: the number of the account is
the third field and its home directory the sixth. The number of the account that a process runs
under stands in the status of the process.
-/

import DocTags.Files.Path

namespace DocTags.Account

/-- The number of the account in the status of a process. -/
def number? (status : Text) : Option Text :=
  let label := "Uid:\t".toList
  ((Text.splitOn '\n' status).find? label.isPrefixOf).map fun line =>
    (line.drop label.length).takeWhile Char.isDigit

/-- The home directory in the line of the account with a number. -/
def home? (accounts : Text) (number : Text) : Option Path :=
  (Text.splitOn '\n' accounts).findSome? fun line =>
    match Text.splitOn ':' line with
    | _ :: _ :: field :: _ :: _ :: home :: _ => if field = number then some ⟨home⟩ else none
    | _ => none

end DocTags.Account
