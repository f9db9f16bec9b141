import HostMetrics.Text.Blank
import HostMetrics.Text.Numeral
import HostMetrics.Text.Quoted

/-!
# Files

The kernel's statistics are files, and all that is asked of files here is
the text of one and whether a path is there. So the files at a moment are
two functions on paths. What lies behind them may be a directory of the
system or a table in memory; the two differ in which paths mean the same
file and in how a missing file is reported.
-/

namespace HostMetrics

open Text

/-- Why a file cannot be read. -/
inductive FileError where
  /-- There is no such file. -/
  | notFound
  /-- The path leads to a directory. -/
  | isDirectory
  /-- The path goes on behind a file. -/
  | notDirectory
  /-- The path or a name in it is longer than the system takes. -/
  | nameTooLong
  /-- The path holds the character that ends a path for the system. -/
  | nulByte
  /-- The bytes of the file are no UTF-8. -/
  | notText
  /-- The table of files does not list the path. -/
  | notListed (path : String)
  /-- The system refuses for another reason. -/
  | refused (code : Nat) (reason : String)
deriving DecidableEq, Repr

/-- The words in which it is reported. -/
def FileError.message : FileError → String
  | .notFound => "No such file or directory (os error 2)"
  | .isDirectory => "Is a directory (os error 21)"
  | .notDirectory => "Not a directory (os error 20)"
  | .nameTooLong => "File name too long (os error 36)"
  | .nulByte => "file name contained an unexpected NUL byte"
  | .notText => "stream did not contain valid UTF-8"
  | .notListed path => "file not found: " ++ quotedText path
  | .refused code reason =>
    reason ++ " (os error " ++ String.ofList (decimal code) ++ ")"

/-- Files as they are at a moment. -/
structure Files where
  /-- The text of a file. -/
  read : String → Except FileError String
  /-- Whether a path is that of a file or a directory. -/
  present : String → Bool

/-- Whether a piece between two slashes of a path names nothing. -/
def isSilent (piece : List Char) : Bool := piece = [] || piece = ['.']

/-- Files of which the outcome of reading them is known. A path that is not
listed is missing. -/
def Files.ofOutcomes (outcomes : List (String × Except FileError String)) : Files where
  read path := (outcomes.lookup path).getD (.error .notFound)
  present path :=
    match outcomes.lookup path with
    | none | some (.error .notFound) | some (.error .notDirectory)
    | some (.error .nameTooLong) | some (.error .nulByte) => false
    | some _ => true

end HostMetrics
