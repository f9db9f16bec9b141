import HostMetrics.Files.Basic

/-!
# A table of files

Files in memory, each under a path. Paths are compared part by part: a
slash more or less between two parts or at the end makes no difference, and
neither does a dot as a part, unless a path starts with it. Two dots are a
part like any other.

The directories around a file are there from the moment the file is
written, and they stay when it is removed.
-/

namespace HostMetrics

/-- A path, taken apart. -/
structure Path where
  /-- Whether the path starts at the root. -/
  rooted : Bool
  /-- The parts between the slashes. -/
  parts : List (List Char)
deriving DecidableEq, Repr

namespace Path

/-- The path that a text denotes. -/
def ofText (s : String) : Path :=
  match s.toList.splitOn '/' with
  | [] :: [] => ⟨false, []⟩
  | [] :: pieces => ⟨true, pieces.filter fun piece => !isSilent piece⟩
  | ['.'] :: pieces => ⟨false, ['.'] :: pieces.filter fun piece => !isSilent piece⟩
  | pieces => ⟨false, pieces.filter fun piece => !isSilent piece⟩

/-- Whether `p` is a directory around `q`. The path without parts that does
not start at the root is none. -/
def isAround (p q : Path) : Bool :=
  (p.rooted || p.parts ≠ []) && p.rooted == q.rooted
    && p.parts.isPrefixOf q.parts && p.parts.length < q.parts.length

end Path

/-- Files in memory. -/
structure FileTable where
  /-- The text under a path. -/
  text? : Path → Option String
  /-- Whether a path is that of a directory. -/
  isDirectory : Path → Bool

namespace FileTable

/-- The table without files. -/
def empty : FileTable := ⟨fun _ => none, fun _ => false⟩

/-- The table with a file written, whether it was there before or not. -/
def write (t : FileTable) (path text : String) : FileTable where
  text? p := if p = .ofText path then some text else t.text? p
  isDirectory p := p.isAround (.ofText path) || t.isDirectory p

/-- The table without the file under a path. -/
def remove (t : FileTable) (path : String) : FileTable where
  text? p := if p = .ofText path then none else t.text? p
  isDirectory := t.isDirectory

/-- The table with several files written one after the other. -/
def writeAll (t : FileTable) (files : List (String × String)) : FileTable :=
  files.foldl (fun t file => t.write file.1 file.2) t

/-- The files of a table. -/
def files (t : FileTable) : Files where
  read path :=
    match t.text? (.ofText path) with
    | some text => .ok text
    | none => .error (.notListed path)
  present path := (t.text? (.ofText path)).isSome || t.isDirectory (.ofText path)

@[simp] theorem isDirectory_write (t : FileTable) (path text : String) (p : Path) :
    (t.write path text).isDirectory p = (p.isAround (.ofText path) || t.isDirectory p) := rfl

@[simp] theorem isDirectory_remove (t : FileTable) (path : String) :
    (t.remove path).isDirectory = t.isDirectory := rfl

end FileTable

end HostMetrics
