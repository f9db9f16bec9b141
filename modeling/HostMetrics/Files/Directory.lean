import HostMetrics.Files.Basic

/-!
# A directory of the system

The files below one directory, as the operating system shows them: a path
is walked piece by piece from that directory, and each piece but the last
has to lead to a directory. Two dots lead back up, and a path that starts
at the root starts above the directory. Of what is above only the
directories themselves are known, so every name there counts as missing.

The system changes a directory along the same walk that it reads it by. So
a path with a slash behind its last name is that of a directory, and no
file is written or removed under it.
-/

namespace HostMetrics

open Text

/-- What a path leads to. -/
inductive FileNode where
  /-- A directory. -/
  | directory
  /-- A file with its bytes. -/
  | file (bytes : ByteArray)

/-- The files below a directory, by the names on the way to them. -/
structure Directory where
  /-- What the names lead to, if it is there. -/
  node? : List (List Char) → Option FileNode

namespace Directory

/-- The directory without files. -/
def empty : Directory := ⟨fun names => if names = [] then some .directory else none⟩

/-! ## Places -/

/-- A place that a path comes to on its way. -/
inductive Spot where
  /-- A directory above the one whose files are known. -/
  | above
  /-- What names lead to from that one. -/
  | below (names : List (List Char))
deriving DecidableEq

/-- What is at a place, if anything is. -/
def at? (d : Directory) : Spot → Option FileNode
  | .above => some .directory
  | .below names => d.node? names

/-- How many bytes a name may have. -/
def nameLimit : Nat := 255

/-- How many bytes a path may have. -/
def pathLimit : Nat := 4095

namespace Spot

/-- The place that two dots lead to. -/
def parent : Spot → Spot
  | above | below [] => above
  | below names => below names.dropLast

/-- The place that a name leads to, unless nothing is known of it. -/
def child (name : List Char) : Spot → Except FileError Spot
  | above => .error .notFound
  | below names => .ok (below (names ++ [name]))

/-- The place that a piece of a path leads to from a directory. A name that
is too long is refused, whatever is there. -/
def step (here : Spot) (piece : List Char) : Except FileError Spot :=
  if isSilent piece then .ok here
  else if piece = ['.', '.'] then .ok here.parent
  else if nameLimit < byteLength piece then .error .nameTooLong
  else here.child piece

end Spot

/-! ## Following a path -/

/-- Where a path starts, and its pieces. A path that the system would not
look at has none. -/
def route (path : String) : Except FileError (Spot × List (List Char)) :=
  if path.toList.contains '\x00' then .error .nulByte
  else if pathLimit < byteLength path.toList then .error .nameTooLong
  else
    match path.toList with
    | '/' :: s => .ok (.above, s.splitOn '/')
    | s => .ok (.below [], s.splitOn '/')

/-- Follows the pieces of a path from a place. -/
def walk (d : Directory) (here : Spot) : List (List Char) → Except FileError (Spot × FileNode)
  | [] =>
    match d.at? here with
    | none => .error .notFound
    | some node => .ok (here, node)
  | piece :: pieces =>
    match d.at? here with
    | none => .error .notFound
    | some (.file _) => .error .notDirectory
    | some .directory =>
      match here.step piece with
      | .error cause => .error cause
      | .ok there => walk d there pieces

/-- The place that a path leads to, and what is there. -/
def resolve (d : Directory) (path : String) : Except FileError (Spot × FileNode) :=
  match route path with
  | .error cause => .error cause
  | .ok (start, pieces) => d.walk start pieces

/-- The files of a directory. -/
def files (d : Directory) : Files where
  read path :=
    match d.resolve path with
    | .error cause => .error cause
    | .ok (_, .directory) => .error .isDirectory
    | .ok (_, .file bytes) =>
      match String.fromUTF8? bytes with
      | none => .error .notText
      | some text => .ok text
  present path :=
    match d.resolve path with
    | .error _ => false
    | .ok _ => true

/-! ## Changing a directory

A change that the system would refuse, such as writing a file where a
directory is, leaves the directory as it was. -/

/-- The directory with a node at a place, if that lies in a directory. -/
def place (d : Directory) (spot : Spot) (node : FileNode) : Directory :=
  match spot with
  | .above | .below [] => d
  | .below names =>
    match d.node? names.dropLast with
    | some .directory => ⟨fun p => if p = names then some node else d.node? p⟩
    | _ => d

/-- The directory with a directory made wherever the pieces of a path lead
to nothing, up to a piece that is refused. -/
def makeAlong (d : Directory) (here : Spot) : List (List Char) → Directory
  | [] => d
  | piece :: pieces =>
    match here.step piece with
    | .error _ => d
    | .ok there =>
      let made := if (d.at? there).isSome then d else d.place there .directory
      match made.at? there with
      | some .directory => makeAlong made there pieces
      | _ => made

/-- The pieces of a path in front of its last name. -/
def leading (pieces : List (List Char)) : List (List Char) :=
  (pieces.reverse.dropWhile isSilent).tail.reverse

/-- The pieces of a path behind its last name. -/
def trailing (pieces : List (List Char)) : List (List Char) :=
  (pieces.reverse.takeWhile isSilent).reverse

/-- The directory with a directory made at a path, and those around it. None
is made by way of the dot in it. -/
def make (d : Directory) (path : String) : Directory :=
  match route path with
  | .error _ => d
  | .ok (start, pieces) =>
    d.makeAlong start (if (trailing pieces).contains ['.'] then leading pieces else pieces)

/-- The directory with a file written under a name, if there is no
directory of that name. -/
def writeName (d : Directory) (here : Spot) (name : List Char) (bytes : ByteArray) :
    Directory :=
  match here.step name with
  | .error _ => d
  | .ok there =>
    match d.at? there with
    | some .directory => d
    | _ => d.place there (.file bytes)

/-- The directory with a file written, and the directories around it made. -/
def write (d : Directory) (path : String) (bytes : ByteArray) : Directory :=
  match route path with
  | .error _ => d
  | .ok (start, pieces) =>
    let made := d.makeAlong start (leading pieces)
    match made.walk start pieces.dropLast, pieces.getLast? with
    | .ok (here, .directory), some name => made.writeName here name bytes
    | _, _ => made

/-- The directory without the file at a path. -/
def remove (d : Directory) (path : String) : Directory :=
  match d.resolve path with
  | .ok (.below names, .file _) => ⟨fun p => if p = names then none else d.node? p⟩
  | _ => d

end Directory

end HostMetrics
