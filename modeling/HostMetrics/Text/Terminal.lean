/-!
# Texts without orders to a terminal

A terminal shows most characters and obeys the others. It obeys a control
at once, and an escape together with what follows it, up to the end of the
sequence that it starts. `plainText` is what a text shows: without controls
and without sequences. Tabs and ends of lines are controls that it keeps.

A sequence is left out by how it begins and ends, whatever it would mean.
There are three ways to end: short ones end at their first letter, a command
to the system at a bell, and a passage for a device or a program at a
string terminator. A tab or an end of line inside a short one interrupts
it: what follows is shown up to the next control, and there the sequence
goes on.
-/

namespace HostMetrics.Text

/-- Whether a character is a control that a text is laid out with. -/
def isLayout (c : Char) : Bool := c = '\t' || c = '\n' || c = '\x0c' || c = '\r'

/-- Whether a character is shown where no sequence is under way. -/
def isShown (c : Char) : Bool := (0x20 ≤ c.toNat && c.toNat ≠ 0x7F) || isLayout c

/-- Whether the UTF-8 form of a character contains the byte of the string
terminator. -/
def hasTerminator (c : Char) : Bool := c.toString.toUTF8.toList.contains 0x9C

/-- How far a terminal is in a sequence. -/
inductive Sequence where
  /-- In none. -/
  | outside
  /-- Behind the escape. -/
  | escape
  /-- Behind an escape and marks that narrow its meaning. -/
  | narrowed
  /-- In the parameters of an order to the terminal. -/
  | order
  /-- At the start of what is meant for a device. -/
  | device
  /-- In the parameters for a device. -/
  | deviceParameters
  /-- In the marks behind the parameters for a device. -/
  | deviceMarks
  /-- In a passage that goes on to a string terminator. -/
  | passage
  /-- In a command to the system, which goes on to a bell. -/
  | command
deriving DecidableEq, Repr

namespace Sequence

/-- What a sequence is begun with by the character behind the escape. -/
def ofFirst (c : Char) : Sequence :=
  match c with
  | '[' => order
  | ']' => command
  | 'P' => device
  | 'X' | '^' | '_' => passage
  | _ => outside

/-- Where a character leads that does not begin or cancel a sequence. -/
def advance (s : Sequence) (c : Char) : Sequence :=
  let n := c.toNat
  let isMark := 0x20 ≤ n && n ≤ 0x2F
  match s with
  | outside => outside
  | escape =>
    if n < 0x20 || 0x7F ≤ n then escape else if isMark then narrowed else ofFirst c
  | narrowed => if 0x30 ≤ n && n ≤ 0x7E then outside else narrowed
  | order => if 0x40 ≤ n && n ≤ 0x7E then outside else order
  | device =>
    if isMark then deviceMarks
    else if 0x30 ≤ n && n ≤ 0x3F then deviceParameters
    else if 0x40 ≤ n && n ≤ 0x7E then passage
    else device
  | deviceParameters =>
    if isMark then deviceMarks
    else if 0x3C ≤ n && n ≤ 0x7E then passage
    else deviceParameters
  | deviceMarks => if 0x30 ≤ n && n ≤ 0x7E then passage else deviceMarks
  | passage => if hasTerminator c then outside else passage
  | command => if c = '\x07' then outside else command

/-- Where a character leads. An escape begins a sequence wherever it stands,
and two of the controls cancel one. -/
def next (s : Sequence) (c : Char) : Sequence :=
  if c = '\x1b' then escape
  else if c = '\x18' || c = '\x1a' then outside
  else s.advance c

/-- Whether a character is shown in a sequence, and what follows it. -/
def shows (s : Sequence) (c : Char) : Bool :=
  match s with
  | outside => isShown c
  | escape | narrowed | order => isLayout c
  | _ => false

end Sequence

/-- What a text shows from a place in a sequence on. `showing` tells whether
the sequence is interrupted. -/
def plainFrom (s : Sequence) (showing : Bool) : List Char → List Char
  | [] => []
  | c :: rest =>
    if (if showing then isShown c else s.shows c) then
      c :: plainFrom (if c.toNat < 0x80 then s else .outside) true rest
    else plainFrom (s.next c) false rest

/-- What a text shows. -/
def plainText (s : String) : String := String.ofList (plainFrom .outside false s.toList)

end HostMetrics.Text
