import HostMetrics.Json.Shape
import HostMetrics.Json.Written
import HostMetrics.Label.Basic

/-!
# Labels as JSON

A value is written as a JSON integer or string, a label set as an object.
Reading keeps the two kinds of value apart: an integer has to fit 64 bits,
and a string stays a text even if it looks like a number. Any other value
is refused, after it was read to its end. A key may be repeated; its last
value counts.
-/

namespace HostMetrics

open Json Text

namespace LabelValue

/-- The JSON text of a value. -/
def json : LabelValue → List Char
  | int n => integer n.toInt
  | str s => quoted s.toList

/-- Whether an integer fits 64 bits with a sign. -/
def fits (n : Int) : Bool := -Int.ofNat limit63 ≤ n && n < Int.ofNat limit63

/-- The value that a token stands for. -/
def ofToken? : Token → Option LabelValue
  | .integer n => if fits n then some (int (Int64.ofInt n)) else none
  | .text s => some (str (String.ofList s))
  | _ => none

/-- Reads a value from a JSON text. -/
def ofJson (text : String) : Except Fault LabelValue :=
  let s := tokens text.toList
  match s.head?.bind ofToken? with
  | some value => finish value s.tail
  | none => .error (anyFault 0 s)

end LabelValue

namespace LabelSet

/-- The JSON text of a label set. -/
def json (s : LabelSet) : List Char :=
  object (s.entries.map fun (key, value) => (key.toList, value.json))

/-- The members of an object behind its opening brace or a comma, and what
follows its end. -/
def members : List Token → Except Fault (List Label × List Token)
  | .text key :: .colon :: t :: rest =>
    match LabelValue.ofToken? t with
    | none => .error (anyFault 1 (t :: rest))
    | some value =>
      match rest with
      | .comma :: rest =>
        match members rest with
        | .error fault => .error fault
        | .ok (labels, rest) => .ok ((String.ofList key, value) :: labels, rest)
      | .closeBrace :: rest => .ok ([(String.ofList key, value)], rest)
      | rest => .error (markFault rest)
  | .text _ :: .colon :: [] => .error .truncated
  | .text _ :: rest => .error (markFault rest)
  | rest => .error (keyFault rest)

/-- Reads the labels of a JSON text, in the order in which they stand there. -/
def labelsOfJson (text : String) : Except Fault (List Label) :=
  match tokens text.toList with
  | .openBrace :: .closeBrace :: rest => finish [] rest
  | .openBrace :: rest =>
    match members rest with
    | .error fault => .error fault
    | .ok (labels, rest) => finish labels rest
  | s => .error (kindFault s)

/-- Reads a label set from a JSON text. -/
def ofJson (text : String) : Except Fault LabelSet := (labelsOfJson text).map ofList

end LabelSet

end HostMetrics
