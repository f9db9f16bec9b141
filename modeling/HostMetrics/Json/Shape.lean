import HostMetrics.Json.Token

/-!
# What is wrong with a JSON text

A reader of this library knows which tokens it accepts at each place. This
module tells the fault of any other token there. Where a value of some kind
is expected, a value of another kind is *unexpected*, and anything that
starts no value is *malformed*; at the places between values, any token
but the right one is malformed.

A value that may be of any kind is taken in whole before it is judged. So
a list or an object in such a place is followed to its end: its fault is
the first one inside, or else that it is no scalar
(`Json.containerFault`). Lists and objects stand at most 127 deep.
-/

namespace HostMetrics.Json

/-- The fault of a text that does not go on with the punctuation mark that
has to follow. -/
def markFault : List Token → Fault
  | [] => .truncated
  | _ => .malformed

/-- The fault of a text that goes on with another kind of value than it
has to. -/
def kindFault : List Token → Fault
  | [] => .truncated
  | .broken _ fault :: _ => fault
  | .closeBrace :: _ | .closeBracket :: _ | .colon :: _ | .comma :: _ => .malformed
  | _ => .unexpected

/-- The fault of a text that does not go on with a string where nothing but
a key or a name can stand. -/
def keyFault : List Token → Fault
  | [] => .truncated
  | .broken '"' fault :: _ => fault
  | _ => .malformed

/-- The value of a text of which nothing is left but `rest`. -/
def finish {α : Type} (value : α) (rest : List Token) : Except Fault α :=
  if rest.isEmpty then .ok value else .error .malformed

/-! ## Lists and objects of any kind -/

/-- The two kinds of container. -/
inductive Container where
  | list | object
deriving DecidableEq

/-- What may come next inside a container. -/
inductive Place where
  /-- A value. -/
  | value
  /-- The first value of a list, or its end. -/
  | firstValue
  /-- A key. -/
  | key
  /-- The first key of an object, or its end. -/
  | firstKey
  /-- The colon behind a key. -/
  | colon
  /-- A comma, or the end of the container. -/
  | separator
deriving DecidableEq

/-- How deep lists and objects may stand in each other. -/
def depthLimit : Nat := 127

/-- The containers and the place after a token that starts a value. -/
def startValue (outer : Nat) (stack : List Container) :
    Token → Except Fault (List Container × Place)
  | .openBrace =>
    if depthLimit ≤ outer + stack.length then .error .malformed
    else .ok (.object :: stack, .firstKey)
  | .openBracket =>
    if depthLimit ≤ outer + stack.length then .error .malformed
    else .ok (.list :: stack, .firstValue)
  | .broken _ fault => .error fault
  | .closeBrace | .closeBracket | .colon | .comma => .error .malformed
  | _ => .ok (stack, .separator)

/-- The containers and the place after a token that has to be a key. -/
def startKey (stack : List Container) : Token → Except Fault (List Container × Place)
  | .text _ => .ok (stack, .colon)
  | .broken '"' fault => .error fault
  | _ => .error .malformed

/-- The containers and the place after the token `t`, when the innermost
container is `top` and those around it are `below`. -/
def advance (outer : Nat) (top : Container) (below : List Container) (place : Place)
    (t : Token) : Except Fault (List Container × Place) :=
  match place with
  | .value => startValue outer (top :: below) t
  | .firstValue =>
    if t = .closeBracket then .ok (below, .separator) else startValue outer (top :: below) t
  | .key => startKey (top :: below) t
  | .firstKey => if t = .closeBrace then .ok (below, .separator) else startKey (top :: below) t
  | .colon => if t = .colon then .ok (top :: below, .value) else .error .malformed
  | .separator =>
    match top, t with
    | .list, .comma => .ok (top :: below, .value)
    | .list, .closeBracket => .ok (below, .separator)
    | .object, .comma => .ok (top :: below, .key)
    | .object, .closeBrace => .ok (below, .separator)
    | _, _ => .error .malformed

/-- The fault of a text inside containers, the innermost one first, of
which `outer` more are around. A text that closes all of them without a
fault is no scalar. -/
def containerFault (outer : Nat) : List Container → Place → List Token → Fault
  | [], _, _ => .unexpected
  | _ :: _, _, [] => .truncated
  | top :: below, place, t :: rest =>
    match advance outer top below place t with
    | .error fault => fault
    | .ok (stack, place) => containerFault outer stack place rest

/-- The fault of a text that goes on with a value that is no scalar of the
right kind, when a value of any kind is allowed. -/
def anyFault (outer : Nat) : List Token → Fault
  | .openBrace :: rest =>
    if depthLimit ≤ outer then .malformed else containerFault outer [.object] .firstKey rest
  | .openBracket :: rest =>
    if depthLimit ≤ outer then .malformed else containerFault outer [.list] .firstValue rest
  | s => kindFault s

/-! ## Names -/

/-- Reads one of a fixed set of names: a string, or an object whose only
key is the name and whose value is `null`. -/
def readName {α : Type} (ofName? : String → Option α) (s : List Token) : Except Fault α :=
  match s with
  | .text name :: rest =>
    match ofName? (String.ofList name) with
    | none => .error .unexpected
    | some value => finish value rest
  | .openBrace :: .text name :: rest =>
    match ofName? (String.ofList name) with
    | none => .error .unexpected
    | some value =>
      match rest with
      | .colon :: .null :: .closeBrace :: rest => finish value rest
      | .colon :: .null :: rest => .error (markFault rest)
      | .colon :: rest => .error (kindFault rest)
      | rest => .error (markFault rest)
  | .openBrace :: rest => .error (keyFault rest)
  | s => .error (keyFault s)

end HostMetrics.Json
