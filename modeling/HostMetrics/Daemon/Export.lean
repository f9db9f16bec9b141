import HostMetrics.Registry

/-!
# Exported lines

A pass is exported as one line per measurement, in the order of the
instruments and, for each, of its measurements. Each line is a JSON object,
and every line feed inside it is escaped, so the lines can be told apart
again. An instrument that failed has no lines.
-/

namespace HostMetrics.Daemon

open Json

/-- The line of one measurement. -/
def exportLine (timestamp : String) (i : Instrument) (m : Measurement) : List Char :=
  object [
    ("timestamp".toList, quoted timestamp.toList),
    ("name".toList, quoted i.name.toList),
    ("kind".toList, quoted i.kind.name.toList),
    ("unit".toList, quoted i.unit.toList),
    ("value".toList, float m.value),
    ("labels".toList, m.labels.json)]

/-- The lines of one instrument. -/
def instrumentLines (timestamp : String) (c : Collected) : List (List Char) :=
  match c.result with
  | .ok measurements => measurements.map (exportLine timestamp c.instrument)
  | .error _ => []

/-- The lines of a pass. -/
def passLines (timestamp : String) (pass : List Collected) : List (List Char) :=
  pass.flatMap (instrumentLines timestamp)

/-- The text of a pass, each of its lines ended by a line feed. -/
def passText (timestamp : String) (pass : List Collected) : List Char :=
  (passLines timestamp pass).flatMap fun line => line ++ ['\n']

/-- How many measurements a pass has. -/
def measurementCount (pass : List Collected) : Nat :=
  pass.foldr (fun c count =>
    match c.result with
    | .ok measurements => measurements.length + count
    | .error _ => count) 0

/-- How many instruments failed in a pass. -/
def failedCount (pass : List Collected) : Nat :=
  pass.countP fun c =>
    match c.result with
    | .ok _ => false
    | .error _ => true

end HostMetrics.Daemon
