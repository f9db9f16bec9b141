import HostMetrics.Daemon.Basic
import HostMetrics.Daemon.Timestamp
import HostMetrics.Daemon.Usage
import Std.Time.DateTime.Timestamp

/-!
# The program

Input and output of the daemon: its arguments, the files of the kernel, the
clock and the two streams that it writes to.
-/

namespace HostMetrics.Daemon

/-- The number of an error of the system. Some calls give it with its sign
turned. -/
def errorNumber (code : UInt32) : Nat := (min code (-code)).toNat

/-- What an error of the system says about a file. -/
def fileErrorOf : IO.Error → FileError
  | .noFileOrDirectory .. => .notFound
  | .inappropriateType _ code reason | .invalidArgument _ code reason
  | .permissionDenied _ code reason | .otherError code reason =>
    match errorNumber code with
    | 13 => .refused 13 "Permission denied"
    | 20 => .notDirectory
    | 21 => .isDirectory
    | 36 => .nameTooLong
    | number => .refused number reason
  | error => .refused 5 (toString error)

/-- Reads a file. -/
def readText (path : String) : IO (Except FileError String) := do
  try
    let bytes ← IO.FS.readBinFile path
    match String.fromUTF8? bytes with
    | some text => return .ok text
    | none => return .error .notText
  catch error => return .error (fileErrorOf error)

/-- Reads the files that the options lead to. -/
def readFiles (o : Options) : IO Files := do
  let statistics := KernelSource.fileNames.map fun name => o.procDirectory ++ "/" ++ name
  let outcomes ← (statistics ++ o.config.toList).mapM fun path => do
    return (path, ← readText path)
  return .ofOutcomes outcomes

/-- The time as text. -/
def now : IO String := do
  let moment ← Std.Time.Timestamp.now
  return timestamp moment.toMillisecondsSinceUnixEpoch.val.toNat

/-- Writes the lines and, as far as the options want them, the notes. -/
def write (o : Options) (output : Output) : IO Unit := do
  let time ← now
  let log ← IO.getStderr
  for note in output.notes do
    if o.logs note then log.putStr (time ++ " " ++ note.entry)
  let out ← IO.getStdout
  for line in output.lines do
    out.putStrLn (String.ofList line)
  out.flush

/-- Passes over the instruments, again and again unless once is enough. -/
partial def loop (o : Options) (s : State) : IO UInt32 := do
  let (result, output) := pass s (← readFiles o) (← now)
  write o output
  match result with
  | .error code => return code
  | .ok s =>
    if o.once then
      write o ⟨closing s, []⟩
      return 0
    else
      IO.sleep (1000 * o.intervalSeconds).toUInt32
      loop o s

/-- Runs the daemon with the given options. -/
def run (o : Options) : IO UInt32 := do
  let (result, output) := start o (← readFiles o)
  write o output
  match result with
  | .error code => return code
  | .ok s => loop o s

end HostMetrics.Daemon

open HostMetrics.Daemon in
/-- The program with its arguments. -/
def main (args : List String) : IO UInt32 := do
  match Options.ofArguments args with
  | .ok o => run o
  | .error .help =>
    IO.print helpText
    return 0
  | .error .version =>
    IO.println versionText
    return 0
  | .error (.fault fault) =>
    IO.eprint fault.report
    return usageCode
