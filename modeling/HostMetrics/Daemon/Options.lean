import HostMetrics.Label.Basic
import HostMetrics.Text.Blank

/-!
# The command line

Options have a long name behind two dashes, most of them also a letter
behind one. A switch takes no value. A setting takes one, either attached
(`--name=value`, `-nvalue`, `-n=value`) or as the next argument, unless that
looks like an option itself. Letters of switches can be written together,
with one setting at their end.

A value that stands on its own is looked at late, when the next option is
accepted or the arguments end. So of two faults the one of such a value can
come second: an unknown option behind it is reported first.
-/

namespace HostMetrics.Daemon

open Text

/-- An option without a value. -/
inductive Switch where
  | once | verbose | quiet | help | version
deriving DecidableEq, Repr

/-- An option with a value. -/
inductive Setting where
  | interval | procPath | config | label
deriving DecidableEq, Repr

/-- An option. -/
inductive OptionName where
  | switch (s : Switch)
  | setting (s : Setting)
deriving DecidableEq, Repr

/-- The option with a long name. -/
def OptionName.ofLong? : String → Option OptionName
  | "interval" => some (.setting .interval)
  | "proc-path" => some (.setting .procPath)
  | "config" => some (.setting .config)
  | "label" => some (.setting .label)
  | "once" => some (.switch .once)
  | "verbose" => some (.switch .verbose)
  | "quiet" => some (.switch .quiet)
  | "help" => some (.switch .help)
  | "version" => some (.switch .version)
  | _ => none

/-- The option with a letter. -/
def OptionName.ofLetter? : Char → Option OptionName
  | 'i' => some (.setting .interval)
  | 'c' => some (.setting .config)
  | 'l' => some (.setting .label)
  | 'v' => some (.switch .verbose)
  | 'q' => some (.switch .quiet)
  | 'h' => some (.switch .help)
  | 'V' => some (.switch .version)
  | _ => none

/-! ## Labels -/

/-- What is wrong with a label argument. -/
inductive LabelFault where
  /-- It has no equals sign. -/
  | noEquals (text : String)
  /-- Nothing but blanks stands before its first equals sign. -/
  | emptyKey (text : String)
deriving DecidableEq, Repr

/-- The words in which it is reported. -/
def LabelFault.message : LabelFault → String
  | .noEquals text => "invalid label '" ++ text ++ "': expected KEY=VALUE"
  | .emptyKey text => "invalid label '" ++ text ++ "': empty key"

/-- The label that an argument stands for. Blanks around the key are no part
of it; the value is taken as it is. -/
def labelOf (text : String) : Except LabelFault Label :=
  match cutAt '=' text.toList with
  | none => .error (.noEquals text)
  | some (key, value) =>
    if trim key = [] then .error (.emptyKey text)
    else .ok (String.ofList (trim key), .str (String.ofList value))

/-! ## Options -/

/-- The options that were given. -/
structure Options where
  /-- The seconds between two passes. -/
  interval : Option Nat
  /-- The directory of the kernel's statistics. -/
  procPath : Option String
  /-- The file of the configuration. -/
  config : Option String
  /-- The base labels, in the order in which they were given. -/
  labels : List Label
  /-- Whether to stop after one pass. -/
  once : Bool
  /-- How often more messages were asked for. -/
  verbosity : Nat
  /-- Whether only errors are logged. -/
  quiet : Bool
deriving DecidableEq, Repr

namespace Options

/-- No options. -/
def initial : Options := ⟨none, none, none, [], false, 0, false⟩

/-- The interval in force. -/
def intervalSeconds (o : Options) : Nat := o.interval.getD 10

/-- The directory in force. -/
def procDirectory (o : Options) : String := o.procPath.getD "/proc"

end Options

/-- What is wrong with a command line. -/
inductive UsageFault where
  /-- An argument is no option and no value of one. -/
  | unexpectedArgument (argument : String)
  /-- A switch has a value. -/
  | unexpectedValue (argument : String)
  /-- A setting has no value. -/
  | missingValue (setting : Setting)
  /-- An option that can be given once is given twice. -/
  | repeated (option : OptionName)
  /-- The interval is no positive number of 64 bits. -/
  | badInterval (value : String)
  /-- The name of the configuration file is empty. -/
  | emptyPath
  /-- A label is not of its form. -/
  | badLabel (fault : LabelFault)
deriving DecidableEq, Repr

/-- Why arguments do not end in options. -/
inductive Stop where
  /-- There is a fault. -/
  | fault (fault : UsageFault)
  /-- The options are asked for. -/
  | help
  /-- The version is asked for. -/
  | version
deriving DecidableEq, Repr

/-- Options while arguments are read. -/
structure Scan where
  /-- The options so far. -/
  options : Options
  /-- A setting whose value was not looked at yet, or is still to come. -/
  pending : Option (Setting × Option String)

namespace Scan

/-- Sets an option to a value. -/
def assign (o : Options) (setting : Setting) (value : String) : Except UsageFault Options :=
  match setting with
  | .interval =>
    if o.interval.isSome then .error (.repeated (.setting .interval))
    else
      match word? value.toList with
      | some n => if n = 0 then .error (.badInterval value) else .ok { o with interval := some n }
      | none => .error (.badInterval value)
  | .procPath =>
    if o.procPath.isSome then .error (.repeated (.setting .procPath))
    else .ok { o with procPath := some value }
  | .config =>
    if o.config.isSome then .error (.repeated (.setting .config))
    else if value = "" then .error .emptyPath
    else .ok { o with config := some value }
  | .label =>
    match labelOf value with
    | .ok label => .ok { o with labels := o.labels ++ [label] }
    | .error fault => .error (.badLabel fault)

/-- Looks at the pending value. -/
def settle (r : Scan) : Except Stop Scan :=
  match r.pending with
  | none => .ok r
  | some (setting, none) => .error (.fault (.missingValue setting))
  | some (setting, some value) =>
    match assign r.options setting value with
    | .ok options => .ok ⟨options, none⟩
    | .error fault => .error (.fault fault)

/-- Turns a switch on. -/
def turnOn (o : Options) : Switch → Except Stop Options
  | .once =>
    if o.once then .error (.fault (.repeated (.switch .once))) else .ok { o with once := true }
  | .verbose => .ok { o with verbosity := o.verbosity + 1 }
  | .quiet =>
    if o.quiet then .error (.fault (.repeated (.switch .quiet))) else .ok { o with quiet := true }
  | .help => .error .help
  | .version => .error .version

/-- Reads a switch. -/
def switch (r : Scan) (s : Switch) : Except Stop Scan := do
  let r ← r.settle
  let options ← turnOn r.options s
  return { r with options }

/-- Reads a setting with its value, or without one yet. -/
def setting (r : Scan) (s : Setting) (value : Option String) : Except Stop Scan := do
  let r ← r.settle
  let r : Scan := { r with pending := some (s, value) }
  if value.isSome then r.settle else return r

/-- Reads letters that stand together. `argument` is all of them. -/
def letters (argument : String) (r : Scan) : List Char → Except Stop Scan
  | [] => .ok r
  | c :: rest =>
    match OptionName.ofLetter? c with
    | none => .error (.fault (.unexpectedArgument argument))
    | some (.switch s) => do
      let r ← r.switch s
      letters argument r rest
    | some (.setting s) =>
      match rest with
      | [] => r.setting s none
      | '=' :: value => r.setting s (some (String.ofList value))
      | value => r.setting s (some (String.ofList value))

/-- Reads a long option, what stands behind its two dashes. -/
def long (argument : String) (r : Scan) (s : List Char) : Except Stop Scan :=
  let (name, value) :=
    match cutAt '=' s with
    | some (name, value) => (name, some (String.ofList value))
    | none => (s, none)
  match OptionName.ofLong? (String.ofList name), value with
  | some (.setting s), value => r.setting s value
  | some (.switch s), none => r.switch s
  | some (.switch _), some _ => .error (.fault (.unexpectedValue argument))
  | none, _ => .error (.fault (.unexpectedArgument argument))

/-- Reads an argument that looks like no option. -/
def plain (argument : String) (r : Scan) : Except Stop Scan :=
  match r.pending with
  | some (setting, none) => .ok { r with pending := some (setting, some argument) }
  | _ => .error (.fault (.unexpectedArgument argument))

/-- Reads one argument. -/
def argument (r : Scan) (argument : String) : Except Stop Scan :=
  match argument.toList with
  | '-' :: '-' :: s => r.long argument s
  | '-' :: c :: s => r.letters argument (c :: s)
  | _ => r.plain argument

/-- Reads arguments. Nothing may follow two dashes that stand alone. -/
def arguments (r : Scan) : List String → Except Stop Scan
  | [] => .ok r
  | "--" :: [] => .ok r
  | "--" :: next :: _ => .error (.fault (.unexpectedArgument next))
  | a :: rest => do
    let r ← r.argument a
    arguments r rest

end Scan

/-- Reads the options of a command line. -/
def Options.ofArguments (args : List String) : Except Stop Options := do
  let r ← Scan.arguments ⟨.initial, none⟩ args
  let r ← r.settle
  return r.options

end HostMetrics.Daemon
