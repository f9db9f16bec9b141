import HostMetrics.Files.Basic
import HostMetrics.Json.Shape
import HostMetrics.Json.Written
import HostMetrics.Metric

/-!
# Configurations

A configuration says which metrics are collected and, for each of them,
which fields. It replaces the built-in catalog as a whole: a metric that it
leaves out is not collected.

A configuration is a partial function on the metrics, so the order in which
metrics were configured is no part of it. The fields of a metric do have an
order, that of their measurements, and each stands there once.
-/

namespace HostMetrics

open Json

/-- The fields selected for a metric, each of them once. -/
structure Selector where
  /-- The names of the fields, in the order in which they are measured. -/
  fields : List String
  /-- No field is selected twice. -/
  nodup : fields.Nodup
deriving DecidableEq

theorem nodup_eraseDups {α : Type} [BEq α] [LawfulBEq α] (values : List α) :
    values.eraseDups.Nodup := by
  induction hn : values.length using Nat.strongRecOn generalizing values with
  | ind n ih =>
    subst hn
    cases values with
    | nil => exact .nil
    | cons value rest =>
      rw [List.eraseDups_cons]
      refine List.nodup_cons.mpr ⟨fun h => ?_, ?_⟩
      · have := List.mem_eraseDups.mp h
        simp at this
      · exact ih _ (Nat.lt_succ_of_le (List.length_filter_le ..)) _ rfl

/-- The selector of a list of fields, where a repeated one counts at its
first place. -/
def Selector.ofList (fields : List String) : Selector := ⟨fields.eraseDups, nodup_eraseDups fields⟩

/-- The fields selected for each metric. -/
structure Configuration where
  /-- The selector of a metric, if the metric is configured. -/
  selector? : Metric → Option Selector

namespace Configuration

/-- The configuration without metrics. -/
def empty : Configuration := ⟨fun _ => none⟩

/-- The configuration with the fields of one metric set, whether it had any
before or not. -/
def set (config : Configuration) (metric : Metric) (fields : List String) : Configuration :=
  ⟨fun m => if m = metric then some (.ofList fields) else config.selector? m⟩

/-- The configuration with metrics set one after the other. -/
def setAll (config : Configuration) (pairs : List (Metric × List String)) : Configuration :=
  pairs.foldl (fun config pair => config.set pair.1 pair.2) config

/-- The built-in catalog. -/
def builtIn : Configuration :=
  empty.setAll [
    (.cpuTime, ["idle", "user", "system", "irq"]),
    (.cpuUtilization, ["idle", "user", "system", "irq"]),
    (.memoryUsage, ["used", "free", "cached"]),
    (.memoryUtilization, ["used", "free", "cached"]),
    (.swapUsage, ["used", "free"]),
    (.swapUtilization, ["used", "free"]),
    (.diskBytes, ["read", "write"]),
    (.diskOperations, ["read", "write"]),
    (.diskTime, ["read", "write"]),
    (.networkDropped, ["transmit", "receive"]),
    (.networkPackets, ["transmit", "receive"]),
    (.networkErrors, ["transmit", "receive"]),
    (.networkBytes, ["transmit", "receive"]),
    (.networkConnections, ["family", "type"]),
    (.runtimeMemory, ["rss", "vms"]),
    (.runtimeCpuTime, ["user", "system"])]

/-- The configuration in force: the given one, or else the built-in catalog. -/
def resolve (override : Option Configuration) : Configuration := override.getD builtIn

/-- Whether a metric is configured. -/
def contains (config : Configuration) (metric : Metric) : Bool := (config.selector? metric).isSome

/-- The fields of a metric, if the metric is configured. -/
def fields? (config : Configuration) (metric : Metric) : Option (List String) :=
  (config.selector? metric).map Selector.fields

/-- The configured metrics, in the order of the catalog. -/
def metrics (config : Configuration) : List Metric := Metric.all.filter config.contains

theorem ext {a b : Configuration} (h : ∀ metric, a.selector? metric = b.selector? metric) :
    a = b := by
  cases a
  cases b
  exact congrArg mk (funext h)

instance : DecidableEq Configuration := fun a b =>
  decidable_of_iff (∀ metric ∈ Metric.all, a.selector? metric = b.selector? metric)
    ⟨fun h => ext fun metric => h metric metric.mem_all, fun h _ _ => h ▸ rfl⟩

@[simp] theorem selector?_set (config : Configuration) (metric : Metric) (fields : List String)
    (m : Metric) :
    (config.set metric fields).selector? m
      = if m = metric then some (.ofList fields) else config.selector? m := rfl

/-! ## Configurations as JSON

A configuration is an object with a list of field names under the name of
each metric. -/

/-- The JSON text of a configuration. -/
def json (config : Configuration) : List Char :=
  object (Metric.all.filterMap fun metric =>
    (config.fields? metric).map fun fields =>
      (metric.name.toList, array (fields.map fun field => quoted field.toList)))

/-- The strings of a list behind its opening bracket or a comma, and what
follows its end. -/
def strings : List Token → Except Fault (List String × List Token)
  | .text s :: .comma :: rest =>
    match strings rest with
    | .error fault => .error fault
    | .ok (ss, rest) => .ok (String.ofList s :: ss, rest)
  | .text s :: .closeBracket :: rest => .ok ([String.ofList s], rest)
  | .text _ :: rest => .error (markFault rest)
  | rest => .error (kindFault rest)

/-- A list of strings, and what follows it. -/
def stringList : List Token → Except Fault (List String × List Token)
  | .openBracket :: .closeBracket :: rest => .ok ([], rest)
  | .openBracket :: rest => strings rest
  | s => .error (kindFault s)

theorem length_of_strings {s rest : List Token} {ss : List String}
    (h : strings s = .ok (ss, rest)) : rest.length < s.length := by
  fun_induction strings s generalizing ss rest with
  | case1 => cases h
  | case2 s t tail rest₁ he ih =>
    cases h
    have := ih he
    simp only [List.length_cons]
    omega
  | case3 =>
    cases h
    simp only [List.length_cons]
    omega
  | case4 => cases h
  | case5 => cases h

theorem length_of_stringList {s rest : List Token} {ss : List String}
    (h : stringList s = .ok (ss, rest)) : rest.length < s.length := by
  unfold stringList at h
  split at h
  · cases h
    simp only [List.length_cons]
    omega
  · exact Nat.lt_succ_of_lt (length_of_strings h)
  · cases h

/-- The members of an object behind its opening brace or a comma, and what
follows its end. A key that names no metric is refused at once. -/
def members (s : List Token) :
    Except Fault (List (Metric × List String) × List Token) :=
  match s with
  | .text key :: s =>
    match Metric.ofName? (String.ofList key) with
    | none => .error .unexpected
    | some metric =>
      match s with
      | .colon :: s =>
        match h : stringList s with
        | .error fault => .error fault
        | .ok (fields, .comma :: rest) =>
          have := length_of_stringList h
          match members rest with
          | .error fault => .error fault
          | .ok (pairs, rest) => .ok ((metric, fields) :: pairs, rest)
        | .ok (fields, .closeBrace :: rest) => .ok ([(metric, fields)], rest)
        | .ok (_, rest) => .error (markFault rest)
      | s => .error (markFault s)
  | s => .error (keyFault s)
termination_by s.length
decreasing_by
  simp only [List.length_cons] at this ⊢
  omega

/-- Reads the metrics of a JSON text and their fields, in the order in
which they stand there. -/
def pairsOfJson (text : String) : Except Fault (List (Metric × List String)) :=
  match tokens text.toList with
  | .openBrace :: .closeBrace :: rest => finish [] rest
  | .openBrace :: rest =>
    match members rest with
    | .error fault => .error fault
    | .ok (pairs, rest) => finish pairs rest
  | s => .error (kindFault s)

/-- The fields that an object lists for a metric, those under its last key. -/
def listed? (pairs : List (Metric × List String)) (metric : Metric) : Option (List String) :=
  pairs.reverse.lookup metric

/-- The configuration that an object lists: the last fields of each metric,
where a repeated one counts at its first place. -/
def ofPairs (pairs : List (Metric × List String)) : Configuration :=
  ⟨fun metric => (listed? pairs metric).map .ofList⟩

/-- Reads a configuration from a JSON text. -/
def ofJson (text : String) : Except Fault Configuration :=
  (pairsOfJson text).map ofPairs

/-! ## Configurations in files -/

/-- Why a configuration cannot be loaded. -/
inductive LoadError where
  /-- Its file cannot be read. -/
  | file (cause : FileError)
  /-- The text of the file is no configuration. -/
  | json (fault : Fault)
deriving DecidableEq, Repr

/-- The words in which it is reported. -/
def LoadError.message : LoadError → String
  | .file cause => "failed to read configuration: " ++ cause.message
  | .json _ => "invalid configuration"

/-- Loads a configuration from a file. -/
def load (files : Files) (path : String) : Except LoadError Configuration :=
  match files.read path with
  | .error cause => .error (.file cause)
  | .ok text => (ofJson text).mapError .json

end Configuration

end HostMetrics
