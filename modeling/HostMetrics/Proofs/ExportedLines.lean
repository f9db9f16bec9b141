import HostMetrics.Daemon.Basic
import HostMetrics.Proofs.Layout
import Mathlib.Data.List.Forall2
import Mathlib.Tactic.SplitIfs

/-!
# A pass is exported line by line

What is exported of a pass is a text of lines, one for each measurement. It
can be taken apart at its line feeds again because no line holds one. That
is so whatever strings stand in the line, in labels as well as in the names
of instruments: a string is written with every character below the space
escaped (`Json.plain_quoted`), and all else that is written, the marks of
objects and the digits of numbers, is no such character either.

Which lines there are is said here without the pass, by the turns that the
instruments take (`turns`). An instrument has its turn on the source as the
ones before it left it, and its lines are those of what it measures then. So
the lines are in the order of registration, and one that fails has none.
-/

namespace HostMetrics

namespace Json

/-! ## Texts without controls -/

/-- **A text without controls**, and so without an end of line. -/
def Plain (s : List Char) : Prop := ∀ c ∈ s, 0x20 ≤ c.toNat

instance (s : List Char) : Decidable (Plain s) :=
  decidable_of_iff ((s.all fun c => 0x20 ≤ c.toNat) = true) (by simp [Plain])

variable {s t : List Char}

theorem Plain.not_mem {c : Char} (h : Plain s) (hc : c.toNat < 0x20) : c ∉ s :=
  fun hmem => Nat.not_lt.mpr (h c hmem) hc

theorem plain_nil : Plain [] := fun _ h => by cases h

theorem plain_cons {c : Char} : Plain (c :: s) ↔ 0x20 ≤ c.toNat ∧ Plain s :=
  List.forall_mem_cons

theorem plain_append : Plain (s ++ t) ↔ Plain s ∧ Plain t :=
  List.forall_mem_append

/-- A character is written inside a string without a control. -/
theorem plain_escaped (c : Char) : Plain (escaped c) := by
  have hdigit : ∀ n < 16, 0x20 ≤ (Nat.digitChar n).toNat := by decide
  unfold escaped
  split_ifs with _ _ _ _ _ _ _ hcode
  · decide
  · decide
  · decide
  · decide
  · decide
  · decide
  · decide
  · have hhigh := hdigit (c.toNat / 16) (by omega)
    have hlow := hdigit (c.toNat % 16) (by omega)
    simp only [plain_cons, plain_nil, hhigh, hlow]
    decide
  · exact plain_cons.mpr ⟨Nat.not_lt.mp hcode, plain_nil⟩

/-- **A string is written without controls**, whatever stands in it. -/
theorem plain_quoted (s : List Char) : Plain (quoted s) := by
  have hescaped : Plain (s.flatMap escaped) := by
    intro c hc
    obtain ⟨d, -, hd⟩ := List.mem_flatMap.mp hc
    exact plain_escaped d c hd
  exact plain_cons.mpr ⟨by decide, plain_append.mpr ⟨hescaped, by decide⟩⟩

theorem plain_commaSeparated {values : List (List Char)} (h : ∀ value ∈ values, Plain value) :
    Plain (commaSeparated values) := by
  induction values with
  | nil => exact plain_nil
  | cons value values ih =>
    obtain ⟨hvalue, hvalues⟩ := List.forall_mem_cons.mp h
    cases values with
    | nil => exact hvalue
    | cons next values =>
      exact plain_append.mpr ⟨hvalue, plain_cons.mpr ⟨by decide, ih hvalues⟩⟩

/-- An object is written without controls if its values are, whatever its
keys are. -/
theorem plain_object {members : List (List Char × List Char)}
    (h : ∀ member ∈ members, Plain member.2) : Plain (object members) := by
  refine plain_cons.mpr ⟨by decide, plain_append.mpr ⟨plain_commaSeparated ?_, by decide⟩⟩
  refine List.forall_mem_map.mpr fun member hmember => ?_
  exact plain_append.mpr
    ⟨plain_quoted member.1, plain_cons.mpr ⟨by decide, h member hmember⟩⟩

/-! ## Numbers -/

theorem plain_decimal (n : Nat) : Plain (Text.decimal n) := by
  intro c hc
  have hdigit : c.isDigit = true := Nat.isDigit_of_mem_toDigits (by decide) (by decide) hc
  have hlow : '0'.toNat ≤ c.toNat := by
    simp only [Char.isDigit, Bool.and_eq_true, decide_eq_true_iff] at hdigit
    exact hdigit.1
  exact Nat.le_trans (by decide) hlow

theorem plain_signedDecimal (n : Int) : Plain (Text.signedDecimal n) := by
  cases n with
  | ofNat n => exact plain_decimal n
  | negSucc n => exact plain_cons.mpr ⟨by decide, plain_decimal (n + 1)⟩

theorem Plain.take (h : Plain s) (n : Nat) : Plain (s.take n) :=
  fun c hc => h c (List.mem_of_mem_take hc)

theorem Plain.drop (h : Plain s) (n : Nat) : Plain (s.drop n) :=
  fun c hc => h c (List.mem_of_mem_drop hc)

theorem plain_zeros (n : Nat) : Plain (List.replicate n '0') := by
  intro c hc
  rw [List.eq_of_mem_replicate hc]
  decide

/-- The digits of a number may be split and filled up with zeros. -/
theorem plain_ofDecimal (d : Decimal) : Plain (ofDecimal d) := by
  have hdigits : Plain (Text.decimal d.digits) := plain_decimal d.digits
  have hexponent : ∀ n, Plain (Text.signedDecimal n) := plain_signedDecimal
  unfold ofDecimal
  dsimp only
  split_ifs with _ _ _ hone hnegative hnegative
  · exact plain_append.mpr ⟨plain_append.mpr ⟨hdigits, plain_zeros _⟩, by decide⟩
  · exact plain_append.mpr ⟨hdigits.take _, plain_cons.mpr ⟨by decide, hdigits.drop _⟩⟩
  · exact plain_cons.mpr ⟨by decide, plain_cons.mpr ⟨by decide,
      plain_append.mpr ⟨plain_zeros _, hdigits⟩⟩⟩
  · exact plain_append.mpr ⟨hdigits, plain_cons.mpr ⟨by decide, hexponent _⟩⟩
  · exact plain_append.mpr ⟨hdigits, plain_cons.mpr ⟨by decide,
      plain_cons.mpr ⟨by decide, hexponent _⟩⟩⟩
  · exact plain_append.mpr ⟨plain_append.mpr ⟨hdigits.take _,
      plain_cons.mpr ⟨by decide, hdigits.drop _⟩⟩, plain_cons.mpr ⟨by decide, hexponent _⟩⟩
  · exact plain_append.mpr ⟨plain_append.mpr ⟨hdigits.take _,
      plain_cons.mpr ⟨by decide, hdigits.drop _⟩⟩,
      plain_cons.mpr ⟨by decide, plain_cons.mpr ⟨by decide, hexponent _⟩⟩⟩

/-- A floating-point number is written without controls, also where it has
no form in JSON. -/
theorem plain_float (x : Float) : Plain (float x) := by
  have hsign : Plain (if Text.limit63 ≤ x.toBits.toNat then ['-'] else []) := by
    split_ifs
    · decide
    · exact plain_nil
  unfold float
  dsimp only
  generalize (if Text.limit63 ≤ x.toBits.toNat then ['-'] else []) = sign at hsign ⊢
  split
  · decide
  · split
    · exact plain_append.mpr ⟨hsign, by decide⟩
    · exact plain_append.mpr ⟨hsign, plain_ofDecimal _⟩

end Json

open Json

theorem LabelValue.plain_json (value : LabelValue) : Plain value.json := by
  cases value with
  | int n => exact plain_signedDecimal n.toInt
  | str s => exact plain_quoted s.toList

theorem LabelSet.plain_json (s : LabelSet) : Plain s.json :=
  plain_object (List.forall_mem_map.mpr fun label _ => label.2.plain_json)

namespace Daemon

/-- **A line has no end of line inside it**, whatever it is of. -/
theorem plain_exportLine (timestamp : String) (i : Instrument) (m : Measurement) :
    Plain (exportLine timestamp i m) := by
  refine plain_object ?_
  simp only [List.forall_mem_cons]
  exact ⟨plain_quoted _, plain_quoted _, plain_quoted _, plain_quoted _, plain_float _,
    m.labels.plain_json, fun _ h => by cases h⟩

/-! ## The turns of a pass -/

/-- **A turn**: a registered instrument and the source as it is when its
turn comes. -/
structure Turn where
  /-- The instrument. -/
  registration : Registration
  /-- The source that it is measured from. -/
  source : Source

/-- **The turns of a number of instruments.** Each has its turn on the source
that the ones before it left. -/
def turns (source : Source) : List Registration → List Turn
  | [] => []
  | r :: rest => ⟨r, source⟩ :: turns (source.afterMeasuring r.config r.instrument.metric) rest

namespace Turn

/-- What the instrument measures in its turn. -/
def outcome (t : Turn) : Measured :=
  measure t.source.reading t.registration.config t.registration.base
    t.registration.instrument.metric

/-- The lines of a turn: one for each measurement, and none if it failed. -/
def lines (timestamp : String) (t : Turn) : List (List Char) :=
  match t.outcome with
  | .ok measurements => measurements.map (exportLine timestamp t.registration.instrument)
  | .error _ => []

/-- Whether a turn failed. -/
def failed (t : Turn) : Bool :=
  match t.outcome with
  | .ok _ => false
  | .error _ => true

/-- A turn contributes to a pass its instrument and what that measured. -/
def Gives (t : Turn) (c : Collected) : Prop :=
  c.instrument = t.registration.instrument ∧ t.outcome = Failure.lift c.result

variable {t : Turn} {c : Collected}

theorem lines_of_failed (timestamp : String) (h : t.failed = true) : t.lines timestamp = [] := by
  unfold failed at h
  unfold lines
  cases houtcome : t.outcome with
  | ok measurements =>
    rw [houtcome] at h
    cases h
  | error cause => rfl

theorem Gives.instrumentLines_eq (h : t.Gives c) (timestamp : String) :
    instrumentLines timestamp c = t.lines timestamp := by
  obtain ⟨hinstrument, houtcome⟩ := h
  rw [instrumentLines, lines, hinstrument, houtcome]
  cases c.result <;> rfl

end Turn

variable {source : Source} {rs : List Registration} {ts : List Turn} {collected : List Collected}

theorem map_registration_turns (source : Source) (rs : List Registration) :
    (turns source rs).map (·.registration) = rs := by
  induction rs generalizing source with
  | nil => rfl
  | cons r rs ih => exact congrArg (r :: ·) (ih _)

/-- **A pass without an abort is what its turns give**, one after the
other. -/
theorem exists_collectFrom_of_turns
    (h : ∀ t ∈ turns source rs, ∀ cause, t.outcome ≠ .error (.abort cause)) :
    ∃ collected last, Registry.collectFrom source rs = (.ok collected, last)
      ∧ List.Forall₂ Turn.Gives (turns source rs) collected := by
  induction rs generalizing source with
  | nil => exact ⟨[], source, rfl, .nil⟩
  | cons r rs ih =>
    obtain ⟨hfirst, hothers⟩ := List.forall_mem_cons.mp h
    obtain ⟨result, hresult⟩ := (Failure.exists_lift_or_abort _).resolve_right
      fun ⟨cause, habort⟩ => hfirst cause habort
    obtain ⟨rest, last, hrest, hgives⟩ := ih hothers
    refine ⟨⟨r.instrument, result⟩ :: rest, last, ?_, .cons ⟨rfl, hresult⟩ hgives⟩
    rw [Registry.collectFrom_cons_of_measured hresult, hrest]
    rfl

/-! ## The lines of a pass -/

theorem passLines_eq (timestamp : String) (h : List.Forall₂ Turn.Gives ts collected) :
    passLines timestamp collected = ts.flatMap (Turn.lines timestamp) := by
  induction h with
  | nil => rfl
  | cons hgives _ ih =>
    rw [List.flatMap_cons, ← ih, ← hgives.instrumentLines_eq]
    rfl

theorem failedCount_eq (h : List.Forall₂ Turn.Gives ts collected) :
    failedCount collected = ts.countP Turn.failed := by
  unfold failedCount
  induction h with
  | nil => rfl
  | @cons t c ts rest hgives _ ih =>
    rw [List.countP_cons, List.countP_cons, ih, Turn.failed, hgives.2]
    cases c.result <;> rfl

/-- **Each measurement has one line.** -/
theorem length_passLines (timestamp : String) (collected : List Collected) :
    (passLines timestamp collected).length = measurementCount collected := by
  induction collected with
  | nil => rfl
  | cons c rest ih =>
    have hrest : measurementCount (c :: rest)
        = (instrumentLines timestamp c).length + measurementCount rest := by
      unfold instrumentLines
      rw [measurementCount, List.foldr_cons]
      cases c.result with
      | ok measurements => exact congrArg (· + _) (List.length_map _).symm
      | error cause => exact (Nat.zero_add _).symm
    rw [hrest, ← ih, passLines, List.flatMap_cons, List.length_append]
    rfl

/-- A line of a pass is the line of some measurement. -/
theorem plain_of_mem_passLines {timestamp : String} {line : List Char}
    (h : line ∈ passLines timestamp collected) : Plain line := by
  obtain ⟨c, -, hline⟩ := List.mem_flatMap.mp h
  unfold instrumentLines at hline
  cases hresult : c.result with
  | ok measurements =>
    rw [hresult] at hline
    obtain ⟨m, -, rfl⟩ := List.mem_map.mp hline
    exact plain_exportLine timestamp c.instrument m
  | error cause =>
    rw [hresult] at hline
    cases hline

/-- **A pass that is exported as its turns say.** -/
structure ExportedAs (timestamp : String) (ts : List Turn) (collected : List Collected) :
    Prop where
  /-- Its text is the lines of the turns, each ended by a line feed. -/
  text : passText timestamp collected
    = (ts.flatMap (Turn.lines timestamp)).flatMap fun line => line ++ ['\n']
  /-- Cut at the line feeds, the text gives the lines back, and nothing
  stands behind the last one. -/
  pieces : (passText timestamp collected).splitOn '\n'
    = ts.flatMap (Turn.lines timestamp) ++ [[]]
  /-- Read line by line, it gives them back too. -/
  readBack : Text.lines (passText timestamp collected) = ts.flatMap (Turn.lines timestamp)
  /-- The number of measurements is that of the lines. -/
  measurements : measurementCount collected = (ts.flatMap (Turn.lines timestamp)).length
  /-- The number of failures is that of the turns that failed. -/
  failures : failedCount collected = ts.countP Turn.failed

theorem exportedAs_of_gives (timestamp : String) (h : List.Forall₂ Turn.Gives ts collected) :
    ExportedAs timestamp ts collected := by
  have hlines : passLines timestamp collected = ts.flatMap (Turn.lines timestamp) :=
    passLines_eq timestamp h
  have hfeed : ∀ line ∈ ts.flatMap (Turn.lines timestamp), '\n' ∉ line := fun line hline =>
    (plain_of_mem_passLines (hlines ▸ hline)).not_mem (by decide)
  have hreturn : ∀ line ∈ ts.flatMap (Turn.lines timestamp), '\r' ∉ line := fun line hline =>
    (plain_of_mem_passLines (hlines ▸ hline)).not_mem (by decide)
  have htext : passText timestamp collected
      = Text.unlines (ts.flatMap (Turn.lines timestamp)) := by
    rw [passText, hlines]
    rfl
  exact
    { text := htext
      pieces := htext ▸ Text.splitOn_unlines hfeed
      readBack := htext ▸ Text.lines_unlines fun line hline =>
        ⟨hfeed line hline, hreturn line hline⟩
      measurements := hlines ▸ (length_passLines timestamp collected).symm
      failures := failedCount_eq h }

/-- **A pass is exported line by line.** If no turn of the registry is
aborted, what is exported are the lines of the turns, in the order of
registration. No line has a line feed inside it, an instrument that fails has
no line, and the daemon gives these lines and notes both numbers. -/
theorem exported_line_by_line (registry : Registry) (source : Source) (timestamp : String)
    (h : ∀ t ∈ turns source registry.registrations, ∀ cause, t.outcome ≠ .error (.abort cause)) :
    (∀ i m, '\n' ∉ exportLine timestamp i m)
    ∧ (turns source registry.registrations).map (·.registration) = registry.registrations
    ∧ (∀ t : Turn, t.failed = true → t.lines timestamp = [])
    ∧ ∃ collected last, registry.collectAll source = (.ok collected, last)
      ∧ ExportedAs timestamp (turns source registry.registrations) collected
      ∧ ∀ state files, state.registry = registry →
        source = .kernel { state.source with files } →
        (pass state files timestamp).2.lines
            = (turns source registry.registrations).flatMap (Turn.lines timestamp)
          ∧ (pass state files timestamp).2.notes.getLast?
            = some (.passed (state.passes + 1)
                ((turns source registry.registrations).flatMap (Turn.lines timestamp)).length
                ((turns source registry.registrations).countP Turn.failed)) := by
  obtain ⟨collected, last, hpass, hgives⟩ := exists_collectFrom_of_turns h
  have hexported := exportedAs_of_gives timestamp hgives
  refine ⟨fun i m => (plain_exportLine timestamp i m).not_mem (by decide),
    map_registration_turns source registry.registrations,
    fun t => Turn.lines_of_failed timestamp, collected, last, hpass, hexported, ?_⟩
  rintro state files rfl rfl
  have hcollect : state.registry.collectAll (.kernel { state.source with files })
      = (.ok collected, last) := hpass
  dsimp only [pass]
  rw [hcollect]
  constructor
  · exact passLines_eq timestamp hgives
  · rw [← hexported.measurements, ← hexported.failures]
    exact List.getLast?_concat

/-- An instrument and a label with line feeds in their texts, and an
instrument that is not configured. -/
def unrulyRegistry : Registry :=
  ⟨[⟨.ofMetric "a\nb" .runtimeGcCount, .empty, .ofList [("host", .str "c\nd")]⟩,
    ⟨.ofMetric "rust" .cpuTime, .empty, .empty⟩]⟩

/-- A source with one generation of garbage collections. -/
def oneGeneration : FixedSource where
  cpuTimes := []
  cpuShares := []
  memory := ⟨0, none, none, none, none, none, none, none, none, none⟩
  swap := ⟨0, none, none, none, none⟩
  disks := []
  interfaces := []
  connections := []
  processMemory := ⟨none, none, none, none, none, none, none⟩
  processTimes := ⟨none, none, none, none, none⟩
  collections := [3]
  runtime := "rust"

/-- The line feeds in a name and in a label do not break the one line of a
pass, and the instrument that failed has none. -/
theorem exported_line_by_line_line_feeds :
    ∃ collected last, unrulyRegistry.collectAll (.fixed oneGeneration) = (.ok collected, last)
      ∧ (∃ line, (passText "now" collected).splitOn '\n' = [line, []])
      ∧ measurementCount collected = 1 ∧ failedCount collected = 1 := by
  have hturns : turns (.fixed oneGeneration) unrulyRegistry.registrations
      = unrulyRegistry.registrations.map fun r => ⟨r, .fixed oneGeneration⟩ := rfl
  have hno : ∀ t ∈ turns (.fixed oneGeneration) unrulyRegistry.registrations,
      ∀ cause, t.outcome ≠ .error (.abort cause) := by
    rw [hturns]
    simp only [unrulyRegistry, List.map_cons, List.map_nil, List.forall_mem_cons]
    refine ⟨fun cause h => ?_, fun cause h => ?_, fun t ht => by cases ht⟩
    · cases h
    · cases h
  obtain ⟨-, -, -, collected, last, hpass, hexported, -⟩ :=
    exported_line_by_line unrulyRegistry (.fixed oneGeneration) "now" hno
  have hlines : ∃ line, (turns (.fixed oneGeneration) unrulyRegistry.registrations).flatMap
      (Turn.lines "now") = [line] := ⟨_, rfl⟩
  obtain ⟨line, hline⟩ := hlines
  exact ⟨collected, last, hpass, ⟨line, by rw [hexported.pieces, hline]; rfl⟩,
    by rw [hexported.measurements, hline]; rfl, hexported.failures.trans rfl⟩

end Daemon

end HostMetrics
