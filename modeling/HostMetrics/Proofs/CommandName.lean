import HostMetrics.Proc.ProcessLine
import HostMetrics.Proofs.Cuts
import HostMetrics.Proofs.Layout
import HostMetrics.Proofs.Numerals
import HostMetrics.Proofs.Sequence

/-!
# The name of a command is not read

A process line holds one text that the process chooses itself, the name of
its command. It may contain blanks, line feeds, digits and parentheses, and
so look like the columns behind it. None of it is taken for one: the ticks
that are read, and the column that is reported if one of them is no number,
depend on the columns behind the name alone
(`ProcessLine.parse_ignores_name`).

The reason is in where the name is cut out. In front of the first opening
parenthesis stand the process number and blanks, which hold none, so that is
where the name begins. Behind the last closing one stand columns and blanks
that hold none either, so that is where the name ends, whatever parentheses
it has within. Columns with a closing parenthesis would move the end of the
name behind them, and a process line has no such columns.
-/

namespace HostMetrics.Proc

open Text

/-- **A process line**, with the name of the command and the columns behind it
apart. -/
structure ProcessText where
  /-- Blanks in front of the line. -/
  before : List Char
  /-- The process number. -/
  number : UInt32
  /-- Blanks between the number and the name. -/
  between : List Char
  /-- The name of the command, any text. -/
  name : List Char
  /-- The columns behind the name. -/
  columns : List (List Char)
  /-- The blanks before each column, and those behind the last one. -/
  gap : Nat → List Char
  /-- Blanks are blank. -/
  blank_before : ∀ c ∈ before, isBlank c = true
  /-- So are those behind the number. -/
  blank_between : ∀ c ∈ between, isBlank c = true
  /-- And those around the columns. -/
  blank_gap : ∀ i, ∀ c ∈ gap i, isBlank c = true
  /-- Columns are columns, and have no closing parenthesis. -/
  isColumn : ∀ column ∈ columns, IsColumn column ∧ ')' ∉ column
  /-- There are enough of them. -/
  length_le : 22 ≤ columns.length
  /-- Some blank stands between two columns. -/
  gap_ne : ∀ i, i + 1 < columns.length → gap (i + 1) ≠ []

/-- The text of a process line. -/
def ProcessText.text (line : ProcessText) : String :=
  String.ofList (line.before ++ decimal line.number.toNat ++ line.between ++ '(' :: line.name
    ++ ')' :: spread line.gap line.columns)

/-! ## What the columns say -/

/-- A column of ticks that can be below zero. -/
def IsSignedTicks (column : List Char) (z : Int) : Prop :=
  IsSigned 10 column z ∧ -limit63 ≤ z ∧ z < limit63

/-- **The ticks in the columns behind the name.** -/
structure TicksIn (columns : List (List Char)) (ticks : ProcessLine) : Prop where
  /-- The column for user mode. -/
  user : StandsAt columns 11 IsTicks ticks.userTicks
  /-- The column for the kernel. -/
  system : StandsAt columns 12 IsTicks ticks.systemTicks
  /-- The column for children in user mode. -/
  childUser : StandsAt columns 13 IsSignedTicks ticks.childUserTicks
  /-- The column for children in the kernel. -/
  childSystem : StandsAt columns 14 IsSignedTicks ticks.childSystemTicks
  /-- The delay is told if there is a column of ticks for it. -/
  blockDelay : ∀ n, ticks.blockDelayTicks = some n ↔ StandsAt columns 39 IsTicks n

/-- **A column that has to be a number of ticks.** -/
structure TickColumn where
  /-- Its place. -/
  place : Nat
  /-- Its name, by which it is reported. -/
  name : String
  /-- Whether its number can be below zero. -/
  signed : Bool
deriving DecidableEq, Repr

/-- The columns that have to be numbers of ticks, in the order in which they
are looked at. -/
def tickColumns : List TickColumn :=
  [⟨11, "utime", false⟩, ⟨12, "stime", false⟩, ⟨13, "cutime", true⟩, ⟨14, "cstime", true⟩]

/-- The column is there and is a number as it has to be. -/
def TickColumn.IsNumber (required : TickColumn) (columns : List (List Char)) : Prop :=
  if required.signed then ∃ z, StandsAt columns required.place IsSignedTicks z
  else ∃ n, StandsAt columns required.place IsTicks n

/-- **What is wrong with columns**: the first of the required ones that is no
number, reported by its name. -/
def FirstBad (columns : List (List Char)) : List TickColumn → FormatError → Prop
  | [], _ => False
  | required :: rest, cause =>
    (¬ required.IsNumber columns ∧ cause = .badProcessColumn required.name)
      ∨ required.IsNumber columns ∧ FirstBad columns rest cause

namespace ProcessLine

/-! ## Columns are decided one after the other -/

theorem signedTicks_eq_some_iff (column : List Char) (z : Int) :
    signed? 10 limit63 column = some z ↔ IsSignedTicks column z :=
  signed?_eq_some_iff (by decide) (by decide)

/-- A value that has to be there decides whether there is a result. -/
theorem decides_required {α : Type} {P : α → Prop} {found : Option α} {cause : FormatError}
    (h : ∀ a, found = some a ↔ P a) :
    Decides P (fun own => (¬ ∃ a, P a) ∧ own = cause) (found.elim (.error cause) .ok) := by
  simp only [← h]
  cases found with
  | some a => exact ⟨fun b => by simp [← h], fun own => by simp⟩
  | none => exact ⟨fun b => by simp [← h], fun own => by simp [eq_comm]⟩

theorem decides_wordColumn (cs : List (List Char)) (i : Nat) (name : String) :
    Decides (StandsAt cs i IsTicks)
      (fun cause => (¬ ∃ n, StandsAt cs i IsTicks n) ∧ cause = .badProcessColumn name)
      (wordColumn cs i name) := by
  have hcolumn : wordColumn cs i name
      = ((cs[i]?).bind word?).elim (.error (.badProcessColumn name)) .ok := by
    unfold wordColumn
    split <;> simp [*]
  rw [hcolumn]
  exact decides_required fun _ => bind_eq_some_iff_standsAt fun _ _ => word?_eq_some_iff

theorem decides_signedColumn (cs : List (List Char)) (i : Nat) (name : String) :
    Decides (StandsAt cs i IsSignedTicks)
      (fun cause => (¬ ∃ z, StandsAt cs i IsSignedTicks z) ∧ cause = .badProcessColumn name)
      (signedColumn cs i name) := by
  have hcolumn : signedColumn cs i name
      = ((cs[i]?).bind (signed? 10 limit63)).elim (.error (.badProcessColumn name)) .ok := by
    unfold signedColumn
    split <;> simp [*]
  rw [hcolumn]
  exact decides_required fun _ => bind_eq_some_iff_standsAt signedTicks_eq_some_iff

/-- **Columns are decided by the first of the required ones that is no
number**, and hold ticks if each of them is one. -/
theorem decides_ofColumns {cs : List (List Char)} (h : 22 ≤ cs.length) :
    Decides (TicksIn cs) (FirstBad cs tickColumns) (ofColumns cs) := by
  have hdelay : ∀ n, (cs[39]?).bind word? = some n ↔ StandsAt cs 39 IsTicks n := fun n =>
    bind_eq_some_iff_standsAt fun _ _ => word?_eq_some_iff
  unfold ofColumns
  rw [if_neg (Nat.not_lt.mpr h)]
  refine ((decides_wordColumn cs 11 "utime").bind fun user _ =>
    (decides_wordColumn cs 12 "stime").bind fun system _ =>
      (decides_signedColumn cs 13 "cutime").bind fun childUser _ =>
        (decides_signedColumn cs 14 "cstime").bind fun childSystem _ =>
          decides_pure _).congr ?_ ?_
  · intro ticks
    constructor
    · rintro ⟨user, huser, system, hsystem, childUser, hchildUser, childSystem, hchildSystem, rfl⟩
      exact ⟨huser, hsystem, hchildUser, hchildSystem, hdelay⟩
    · rintro ⟨huser, hsystem, hchildUser, hchildSystem, hblock⟩
      refine ⟨_, huser, _, hsystem, _, hchildUser, _, hchildSystem, ?_⟩
      have hsame : ticks.blockDelayTicks = (cs[39]?).bind word? :=
        Option.ext fun n => (hblock n).trans (hdelay n).symm
      rw [← hsame]
  · intro cause
    simp [tickColumns, FirstBad, TickColumn.IsNumber]

/-! ## Where the name ends -/

/-- A process number is read whatever blanks stand behind it. -/
theorem unsigned?_trim_decimal (number : UInt32) {blanks : List Char}
    (h : ∀ c ∈ blanks, isBlank c = true) :
    unsigned? 10 limit32 (trim (decimal number.toNat ++ blanks)) = some number.toNat := by
  rw [(isColumn_decimal _).trim_append h, unsigned?_eq_some_iff (by decide)]
  exact ⟨isNumeral_decimal _, number.toNat_lt⟩

/-- The blanks at the ends of a line are the only ones that are taken off. -/
theorem trim_text (line : ProcessText) :
    trim line.text.toList = (decimal line.number.toNat ++ line.between)
      ++ '(' :: (line.name ++ ')' :: trimEnd (spread line.gap line.columns)) := by
  have hnumber := isColumn_decimal line.number.toNat
  obtain ⟨first, others, hfirst⟩ := List.exists_cons_of_ne_nil hnumber.ne_nil
  have hblank := hnumber.not_blank first (hfirst ▸ List.mem_cons_self)
  have hbehind := trimEnd_append_cons (by decide : isBlank ')' = false)
    (first :: others ++ line.between ++ '(' :: line.name) (spread line.gap line.columns)
  rw [ProcessText.text, String.toList_ofList, hfirst]
  simp only [List.append_assoc, List.cons_append] at hbehind ⊢
  rw [trim_append_cons line.blank_before hblank, hbehind]

theorem opening_not_mem (line : ProcessText) :
    '(' ∉ decimal line.number.toNat ++ line.between := by
  rw [List.mem_append]
  rintro (h | h)
  · exact not_mem_toDigits (by decide) (by decide) rfl _ h
  · exact absurd (line.blank_between _ h) (by decide)

theorem closing_not_mem (line : ProcessText) :
    ')' ∉ trimEnd (spread line.gap line.columns) := by
  intro h
  rcases mem_spread (mem_of_mem_trimEnd h) with ⟨i, hi⟩ | ⟨column, hcolumn, hc⟩
  · exact absurd (line.blank_gap i _ hi) (by decide)
  · exact (line.isColumn column hcolumn).2 hc

theorem columns_behind_name (line : ProcessText) :
    columns (trimEnd (spread line.gap line.columns)) = line.columns := by
  rw [columns_trimEnd]
  exact columns_spread (fun c hc => (line.isColumn c hc).1) line.blank_gap line.gap_ne

/-- **The columns behind the name are found**, whatever the name is. -/
theorem parse_text (line : ProcessText) : parse line.text = ofColumns line.columns := by
  -- the closing parenthesis is looked for in the whole line and behind the opening one
  have hlast : cutAtLast ')' (trim line.text.toList)
      = some (decimal line.number.toNat ++ line.between ++ '(' :: line.name,
          trimEnd (spread line.gap line.columns)) := by
    rw [trim_text, ← List.cons_append, ← List.append_assoc]
    exact cutAtLast_append (closing_not_mem line) _
  rw [parse, columnsBehindName, hlast, trim_text, cutAt_append (opening_not_mem line)]
  simp only [cutAtLast_append (closing_not_mem line),
    unsigned?_trim_decimal _ line.blank_between, columns_behind_name]
  rfl

/-- **The name of a command has no influence** on what is read of its line,
and neither has its process number: the ticks are those in the columns behind
the name, and if one of these is no number, the first such is reported. -/
theorem parse_ignores_name (line : ProcessText) :
    (∀ ticks, parse line.text = .ok ticks ↔ TicksIn line.columns ticks)
      ∧ (∀ cause, parse line.text = .error cause ↔ FirstBad line.columns tickColumns cause)
      ∧ ∀ other : ProcessText, other.columns = line.columns →
        parse other.text = parse line.text := by
  have hdecides := decides_ofColumns line.length_le
  rw [parse_text line]
  refine ⟨hdecides.ok_iff, hdecides.error_iff, fun other hother => ?_⟩
  rw [parse_text other, hother]

/-- A process line of 22 columns, each of which counts itself. -/
def countingLine (name : String) : ProcessText where
  before := []
  number := 1
  between := [' ']
  name := name.toList
  columns := (List.range 22).map decimal
  gap _ := [' ']
  blank_before := List.forall_mem_nil _
  blank_between := List.forall_mem_singleton.mpr rfl
  blank_gap _ := List.forall_mem_singleton.mpr rfl
  isColumn column hcolumn := by
    obtain ⟨n, -, rfl⟩ := List.mem_map.mp hcolumn
    exact ⟨isColumn_decimal n, not_mem_toDigits (by decide) (by decide) rfl n⟩
  length_le := by simp
  gap_ne _ _ := List.cons_ne_nil _ _

/-- A name that goes on like a process line itself makes no difference. -/
theorem parse_ignores_name_like_columns :
    (countingLine "x) R 0 0 0 0 0 0 0 0 0 0 99 99 99 99 (y").columns = (countingLine "init").columns
      ∧ parse (countingLine "x) R 0 0 0 0 0 0 0 0 0 0 99 99 99 99 (y").text
        = parse (countingLine "init").text
      ∧ parse (countingLine "init").text = .ok ⟨11, 12, 13, 14, none⟩ := by
  have hnumeral : ∀ n, IsNumeral 10 (decimal n) n := fun n =>
    ⟨_, .inl rfl, areDigits_toDigits (by decide) n⟩
  obtain ⟨hok, -, hsame⟩ := parse_ignores_name (countingLine "init")
  refine ⟨rfl, hsame _ rfl, (hok _).mpr ?_⟩
  exact {
    user := ⟨decimal 11, rfl, hnumeral 11, by decide⟩
    system := ⟨decimal 12, rfl, hnumeral 12, by decide⟩
    childUser := ⟨decimal 13, rfl, .inl ⟨13, hnumeral 13, rfl⟩, by decide, by decide⟩
    childSystem := ⟨decimal 14, rfl, .inl ⟨14, hnumeral 14, rfl⟩, by decide, by decide⟩
    blockDelay := fun n => ⟨fun h => (nomatch h), fun ⟨_, hcolumn, _⟩ => (nomatch hcolumn)⟩ }

end ProcessLine

end HostMetrics.Proc
