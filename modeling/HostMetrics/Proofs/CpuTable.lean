import HostMetrics.Proc.CpuLine
import HostMetrics.Proofs.Layout
import HostMetrics.Proofs.Numerals
import HostMetrics.Proofs.Sequence

/-!
# Which CPU lines are read

Among other statistics stands a line for each CPU, and one for all of them
together. A line is taken for one of these if its first column starts with
`cpu` (`cpuRows`), and then it has to be in order: the name, four counters at
least, and no column among the first ten behind the name that is no number.
A text is read if all these lines are in order. Otherwise it is refused for
the first of them that is not, and for the first thing that is wrong there.

The counters stand in the order in which the kernel came to count the states,
so a line that ends early tells the older states and not the newer ones: which
states are told is a matter of the length alone, and a state is told only if
all older ones are. A CPU that was printed in this way (`PrintedCpu`) is read
as it was (`CpuLine.cpu_lines_row_by_row`).
-/

namespace HostMetrics

open Text

namespace Proc

/-- **The name of a CPU line**: `cpu` for all CPUs together, and the number of
a CPU behind it for one of them. -/
def IsCpuName (name : List Char) : Option Nat → Prop
  | none => name = ['c', 'p', 'u']
  | some number => ∃ digits, name = ['c', 'p', 'u'] ++ digits
      ∧ IsNumeral 10 digits number ∧ number < limit32

/-- **A row in order**: a name, and at least four counters, of which the first
ten are numbers. -/
structure IsCpuRow (row : List (List Char)) : Prop where
  /-- Its name. -/
  name : ∃ cpu, StandsAt row 0 IsCpuName cpu
  /-- There are four counters. -/
  five_le : 5 ≤ row.length
  /-- The counters are numbers of ticks. -/
  numbers : ∀ column ∈ (row.drop 1).take 10, ∃ n, IsTicks column n

/-- **The CPU line of a row in order**: each state has the column of its own
behind the name. -/
structure IsCpuLine (row : List (List Char)) (line : CpuLine) : Prop extends IsCpuRow row where
  /-- The number is that of the name. -/
  cpu : StandsAt row 0 IsCpuName line.cpu
  /-- The ticks of a state are those in its column, if the row has it. -/
  ticks : ∀ state n, line.ticks? state = some n ↔ StandsAt row (state.column + 1) IsTicks n

/-- **What is wrong with a row that is not in order**: its name, its length or
one of its counters, looked at one after the other. -/
inductive CpuRowFails (row : List (List Char)) : FormatError → Prop
  /-- The name is neither that of a CPU nor that of all of them. -/
  | badName {name : List Char} (hname : row[0]? = some name) (h : ¬ ∃ cpu, IsCpuName name cpu) :
    CpuRowFails row (.badCpuName (String.ofList name))
  /-- There are too few counters. -/
  | short {name : List Char} (hname : row[0]? = some name) (h : ∃ cpu, IsCpuName name cpu)
      (hlength : row.length < 5) :
    CpuRowFails row (.shortCpuLine (String.ofList name) (row.length - 1))
  /-- One of the first ten is no number. -/
  | badColumn {name : List Char} (hname : row[0]? = some name) (h : ∃ cpu, IsCpuName name cpu)
      (hlength : 5 ≤ row.length)
      (hcolumn : ∃ column ∈ (row.drop 1).take 10, ¬ ∃ n, IsTicks column n) :
    CpuRowFails row (.badCpuColumn (String.ofList name))

/-- **The rows of the CPUs**: the columns of the lines whose first column
starts with `cpu`. -/
def cpuRows (text : String) : List (List (List Char)) :=
  ((lines text.toList).map columns).filter fun row => ['c', 'p', 'u'] <+: row.headD []

/-! ## Printed lines -/

/-- **A CPU as it is printed.** -/
structure PrintedCpu where
  /-- Its number, if it is not all of them together. -/
  number : Option UInt32
  /-- The ticks of each state that is told. -/
  ticks? : CpuState → Option UInt64
  /-- The number of spaces before each column, and behind the last one. -/
  gap : Nat → Nat
  /-- The four oldest states are told. -/
  told : ∀ state : CpuState, state.column < 4 → (ticks? state).isSome
  /-- With a state all older ones are told. -/
  closed : ∀ older newer : CpuState, older.column ≤ newer.column →
    (ticks? newer).isSome → (ticks? older).isSome
  /-- Some space stands between two columns. -/
  gap_pos : ∀ i, i < (CpuState.all.filterMap ticks?).length → 0 < gap (i + 1)

namespace PrintedCpu

/-- The counters of a printed CPU, oldest state first. -/
def counters (cpu : PrintedCpu) : List UInt64 := CpuState.all.filterMap cpu.ticks?

/-- The name of a printed CPU. -/
def name (cpu : PrintedCpu) : List Char :=
  ['c', 'p', 'u'] ++ (cpu.number.map fun n => decimal n.toNat).getD []

/-- The columns of a printed CPU. -/
def columns (cpu : PrintedCpu) : List (List Char) :=
  cpu.name :: (cpu.counters.map UInt64.toNat).map decimal

/-- The line of a printed CPU. -/
def text (cpu : PrintedCpu) : List Char := laidOut cpu.gap cpu.columns

/-- **A printed CPU as a line tells it**: its number, and the ticks of the same
states. -/
structure IsToldBy (cpu : PrintedCpu) (line : CpuLine) : Prop where
  /-- The number is kept. -/
  number : line.cpu = cpu.number.map UInt32.toNat
  /-- So are the ticks of each state, and whether they are told. -/
  ticks : ∀ state, line.ticks? state = (cpu.ticks? state).map UInt64.toNat

end PrintedCpu

/-- The text of printed CPUs, each on its line. -/
def cpuTable (cpus : List PrintedCpu) : String :=
  String.ofList (unlines (cpus.map PrintedCpu.text))

end Proc

/-! ## States and columns -/

namespace CpuState

theorem column_lt (state : CpuState) : state.column < 10 := by
  cases state <;> decide

theorem exists_column {i : Nat} (h : i < 10) : ∃ state : CpuState, state.column = i := by
  have hall : ∀ i < 10, ∃ state ∈ all, state.column = i := by decide
  obtain ⟨state, -, hstate⟩ := hall i h
  exact ⟨state, hstate⟩

theorem getElem?_all_column (state : CpuState) : all[state.column]? = some state := by
  cases state <;> rfl

theorem pairwise_column : all.Pairwise fun older newer => older.column ≤ newer.column := by
  decide

end CpuState

/-- What a function has on a list stands at its place in the list of these
values, if it is missing on a tail of the list only. -/
theorem getElem?_filterMap_of_closed {α β : Type} {f : α → Option β} {l : List α}
    (h : l.Pairwise fun a b => (f b).isSome → (f a).isSome) (i : Nat) :
    (l.filterMap f)[i]? = l[i]?.bind f := by
  induction l generalizing i with
  | nil => rfl
  | cons a l ih =>
    obtain ⟨ha, hl⟩ := List.pairwise_cons.mp h
    cases hfa : f a with
    | some b =>
      rw [List.filterMap_cons_some hfa]
      cases i with
      | zero => exact hfa.symm
      | succ i => exact ih hl i
    | none =>
      -- nothing behind a missing value has one
      have hnone : ∀ b ∈ l, f b = none := fun b hb =>
        Option.not_isSome_iff_eq_none.mp fun hsome => by simpa [hfa] using ha b hb hsome
      rw [List.filterMap_cons_none hfa, List.filterMap_eq_nil_iff.mpr hnone, List.getElem?_nil]
      cases i with
      | zero => exact hfa.symm
      | succ i =>
        refine (Option.bind_eq_none_iff.mpr fun b hb => ?_).symm
        exact hnone b (List.mem_of_getElem? hb)

namespace Proc

namespace CpuLine

variable {row : List (List Char)} {name : List Char} {counters : List (List Char)}
  {line : CpuLine} {cause : FormatError}

/-- Lines are equal that have the same number and tell the same of each
state. -/
theorem ext_ticks? {a b : CpuLine} (hcpu : a.cpu = b.cpu)
    (h : ∀ state, a.ticks? state = b.ticks? state) : a = b := by
  have hticks : a.ticks = b.ticks := by
    refine List.ext_getElem? fun i => ?_
    by_cases hi : i < 10
    · obtain ⟨state, rfl⟩ := CpuState.exists_column hi
      exact h state
    · have ha := a.le_ten
      have hb := b.le_ten
      rw [List.getElem?_eq_none (by omega), List.getElem?_eq_none (by omega)]
  cases a
  cases b
  cases hcpu
  cases hticks
  rfl

/-! ## A row is decided -/

theorem numberOf?_eq_some_iff (h : ['c', 'p', 'u'] <+: name) {cpu : Option Nat} :
    numberOf? name = some cpu ↔ IsCpuName name cpu := by
  obtain ⟨digits, rfl⟩ := h
  have hdrop : (['c', 'p', 'u'] ++ digits).drop 3 = digits := rfl
  unfold numberOf?
  rw [hdrop]
  by_cases hall : ['c', 'p', 'u'] ++ digits = ['c', 'p', 'u']
  · obtain rfl : digits = [] := List.append_right_eq_self.mp hall
    rw [if_pos hall, Option.some.injEq]
    cases cpu with
    | none => exact iff_of_true rfl hall
    | some number =>
      refine iff_of_false (fun h => nomatch h) ?_
      rintro ⟨digits, hdigits, hnumeral, hlt⟩
      obtain rfl : [] = digits := List.append_cancel_left hdigits
      exact nomatch (unsigned?_eq_some_iff (by decide)).mpr ⟨hnumeral, hlt⟩
  · rw [if_neg hall]
    cases cpu with
    | none =>
      refine iff_of_false (fun h => ?_) hall
      obtain ⟨number, -, h⟩ := Option.map_eq_some_iff.mp h
      cases h
    | some number =>
      rw [Option.map_eq_some_iff]
      constructor
      · rintro ⟨n, hn, hsome⟩
        obtain rfl := Option.some.inj hsome
        exact ⟨digits, rfl, (unsigned?_eq_some_iff (by decide)).mp hn⟩
      · rintro ⟨others, hothers, hnumeral⟩
        obtain rfl : digits = others := List.append_cancel_left hothers
        exact ⟨number, (unsigned?_eq_some_iff (by decide)).mpr hnumeral, rfl⟩

theorem numberOf?_eq_none_iff (h : ['c', 'p', 'u'] <+: name) :
    numberOf? name = none ↔ ¬ ∃ cpu, IsCpuName name cpu := by
  simp only [← numberOf?_eq_some_iff h]
  exact Option.eq_none_iff_forall_ne_some.trans not_exists.symm

/-- **A row is read iff its name is a number, its length is enough and its
counters are numbers**, and then each of these is kept. -/
theorem ofColumns_eq_ok_iff : ofColumns name counters = .ok line
    ↔ numberOf? name = some line.cpu ∧ 4 ≤ counters.length
      ∧ words? (counters.take 10) = some line.ticks := by
  unfold ofColumns
  split
  next hname => simp [hname]
  next cpu hname =>
    rw [hname]
    split
    next hshort => simp [hshort]
    next hlong =>
      split
      next hwords => simp [hwords]
      next ticks hwords =>
        constructor
        · intro h
          cases h
          exact ⟨rfl, Nat.le_of_not_lt hlong, hwords⟩
        · rintro ⟨hcpu, -, hticks⟩
          obtain rfl := Option.some.inj (hwords.symm.trans hticks)
          obtain rfl := Option.some.inj hcpu
          rfl

theorem ofColumns_of_badName (hname : numberOf? name = none) :
    ofColumns name counters = .error (.badCpuName (String.ofList name)) := by
  unfold ofColumns
  rw [hname]

theorem ofColumns_of_short {cpu : Option Nat} (hname : numberOf? name = some cpu)
    (h : counters.length < 4) :
    ofColumns name counters = .error (.shortCpuLine (String.ofList name) counters.length) := by
  unfold ofColumns
  rw [hname]
  exact dif_pos h

theorem ofColumns_of_badColumn {cpu : Option Nat} (hname : numberOf? name = some cpu)
    (hlength : 4 ≤ counters.length) (h : words? (counters.take 10) = none) :
    ofColumns name counters = .error (.badCpuColumn (String.ofList name)) := by
  unfold ofColumns
  rw [hname]
  simp only [dif_neg (Nat.not_lt.mpr hlength)]
  split
  · rfl
  next hwords => exact nomatch h.symm.trans hwords

theorem standsAt_name {cpu : Option Nat} :
    StandsAt (name :: counters) 0 IsCpuName cpu ↔ IsCpuName name cpu := by
  constructor
  · rintro ⟨column, hcolumn, h⟩
    exact Option.some.inj hcolumn ▸ h
  · exact fun h => ⟨name, rfl, h⟩

/-- A state stands in its column, counted behind the name. -/
theorem ticks?_eq_some_iff (h : words? (counters.take 10) = some line.ticks) (state : CpuState)
    (n : Nat) :
    line.ticks? state = some n ↔ StandsAt (name :: counters) (state.column + 1) IsTicks n := by
  rw [ticks?, getElem?_words? h, List.getElem?_take_of_lt state.column_lt]
  exact bind_eq_some_iff_standsAt fun _ _ => word?_eq_some_iff

/-- **What is read of a row is its CPU line.** -/
theorem isCpuLine_of_ok (hstart : ['c', 'p', 'u'] <+: name)
    (h : ofColumns name counters = .ok line) : IsCpuLine (name :: counters) line := by
  obtain ⟨hname, hlength, hwords⟩ := ofColumns_eq_ok_iff.mp h
  have hcpu : StandsAt (name :: counters) 0 IsCpuName line.cpu :=
    standsAt_name.mpr ((numberOf?_eq_some_iff hstart).mp hname)
  exact {
    name := ⟨line.cpu, hcpu⟩
    five_le := Nat.succ_le_succ hlength
    numbers := exists_words?_iff.mp ⟨line.ticks, hwords⟩
    cpu := hcpu
    ticks := ticks?_eq_some_iff hwords }

/-- The numbers of a row long enough are those of a line. -/
theorem exists_line {ticks : List Nat} (hlength : 4 ≤ counters.length)
    (h : words? (counters.take 10) = some ticks) (cpu : Option Nat) :
    ∃ line : CpuLine, line.cpu = cpu ∧ line.ticks = ticks := by
  have hticks := length_words? h
  rw [List.length_take] at hticks
  exact ⟨⟨cpu, ticks, by omega, by omega⟩, rfl, rfl⟩

/-- **A row in order is read.** -/
theorem exists_ofColumns_eq_ok (hstart : ['c', 'p', 'u'] <+: name)
    (h : IsCpuRow (name :: counters)) : ∃ line, ofColumns name counters = .ok line := by
  obtain ⟨cpu, hcpu⟩ := h.name
  obtain ⟨ticks, hticks⟩ := exists_words?_iff.mpr h.numbers
  have hlength : 4 ≤ counters.length := Nat.le_of_succ_le_succ h.five_le
  obtain ⟨line, rfl, rfl⟩ := exists_line hlength hticks cpu
  have hname := (numberOf?_eq_some_iff hstart).mpr (standsAt_name.mp hcpu)
  exact ⟨line, ofColumns_eq_ok_iff.mpr ⟨hname, hlength, hticks⟩⟩

/-- A row in order has one line only. -/
theorem isCpuLine_unique (hstart : ['c', 'p', 'u'] <+: name) {other : CpuLine}
    (h : IsCpuLine (name :: counters) line) (hother : IsCpuLine (name :: counters) other) :
    line = other := by
  have hnumber : ∀ {cpu}, StandsAt (name :: counters) 0 IsCpuName cpu → numberOf? name = some cpu :=
    fun hcpu => (numberOf?_eq_some_iff hstart).mpr (standsAt_name.mp hcpu)
  refine ext_ticks? (Option.some.inj ((hnumber h.cpu).symm.trans (hnumber hother.cpu))) ?_
  exact fun state => Option.ext fun n => (h.ticks state n).trans (hother.ticks state n).symm

/-- **A row is decided**: it is read as its line, or refused for the first thing
that is wrong with it. -/
theorem decides_row (hstart : ['c', 'p', 'u'] <+: name) :
    Decides (IsCpuLine (name :: counters)) (CpuRowFails (name :: counters))
      (ofColumns name counters) := by
  have hnumber : ∀ {cpu}, IsCpuName name cpu → numberOf? name = some cpu :=
    (numberOf?_eq_some_iff hstart).mpr
  refine .of_exists (fun line hline => ?_) (fun cause hcause => ?_) ?_
  · obtain ⟨read, hread⟩ := exists_ofColumns_eq_ok hstart hline.toIsCpuRow
    rw [hread, isCpuLine_unique hstart hline (isCpuLine_of_ok hstart hread)]
  · cases hcause with
    | badName hname h =>
      obtain rfl := Option.some.inj hname
      exact ofColumns_of_badName ((numberOf?_eq_none_iff hstart).mpr h)
    | short hname h hlength =>
      obtain rfl := Option.some.inj hname
      obtain ⟨cpu, hcpu⟩ := h
      exact ofColumns_of_short (hnumber hcpu) (Nat.lt_of_succ_lt_succ hlength)
    | badColumn hname h hlength hcolumn =>
      obtain rfl := Option.some.inj hname
      obtain ⟨cpu, hcpu⟩ := h
      obtain ⟨column, hmem, hbad⟩ := hcolumn
      refine ofColumns_of_badColumn (hnumber hcpu) (Nat.le_of_succ_le_succ hlength) ?_
      refine Option.eq_none_iff_forall_ne_some.mpr fun ticks hticks => ?_
      exact hbad (exists_words?_iff.mp ⟨ticks, hticks⟩ column hmem)
  · by_cases hname : ∃ cpu, IsCpuName name cpu
    · by_cases hlength : 5 ≤ (name :: counters).length
      · by_cases hnumbers : ∀ column ∈ counters.take 10, ∃ n, IsTicks column n
        · obtain ⟨cpu, hcpu⟩ := hname
          have hrow : IsCpuRow (name :: counters) :=
            ⟨⟨cpu, standsAt_name.mpr hcpu⟩, hlength, hnumbers⟩
          obtain ⟨line, hline⟩ := exists_ofColumns_eq_ok hstart hrow
          exact .inl ⟨line, isCpuLine_of_ok hstart hline⟩
        · push Not at hnumbers
          obtain ⟨column, hcolumn, hbad⟩ := hnumbers
          exact .inr ⟨_, .badColumn rfl hname hlength
            ⟨column, hcolumn, fun ⟨n, hn⟩ => hbad n hn⟩⟩
      · exact .inr ⟨_, .short rfl hname (Nat.lt_of_not_le hlength)⟩
    · exact .inr ⟨_, .badName rfl hname⟩

/-! ## Rows are decided one after the other -/

/-- The line of a row, or what is wrong with it. -/
def ofRow (row : List (List Char)) : Except FormatError CpuLine :=
  ofColumns (row.headD []) row.tail

theorem prefix_of_mem_cpuRows {text : String} (h : row ∈ cpuRows text) :
    ∃ name counters, row = name :: counters ∧ ['c', 'p', 'u'] <+: name := by
  have hstart : ['c', 'p', 'u'] <+: row.headD [] := of_decide_eq_true (List.mem_filter.mp h).2
  cases row with
  | nil => exact nomatch List.prefix_nil.mp hstart
  | cons name counters => exact ⟨name, counters, rfl, hstart⟩

theorem isCpuName_iff : isCpuName name = true ↔ ['c', 'p', 'u'] <+: name :=
  List.isPrefixOf_iff_prefix

theorem row?_eq (line : List Char) :
    row? line = if ['c', 'p', 'u'] <+: (columns line).headD [] then
      some ((columns line).headD [], (columns line).tail) else none := by
  unfold row?
  cases columns line with
  | nil => rw [List.headD_nil, if_neg fun h => List.cons_ne_nil _ _ (List.prefix_nil.mp h)]
  | cons name counters =>
    rw [List.headD_cons, List.tail_cons]
    by_cases h : ['c', 'p', 'u'] <+: name
    · rw [if_pos h]
      exact if_pos (isCpuName_iff.mpr h)
    · rw [if_neg h]
      exact if_neg (mt isCpuName_iff.mp h)

/-- A text is read as the list of its rows. -/
theorem parse_eq_mapM (text : String) : parse text = (cpuRows text).mapM ofRow := by
  have hrows : (lines text.toList).filterMap row?
      = (cpuRows text).map fun row => (row.headD [], row.tail) := by
    rw [cpuRows, ← List.filterMap_eq_map, List.filterMap_filter, List.filterMap_map]
    refine List.filterMap_congr fun line _ => ?_
    simp only [row?_eq, Function.comp, decide_eq_true_iff]
  unfold parse
  rw [hrows, List.mapM_map]
  rfl

theorem decides_ofRow {text : String} (h : row ∈ cpuRows text) :
    Decides (IsCpuLine row) (CpuRowFails row) (ofRow row) := by
  obtain ⟨name, counters, rfl, hstart⟩ := prefix_of_mem_cpuRows h
  exact decides_row hstart

theorem exists_isCpuLine_iff {text : String} (h : row ∈ cpuRows text) :
    (∃ line, IsCpuLine row line) ↔ IsCpuRow row := by
  obtain ⟨name, counters, rfl, hstart⟩ := prefix_of_mem_cpuRows h
  constructor
  · exact fun ⟨line, hline⟩ => hline.toIsCpuRow
  · intro hrow
    obtain ⟨line, hline⟩ := exists_ofColumns_eq_ok hstart hrow
    exact ⟨line, isCpuLine_of_ok hstart hline⟩

/-- **A text is decided row by row.** -/
theorem decides_parse (text : String) :
    Decides (List.Forall₂ IsCpuLine (cpuRows text))
      (fun cause => ∃ before row after, cpuRows text = before ++ row :: after
        ∧ (∀ other ∈ before, IsCpuRow other) ∧ CpuRowFails row cause)
      (parse text) := by
  rw [parse_eq_mapM]
  refine (Decides.mapM fun row => decides_ofRow).congr (fun _ => Iff.rfl) fun cause => ?_
  refine exists₃_congr fun before row after => and_congr_right fun hrows => and_congr_left' ?_
  refine forall₂_congr fun other hother => ?_
  have hmem : other ∈ cpuRows text := hrows ▸ List.mem_append_left _ hother
  exact exists_isCpuLine_iff hmem

theorem exists_parse_eq_ok_iff {text : String} :
    (∃ lines, parse text = .ok lines) ↔ ∀ row ∈ cpuRows text, IsCpuRow row := by
  rw [parse_eq_mapM, exists_mapM_eq_ok]
  refine forall₂_congr fun row hrow => ?_
  rw [← exists_isCpuLine_iff hrow]
  exact exists_congr (decides_ofRow hrow).ok_iff

/-! ## What a line tells -/

/-- Only the line of all CPUs together has no number. -/
theorem cpu_eq_none_iff (h : IsCpuLine row line) :
    line.cpu = none ↔ row[0]? = some ['c', 'p', 'u'] := by
  obtain ⟨name, hname, hcpu⟩ := h.cpu
  rw [hname, Option.some.injEq]
  cases hnumber : line.cpu with
  | none =>
    rw [hnumber] at hcpu
    exact iff_of_true rfl hcpu
  | some number =>
    rw [hnumber] at hcpu
    refine iff_of_false (fun h => nomatch h) ?_
    rintro rfl
    -- the one name cannot be read in both ways
    have hsome := (numberOf?_eq_some_iff (List.prefix_refl _)).mpr hcpu
    exact nomatch hsome.symm.trans (if_pos rfl : numberOf? ['c', 'p', 'u'] = some none)

/-- **A state is told iff the row is long enough.** -/
theorem isSome_ticks?_iff (h : IsCpuLine row line) (state : CpuState) :
    (line.ticks? state).isSome ↔ state.column + 1 < row.length := by
  rw [Option.isSome_iff_exists]
  simp only [h.ticks]
  constructor
  · rintro ⟨n, column, hcolumn, -⟩
    exact (List.getElem?_eq_some_iff.mp hcolumn).1
  · intro hlength
    have hcolumn := List.getElem?_eq_getElem hlength
    have hmem : row[state.column + 1] ∈ (row.drop 1).take 10 := by
      refine List.mem_of_getElem? (i := state.column) ?_
      rw [List.getElem?_take_of_lt state.column_lt, List.getElem?_drop, Nat.add_comm, hcolumn]
    obtain ⟨n, hn⟩ := h.numbers _ hmem
    exact ⟨n, _, hcolumn, hn⟩

/-! ## What makes no difference -/

/-- Columns behind the tenth counter are not looked at. -/
theorem ofColumns_take (name : List Char) (counters : List (List Char)) :
    ofColumns name (counters.take 10) = ofColumns name counters := by
  by_cases hshort : counters.length < 4
  · rw [List.take_of_length_le (by omega)]
  · have hlength : 4 ≤ counters.length := Nat.le_of_not_lt hshort
    have hlength' : 4 ≤ (counters.take 10).length := List.length_take ▸ le_min (by decide) hlength
    have hsame : words? ((counters.take 10).take 10) = words? (counters.take 10) := by
      rw [List.take_take, Nat.min_self]
    cases hname : numberOf? name with
    | none => rw [ofColumns_of_badName hname, ofColumns_of_badName hname]
    | some cpu =>
      cases hwords : words? (counters.take 10) with
      | none =>
        rw [ofColumns_of_badColumn hname hlength hwords,
          ofColumns_of_badColumn hname hlength' (hsame.trans hwords)]
      | some ticks =>
        obtain ⟨line, rfl, rfl⟩ := exists_line hlength hwords cpu
        rw [ofColumns_eq_ok_iff.mpr ⟨hname, hlength, hwords⟩,
          ofColumns_eq_ok_iff.mpr ⟨hname, hlength', hsame.trans hwords⟩]

theorem ofRow_take (row : List (List Char)) : ofRow (row.take 11) = ofRow row := by
  cases row with
  | nil => rfl
  | cons name counters => exact ofColumns_take name counters

/-- **A text is known by the first eleven columns of its rows.** -/
theorem parse_congr_of_rows {text other : String}
    (h : (cpuRows other).map (List.take 11) = (cpuRows text).map (List.take 11)) :
    parse other = parse text := by
  have hrows : ∀ text, parse text = ((cpuRows text).map (List.take 11)).mapM ofRow := by
    intro text
    rw [parse_eq_mapM, List.mapM_map]
    exact congrArg (fun f => (cpuRows text).mapM f) (funext ofRow_take).symm
  rw [hrows, hrows, h]

/-! ## Printed lines are read -/

/-- Each state of a printed CPU stands in its column, because no older one is
missing before it. -/
theorem getElem?_counters (cpu : PrintedCpu) (state : CpuState) :
    cpu.counters[state.column]? = cpu.ticks? state := by
  have hclosed := CpuState.pairwise_column.imp (cpu.closed _ _)
  rw [PrintedCpu.counters, getElem?_filterMap_of_closed hclosed, CpuState.getElem?_all_column,
    Option.bind_some]

theorem four_le_length_counters (cpu : PrintedCpu) : 4 ≤ cpu.counters.length := by
  have hidle := cpu.told .idle (by decide)
  rw [← getElem?_counters, isSome_getElem?] at hidle
  exact hidle

theorem length_counters_le (cpu : PrintedCpu) : cpu.counters.length ≤ 10 :=
  List.length_filterMap_le _ CpuState.all

theorem isCpuName_name (cpu : PrintedCpu) : IsCpuName cpu.name (cpu.number.map UInt32.toNat) := by
  unfold PrintedCpu.name
  cases cpu.number with
  | none => rfl
  | some number => exact ⟨decimal number.toNat, rfl, isNumeral_decimal _, number.toNat_lt⟩

theorem prefix_name (cpu : PrintedCpu) : ['c', 'p', 'u'] <+: cpu.name := List.prefix_append _ _

/-- **The columns of a printed CPU are read as that CPU.** -/
theorem exists_ofRow_columns (cpu : PrintedCpu) :
    ∃ line, ofRow cpu.columns = .ok line ∧ cpu.IsToldBy line := by
  have hlength : (cpu.counters.map UInt64.toNat).length = cpu.counters.length := List.length_map _
  let line : CpuLine := {
    cpu := cpu.number.map UInt32.toNat
    ticks := cpu.counters.map UInt64.toNat
    four_le := hlength ▸ four_le_length_counters cpu
    le_ten := hlength ▸ length_counters_le cpu }
  have hcount : (line.ticks.map decimal).length = line.ticks.length := List.length_map _
  have hcolumns : (line.ticks.map decimal).take 10 = line.ticks.map decimal :=
    List.take_of_length_le (hcount ▸ line.le_ten)
  have hsmall : ∀ n ∈ line.ticks, n < wordLimit := by
    intro n hn
    obtain ⟨counter, -, rfl⟩ := List.mem_map.mp hn
    exact counter.toNat_lt
  have hread : ofRow cpu.columns = .ok line := by
    refine ofColumns_eq_ok_iff.mpr ⟨?_, hcount ▸ line.four_le, ?_⟩
    · exact (numberOf?_eq_some_iff (prefix_name cpu)).mpr (isCpuName_name cpu)
    · show words? ((line.ticks.map decimal).take 10) = some line.ticks
      rw [hcolumns, words?_map_decimal hsmall]
  refine ⟨line, hread, rfl, fun state => ?_⟩
  rw [← getElem?_counters]
  exact List.getElem?_map

theorem isColumn_columns (cpu : PrintedCpu) : ∀ column ∈ cpu.columns, IsColumn column := by
  have hcpu : IsColumn ['c', 'p', 'u'] := by decide
  have hname : IsColumn cpu.name := by
    unfold PrintedCpu.name
    cases cpu.number with
    | none => exact hcpu
    | some number =>
      refine ⟨List.cons_ne_nil _ _, List.forall_mem_append.mpr ⟨hcpu.not_blank, ?_⟩⟩
      exact (isColumn_decimal number.toNat).not_blank
  refine List.forall_mem_cons.mpr ⟨hname, fun column hcolumn => ?_⟩
  obtain ⟨n, -, rfl⟩ := List.mem_map.mp hcolumn
  exact isColumn_decimal n

theorem columns_text (cpu : PrintedCpu) : columns cpu.text = cpu.columns := by
  refine columns_laidOut (isColumn_columns cpu) fun i hi => cpu.gap_pos i ?_
  simpa [PrintedCpu.columns, PrintedCpu.counters] using hi

/-- Every printed line is that of a CPU, and nothing else is printed. -/
theorem cpuRows_cpuTable (cpus : List PrintedCpu) :
    cpuRows (cpuTable cpus) = cpus.map PrintedCpu.columns := by
  have hlines : lines (unlines (cpus.map PrintedCpu.text)) = cpus.map PrintedCpu.text :=
    lines_unlines_laidOut isColumn_columns cpus
  have hrows : (cpus.map PrintedCpu.text).map columns = cpus.map PrintedCpu.columns := by
    rw [List.map_map]
    exact List.map_congr_left fun cpu _ => columns_text cpu
  rw [cpuRows, cpuTable, String.toList_ofList, hlines, hrows, List.filter_eq_self]
  intro row hrow
  obtain ⟨cpu, -, rfl⟩ := List.mem_map.mp hrow
  exact decide_eq_true (prefix_name cpu)

/-- **Printed CPUs are read as they were.** -/
theorem exists_parse_cpuTable (cpus : List PrintedCpu) :
    ∃ lines, parse (cpuTable cpus) = .ok lines
      ∧ List.Forall₂ PrintedCpu.IsToldBy cpus lines := by
  rw [parse_eq_mapM, cpuRows_cpuTable, List.mapM_map]
  choose line hread htold using exists_ofRow_columns
  refine ⟨cpus.map line, mapM_eq_ok_map fun cpu _ => hread cpu, ?_⟩
  exact List.forall₂_map_right_iff.mpr (List.forall₂_same.mpr fun cpu _ => htold cpu)

/-- **CPU lines are read row by row.** A text is read iff each row of a CPU is
in order, and then as the lines of these rows; otherwise it is refused for the
first row that is not in order, and for what is wrong with that one. A line has
no number only if it is that of all CPUs together, tells the states that the
row is long enough for, and with a state all older ones. Nothing but the first
eleven columns of these rows makes a difference. And what was printed of CPUs
gives them back. -/
theorem cpu_lines_row_by_row (text : String) :
    ((∃ lines, parse text = .ok lines) ↔ ∀ row ∈ cpuRows text, IsCpuRow row)
    ∧ (∀ lines, parse text = .ok lines ↔ List.Forall₂ IsCpuLine (cpuRows text) lines)
    ∧ (∀ cause, parse text = .error cause ↔ ∃ before row after,
        cpuRows text = before ++ row :: after
          ∧ (∀ other ∈ before, IsCpuRow other) ∧ CpuRowFails row cause)
    ∧ (∀ row line, IsCpuLine row line →
        (line.cpu = none ↔ row[0]? = some ['c', 'p', 'u'])
        ∧ (∀ state, (line.ticks? state).isSome ↔ state.column + 1 < row.length)
        ∧ ∀ older newer : CpuState, older.column ≤ newer.column →
            (line.ticks? newer).isSome → (line.ticks? older).isSome)
    ∧ (∀ other, (cpuRows other).map (List.take 11) = (cpuRows text).map (List.take 11) →
        parse other = parse text)
    ∧ ∀ cpus, ∃ lines, parse (cpuTable cpus) = .ok lines
        ∧ List.Forall₂ PrintedCpu.IsToldBy cpus lines := by
  refine ⟨exists_parse_eq_ok_iff, (decides_parse text).ok_iff, (decides_parse text).error_iff,
    fun row line h => ⟨cpu_eq_none_iff h, isSome_ticks?_iff h, fun older newer hle hnewer => ?_⟩,
    fun other => parse_congr_of_rows, exists_parse_cpuTable⟩
  have hlength := (isSome_ticks?_iff h newer).mp hnewer
  exact (isSome_ticks?_iff h older).mpr (by omega)

/-- A table of one CPU that tells every state, and of one that tells the four
oldest ones. -/
def unequalRows : String := "cpu  9 8 7 6 5 4 3 2 1 0\ncpu4 1 2 3 4\n"

/-- The same CPUs, with columns behind the tenth counter and with lines between
them. -/
def disturbedRows : String :=
  "intr 7 cpu\ncpu 9 8 7 6 5 4 3 2 1 0 x 11\n\nctxt -1\n\tcpu4  1 2 3 4 \r\nsoftirq"

/-- Neither the columns nor the lines make a difference, and the shorter row
tells as much as it did. -/
theorem cpu_lines_row_by_row_disturbed :
    ∃ all one : CpuLine, parse disturbedRows = .ok [all, one]
      ∧ parse disturbedRows = parse unequalRows
      ∧ (all.cpu = none ∧ one.cpu ≠ none)
      ∧ ((all.ticks? .guestNice).isSome ∧ (all.ticks? .iowait).isSome)
      ∧ (one.ticks? .idle).isSome ∧ ¬ (one.ticks? .iowait).isSome := by
  obtain ⟨-, hlines, -, htold, hsame, -⟩ := cpu_lines_row_by_row unequalRows
  have hrows : cpuRows unequalRows
      = ["cpu 9 8 7 6 5 4 3 2 1 0".toList, "cpu4 1 2 3 4".toList].map columns := by
    decide +kernel
  have hread : parse unequalRows
      = .ok [⟨none, [9, 8, 7, 6, 5, 4, 3, 2, 1, 0], by decide, by decide⟩,
        ⟨some 4, [1, 2, 3, 4], by decide, by decide⟩] := by
    decide +kernel
  have hboth := (hlines _).mp hread
  rw [hrows] at hboth
  obtain ⟨hall, hone, -⟩ := by simpa only [List.map_cons, List.forall₂_cons] using hboth
  obtain ⟨hname, hlong, holder⟩ := htold _ _ hall
  obtain ⟨hnumber, hshort, -⟩ := htold _ _ hone
  have hparse := hsame disturbedRows (by decide +kernel)
  have hguest := (hlong .guestNice).mpr (by decide +kernel)
  refine ⟨_, _, hparse.trans hread, hparse, ⟨hname.mpr (by decide +kernel), ?_⟩,
    ⟨hguest, holder .iowait .guestNice (by decide) hguest⟩, (hshort .idle).mpr (by decide +kernel),
    mt (hshort .iowait).mp (by decide +kernel)⟩
  exact mt hnumber.mp (by decide +kernel)

end CpuLine

end Proc

end HostMetrics
