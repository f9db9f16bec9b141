import HostMetrics.Proc.DiskLine
import HostMetrics.Proofs.Layout
import HostMetrics.Proofs.Numerals
import HostMetrics.Proofs.Sequence

/-!
# Which disks are read

No text of disk lines is refused. A line of fewer than fourteen columns is
passed over, and any other line is a disk (`diskRows`), whose numbers are
those in its columns. Each number depends on its own column and on nothing
else: a column that is no number of 64 bits counts as zero and leaves its
neighbours alone (`Counts`).

Lines do not depend on each other either. Of two texts, the first of them
ended by a line feed, the disks are those of the one and then those of the
other (`DiskLine.parse_append_feed`). So a table that was printed from disks
gives them back, also if columns of it are broken, if further columns stand
behind the fourteenth and if the spacing is not that of the kernel
(`DiskLine.disks_line_by_line`).
-/

namespace HostMetrics.Proc

open Text

/-- **What a column counts**: the value of a numeral of 64 bits, and nothing if
the column is none. -/
def Counts (column : List Char) (n : Nat) : Prop :=
  (IsNumeral 10 column n ∧ n < wordLimit) ∨ (¬ ∃ m < wordLimit, IsNumeral 10 column m) ∧ n = 0

/-- **A line that is a disk**: two numbers of the device, its name, and then
what it counts. The twelfth and the fourteenth column are not told. -/
structure IsDisk (line : List Char) (disk : DiskLine) : Prop where
  /-- The third column is the name. -/
  device : StandsAt (columns line) 2 (fun column name => name = String.ofList column) disk.device
  /-- The fourth column counts reads. -/
  reads : StandsAt (columns line) 3 Counts disk.reads
  /-- The fifth column counts the reads that were merged. -/
  readsMerged : StandsAt (columns line) 4 Counts disk.readsMerged
  /-- The sixth column counts sectors that were read. -/
  readSectors : StandsAt (columns line) 5 Counts disk.readSectors
  /-- The seventh column is the time of reading. -/
  readTime : StandsAt (columns line) 6 Counts disk.readTime
  /-- The eighth column counts writes. -/
  writes : StandsAt (columns line) 7 Counts disk.writes
  /-- The ninth column counts the writes that were merged. -/
  writesMerged : StandsAt (columns line) 8 Counts disk.writesMerged
  /-- The tenth column counts sectors that were written. -/
  writeSectors : StandsAt (columns line) 9 Counts disk.writeSectors
  /-- The eleventh column is the time of writing. -/
  writeTime : StandsAt (columns line) 10 Counts disk.writeTime
  /-- The thirteenth column is the time of being busy. -/
  busyTime : StandsAt (columns line) 12 Counts disk.busyTime

/-- **The disk lines of a text**: those of fourteen columns at least. -/
def diskRows (text : String) : List (List Char) :=
  (lines text.toList).filter fun line => 14 ≤ (columns line).length

/-! ## Printed disks -/

/-- **A counter as it is printed**: in decimal digits, or as a column that is
no number of 64 bits. -/
inductive PrintedCounter
  /-- A number. -/
  | number (n : UInt64)
  /-- Anything else. -/
  | broken (column : List Char) (isColumn : IsColumn column)
      (no_number : ¬ ∃ n < wordLimit, IsNumeral 10 column n)

namespace PrintedCounter

/-- The column of a counter. -/
def column : PrintedCounter → List Char
  | number n => decimal n.toNat
  | broken column _ _ => column

/-- The value of a counter. -/
def value : PrintedCounter → Nat
  | number n => n.toNat
  | broken _ _ _ => 0

theorem isColumn_column (c : PrintedCounter) : IsColumn c.column := by
  cases c with
  | number n => exact isColumn_decimal n.toNat
  | broken _ h _ => exact h

theorem counts_column (c : PrintedCounter) : Counts c.column c.value := by
  cases c with
  | number n => exact .inl ⟨isNumeral_decimal n.toNat, n.toNat_lt⟩
  | broken _ _ h => exact .inr ⟨h, rfl⟩

end PrintedCounter

/-- **A disk as it is printed.** -/
structure PrintedDisk where
  /-- The number of the driver. -/
  major : List Char
  /-- The number of the device under its driver. -/
  minor : List Char
  /-- The name of the device. -/
  name : List Char
  /-- What is counted of it. -/
  counter : Fin 11 → PrintedCounter
  /-- Columns that newer kernels add. -/
  further : List (List Char)
  /-- The number of spaces before each column, and behind the last one. -/
  gap : Nat → Nat
  /-- Columns that are not counters are columns all the same. -/
  isColumn : ∀ column ∈ major :: minor :: name :: further, IsColumn column
  /-- Some space stands between two columns. -/
  gap_pos : ∀ i, i + 1 < 14 + further.length → 0 < gap (i + 1)

namespace PrintedDisk

/-- The columns of counters. -/
def counters (disk : PrintedDisk) : List (List Char) :=
  List.ofFn fun i => (disk.counter i).column

/-- The columns of a printed disk. -/
def columns (disk : PrintedDisk) : List (List Char) :=
  disk.major :: disk.minor :: disk.name :: (disk.counters ++ disk.further)

/-- The line of a printed disk. -/
def text (disk : PrintedDisk) : List Char := laidOut disk.gap disk.columns

/-- **The disk that was printed**: reads, merged reads, sectors and time come
first, and the same of writes behind them. The last but one of the eleven
counters is the busy time, and the ones around it are not told. -/
def told (disk : PrintedDisk) : DiskLine where
  device := String.ofList disk.name
  reads := (disk.counter 0).value
  readsMerged := (disk.counter 1).value
  readSectors := (disk.counter 2).value
  readTime := (disk.counter 3).value
  writes := (disk.counter 4).value
  writesMerged := (disk.counter 5).value
  writeSectors := (disk.counter 6).value
  writeTime := (disk.counter 7).value
  busyTime := (disk.counter 9).value

theorem length_columns (disk : PrintedDisk) : disk.columns.length = 14 + disk.further.length := by
  simp only [columns, counters, List.length_cons, List.length_append, List.length_ofFn]
  omega

theorem isColumn_columns (disk : PrintedDisk) : ∀ column ∈ disk.columns, IsColumn column := by
  have hcounter : ∀ column ∈ disk.counters, IsColumn column := by
    intro column hcolumn
    obtain ⟨i, rfl⟩ := List.mem_ofFn.mp hcolumn
    exact (disk.counter i).isColumn_column
  have hother := disk.isColumn
  simp only [columns, List.forall_mem_cons, List.forall_mem_append] at hother ⊢
  exact ⟨hother.1, hother.2.1, hother.2.2.1, hcounter, hother.2.2.2⟩

theorem columns_text (disk : PrintedDisk) : Text.columns disk.text = disk.columns :=
  columns_laidOut disk.isColumn_columns fun i hi => disk.gap_pos i (disk.length_columns ▸ hi)

/-- Each counter stands in its own column, behind the first three. -/
theorem counter_standsAt (disk : PrintedDisk) (i : Fin 11) :
    StandsAt disk.columns (i + 3) Counts (disk.counter i).value := by
  refine ⟨(disk.counter i).column, ?_, (disk.counter i).counts_column⟩
  have hi : i < disk.counters.length := i.isLt.trans_eq List.length_ofFn.symm
  show (disk.counters ++ disk.further)[i.val]? = _
  rw [List.getElem?_append_left hi, counters, List.getElem?_ofFn, dif_pos i.isLt]

/-- **The line of a printed disk is that disk.** -/
theorem isDisk_text (disk : PrintedDisk) : IsDisk disk.text disk.told := by
  have hcounter := disk.counter_standsAt
  constructor
  case device => exact ⟨disk.name, congrArg (·[2]?) disk.columns_text, rfl⟩
  all_goals rw [columns_text]
  · exact hcounter 0
  · exact hcounter 1
  · exact hcounter 2
  · exact hcounter 3
  · exact hcounter 4
  · exact hcounter 5
  · exact hcounter 6
  · exact hcounter 7
  · exact hcounter 9

end PrintedDisk

/-- The text of printed disks, each on its line. -/
def diskTable (disks : List PrintedDisk) : String :=
  String.ofList (unlines (disks.map PrintedDisk.text))

namespace DiskLine

/-! ## What a line says -/

theorem counts_iff {column : List Char} {n : Nat} :
    Counts column n ↔ (word? column).getD 0 = n := by
  unfold Counts
  cases h : word? column with
  | some m =>
    obtain ⟨hm, hlt⟩ := word?_eq_some_iff.mp h
    rw [← word?_eq_some_iff, h, Option.some.injEq]
    exact or_iff_left fun hnone => hnone.1 ⟨m, hlt, hm⟩
  | none =>
    rw [← word?_eq_some_iff, h, Option.getD_none, eq_comm (a := 0)]
    have hnone : ¬ ∃ m < wordLimit, IsNumeral 10 column m :=
      (unsigned?_eq_none_iff (by decide)).mp h
    exact ⟨fun h => h.elim (fun h => nomatch h) And.right, fun h => .inr ⟨hnone, h⟩⟩

theorem standsAt_counts_iff {cs : List (List Char)} {i n : Nat} (h : i < cs.length) :
    StandsAt cs i Counts n ↔ counterAt cs i = n := by
  rw [counterAt, List.getElem?_eq_getElem h, Option.bind_some, ← counts_iff]
  constructor
  · rintro ⟨column, hcolumn, hn⟩
    rw [List.getElem?_eq_getElem h] at hcolumn
    exact Option.some.inj hcolumn ▸ hn
  · exact fun hn => ⟨cs[i], List.getElem?_eq_getElem h, hn⟩

/-- **A line of enough columns is read as the one disk that it is.** -/
theorem isDisk_iff {line : List Char} {disk : DiskLine} (h : 14 ≤ (columns line).length) :
    IsDisk line disk ↔ ofColumns? (columns line) = some disk := by
  have hcolumn : ∀ {i n}, i < 14 → (StandsAt (columns line) i Counts n ↔
      counterAt (columns line) i = n) := fun hi => standsAt_counts_iff (Nat.lt_of_lt_of_le hi h)
  have hname := List.getElem?_eq_getElem (Nat.lt_of_lt_of_le (by decide : 2 < 14) h)
  rw [ofColumns?, if_neg (Nat.not_lt.mpr h), Option.some.injEq]
  constructor
  · intro hdisk
    obtain ⟨column, hthird, hdevice⟩ := hdisk.device
    have h3 := (hcolumn (by decide)).mp hdisk.reads
    have h4 := (hcolumn (by decide)).mp hdisk.readsMerged
    have h5 := (hcolumn (by decide)).mp hdisk.readSectors
    have h6 := (hcolumn (by decide)).mp hdisk.readTime
    have h7 := (hcolumn (by decide)).mp hdisk.writes
    have h8 := (hcolumn (by decide)).mp hdisk.writesMerged
    have h9 := (hcolumn (by decide)).mp hdisk.writeSectors
    have h10 := (hcolumn (by decide)).mp hdisk.writeTime
    have h12 := (hcolumn (by decide)).mp hdisk.busyTime
    rw [hthird, h3, h4, h5, h6, h7, h8, h9, h10, h12, Option.getD_some, ← hdevice]
  · rintro rfl
    refine ⟨⟨_, hname, ?_⟩, ?_, ?_, ?_, ?_, ?_, ?_, ?_, ?_, ?_⟩
    · rw [hname, Option.getD_some]
    all_goals exact (hcolumn (by decide)).mpr rfl

/-- **The disks of a text are those of its disk lines**, in their order. -/
theorem parse_eq_iff {text : String} {disks : List DiskLine} :
    parse text = disks ↔ List.Forall₂ IsDisk (diskRows text) disks := by
  refine filterMap_eq_iff_forall₂ (fun line hline => ?_) (fun line hline => ?_)
  · have hlength : 14 ≤ (columns line).length := of_decide_eq_true hline
    exact ⟨⟨_, if_neg (Nat.not_lt.mpr hlength)⟩, fun disk => isDisk_iff hlength⟩
  · exact if_pos (Nat.lt_of_not_le (of_decide_eq_false hline))

/-! ## Text by text and line by line -/

/-- **A text behind a line feed is read on its own.** -/
theorem parse_append_feed (text other : String) :
    parse (text ++ "\n" ++ other) = parse (text ++ "\n") ++ parse other := by
  unfold parse
  have hlines := lines_append_cons_feed text.toList other.toList
  rw [String.toList_append, String.toList_append, List.append_assoc]
  show (lines (text.toList ++ '\n' :: other.toList)).filterMap _ = _
  rw [hlines, List.filterMap_append]
  rfl

theorem parse_diskTable (disks : List PrintedDisk) :
    parse (diskTable disks) = disks.map PrintedDisk.told := by
  have hlines : lines (unlines (disks.map PrintedDisk.text)) = disks.map PrintedDisk.text :=
    lines_unlines_laidOut PrintedDisk.isColumn_columns disks
  rw [parse, diskTable, String.toList_ofList, hlines, List.filterMap_map, ← List.filterMap_eq_map]
  refine List.filterMap_congr fun disk _ => (isDisk_iff ?_).mp disk.isDisk_text
  rw [disk.columns_text, disk.length_columns]
  exact Nat.le_add_right 14 _

/-- **Disks are read line by line.** A text has one disk for each of its disk
lines, in their order, and each number of a disk is told by its own column. A
text ended by a line feed and the text behind it are read apart from each
other. And what was printed of disks gives them back. -/
theorem disks_line_by_line :
    (∀ text disks, parse text = disks ↔ List.Forall₂ IsDisk (diskRows text) disks)
    ∧ (∀ text other, parse (text ++ "\n" ++ other) = parse (text ++ "\n") ++ parse other)
    ∧ ∀ disks, parse (diskTable disks) = disks.map PrintedDisk.told :=
  ⟨fun _ _ => parse_eq_iff, parse_append_feed, parse_diskTable⟩

end DiskLine

end HostMetrics.Proc
