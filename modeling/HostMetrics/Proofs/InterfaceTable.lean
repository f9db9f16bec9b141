import HostMetrics.Proc.InterfaceLine
import HostMetrics.Proofs.Cuts
import HostMetrics.Proofs.Layout
import HostMetrics.Proofs.Numerals

/-!
# Which interfaces are read

The kernel writes one row per network interface: the name, a colon and
sixteen counters, with spaces as it sees fit. Two headings stand above the
rows. Written out and read again, a row gives back the interface that it is
of, and its neighbours have no part in that: lines that are no rows are
passed over, and none of them moves a counter of another line.

There is one exception. A heading is told from a row by its bars, and the
kernel allows a bar in the name of an interface as it allows any character
but blanks, colons and slashes. The row of such an interface is taken for a
heading. The rows without a bar in the name are therefore the ones that are
read (`parse_interfaceTable`), and all are read exactly if there are no others.
-/

namespace HostMetrics.Proc

open Text

/-- **The row of an interface.** -/
structure InterfaceRow where
  /-- The name of the interface. -/
  name : List Char
  /-- Its counters, eight for what was received and eight for what was sent. -/
  counter : Fin 16 → UInt64
  /-- The number of spaces in front of the name. -/
  before : Nat
  /-- The number of spaces between the name and the colon. -/
  behind : Nat
  /-- The number of spaces before each counter, and behind the last one. -/
  gap : Nat → Nat
  /-- A name has characters, and none of them is blank. -/
  isColumn_name : IsColumn name
  /-- The first colon of the row stands behind the name. -/
  no_colon : ':' ∉ name
  /-- Some space stands between two counters. -/
  gap_pos : ∀ i, i + 1 < 16 → 0 < gap (i + 1)

namespace InterfaceRow

/-- The counters of a row, written out. -/
def columns (row : InterfaceRow) : List (List Char) :=
  List.ofFn fun i => decimal (row.counter i).toNat

/-- What stands in front of the colon of a row. -/
def front (row : InterfaceRow) : List Char := spaces row.before ++ (row.name ++ spaces row.behind)

/-- The text of a row. -/
def text (row : InterfaceRow) : List Char := row.front ++ ':' :: laidOut row.gap row.columns

/-- **The interface of a row**: the first four counters are bytes, packets,
errors and drops of what was received, and the ninth to the twelfth are those
of what was sent. -/
def interface (row : InterfaceRow) : InterfaceLine where
  interface := String.ofList row.name
  receivedBytes := (row.counter 0).toNat
  receivedPackets := (row.counter 1).toNat
  receiveErrors := (row.counter 2).toNat
  receiveDrops := (row.counter 3).toNat
  sentBytes := (row.counter 8).toNat
  sentPackets := (row.counter 9).toNat
  sendErrors := (row.counter 10).toNat
  sendDrops := (row.counter 11).toNat

end InterfaceRow

/-- **A heading**: a line with a bar. -/
structure HeadingLine where
  /-- Its text. -/
  text : List Char
  /-- It has a bar. -/
  bar : '|' ∈ text
  /-- It is one line. -/
  no_feed : '\n' ∉ text

/-- **A stray line**: one without a colon, or with fewer than sixteen columns
behind its first colon. -/
structure StrayLine where
  /-- Its text. -/
  text : List Char
  /-- Columns behind the first colon are too few. -/
  few : ∀ before after, text = before ++ ':' :: after → ':' ∉ before →
    (Text.columns after).length < 16
  /-- It is one line. -/
  no_feed : '\n' ∉ text

/-- **A line of an interface table.** The kernel puts the headings first, but
where they stand makes no difference. -/
inductive InterfaceTableLine
  /-- A heading. -/
  | heading (line : HeadingLine)
  /-- The row of an interface. -/
  | row (line : InterfaceRow)
  /-- Any line that is neither. -/
  | stray (line : StrayLine)

namespace InterfaceTableLine

/-- The text of a line. -/
def text : InterfaceTableLine → List Char
  | .heading line => line.text
  | .row line => line.text
  | .stray line => line.text

/-- The row that a line is, if it is one. -/
def row? : InterfaceTableLine → Option InterfaceRow
  | .row line => some line
  | .heading _ | .stray _ => none

end InterfaceTableLine

/-- The text of an interface table. -/
def interfaceTable (table : List InterfaceTableLine) : String :=
  String.ofList (unlines (table.map InterfaceTableLine.text))

/-- The rows of an interface table. -/
def interfaceRows (table : List InterfaceTableLine) : List InterfaceRow :=
  table.filterMap InterfaceTableLine.row?

namespace InterfaceLine

/-! ## What stands on a row -/

theorem mem_front {row : InterfaceRow} {c : Char} (h : c ∈ row.front) :
    c = ' ' ∨ c ∈ row.name := by
  rw [InterfaceRow.front, List.mem_append, List.mem_append] at h
  rcases h with hbefore | hname | hbehind
  · exact .inl (List.eq_of_mem_replicate hbefore)
  · exact .inr hname
  · exact .inl (List.eq_of_mem_replicate hbehind)

theorem mem_name_of_mem_text {row : InterfaceRow} {c : Char} (h : c ∈ row.text) (hspace : c ≠ ' ')
    (hcolon : c ≠ ':') (hdigit : digit? 10 c = none) : c ∈ row.name := by
  rw [InterfaceRow.text, List.mem_append, List.mem_cons] at h
  rcases h with hfront | hc | hcounters
  · exact (mem_front hfront).resolve_left hspace
  · exact absurd hc hcolon
  · obtain ⟨column, hcolumn, hc⟩ := (mem_laidOut hcounters).resolve_left hspace
    obtain ⟨i, rfl⟩ := List.mem_ofFn.mp hcolumn
    exact absurd hc (not_mem_toDigits (by decide) (by decide) hdigit _)

/-- A blank other than a space does not stand on a row. -/
theorem not_mem_text {row : InterfaceRow} {c : Char} (hblank : isBlank c = true)
    (hspace : c ≠ ' ') (hcolon : c ≠ ':') (hdigit : digit? 10 c = none) : c ∉ row.text := by
  intro h
  have hname := mem_name_of_mem_text h hspace hcolon hdigit
  rw [row.isColumn_name.not_blank c hname] at hblank
  cases hblank

theorem bar_mem_text_iff {row : InterfaceRow} : '|' ∈ row.text ↔ '|' ∈ row.name := by
  constructor
  · exact fun h => mem_name_of_mem_text h (by decide) (by decide) (by decide)
  · intro h
    exact List.mem_append_left _ (List.mem_append_right _ (List.mem_append_left _ h))

theorem colon_not_mem_front (row : InterfaceRow) : ':' ∉ row.front := fun h =>
  row.no_colon ((mem_front h).resolve_left (by decide))

theorem columns_counters (row : InterfaceRow) :
    columns (laidOut row.gap row.columns) = row.columns := by
  have hcolumns : row.columns.length = 16 := List.length_ofFn
  refine columns_laidOut (fun column h => ?_) fun i hi => row.gap_pos i (hcolumns ▸ hi)
  obtain ⟨i, rfl⟩ := List.mem_ofFn.mp h
  exact isColumn_decimal _

/-- Each counter of a row is read from its own column. -/
theorem counterAt_columns (row : InterfaceRow) (i : Nat) (h : i < 16) :
    counterAt row.columns i = (row.counter ⟨i, h⟩).toNat := by
  have hcolumn : row.columns[i]? = some (decimal (row.counter ⟨i, h⟩).toNat) := by
    rw [InterfaceRow.columns, List.getElem?_ofFn, dif_pos h]
  rw [counterAt, hcolumn, Option.bind_some, word?_decimal (row.counter ⟨i, h⟩).toNat_lt]
  rfl

/-! ## Line by line -/

/-- **A row is read as its interface**, unless its name holds a bar. -/
theorem ofLine?_text (row : InterfaceRow) :
    ofLine? row.text = if '|' ∈ row.name then none else some row.interface := by
  have hname : trim row.front = row.name := by
    rw [InterfaceRow.front, trim_blanks_append fun _ => isBlank_of_mem_spaces,
      row.isColumn_name.trim_append fun _ => isBlank_of_mem_spaces]
  have hlength : row.columns.length = 16 := List.length_ofFn
  by_cases hbar : '|' ∈ row.name
  · rw [if_pos hbar]
    exact if_pos (bar_mem_text_iff.mpr hbar)
  · rw [if_neg hbar, ofLine?, if_neg (mt bar_mem_text_iff.mp hbar), InterfaceRow.text,
      cutAt_append (colon_not_mem_front row)]
    simp only [Option.bind_some, columns_counters, hname, hlength, lt_irrefl, if_false]
    have hcounter := counterAt_columns row
    rw [hcounter 0 (by decide), hcounter 1 (by decide), hcounter 2 (by decide),
      hcounter 3 (by decide), hcounter 8 (by decide), hcounter 9 (by decide),
      hcounter 10 (by decide), hcounter 11 (by decide)]
    rfl

/-- A heading is passed over. -/
theorem ofLine?_heading (line : HeadingLine) : ofLine? (withoutReturn line.text) = none := by
  have hbar : '|' ∈ withoutReturn line.text := by
    have h := line.bar
    rcases exists_withoutReturn line.text with heq | heq
    · rwa [← heq]
    · rw [heq] at h
      simpa using h
  exact if_pos hbar

/-- A stray line is passed over. -/
theorem ofLine?_stray (line : StrayLine) : ofLine? (withoutReturn line.text) = none := by
  unfold ofLine?
  split
  · rfl
  · refine Option.bind_eq_none_iff.mpr fun (before, after) hcut => if_pos ?_
    obtain ⟨hline, hbefore⟩ := cutAt_eq_some_iff.mp hcut
    rcases exists_withoutReturn line.text with heq | heq
    · exact line.few before after (heq.trans hline) hbefore
    · -- the carriage return that was lost is a blank, so it was no column either
      have hfew := line.few before (after ++ ['\r']) (by rw [heq, hline]; simp) hbefore
      rwa [columns_append_blank (by decide), columns_nil, List.append_nil] at hfew

/-- **Lines are read apart from each other.** -/
theorem ofLine?_withoutReturn (line : InterfaceTableLine) :
    ofLine? (withoutReturn line.text)
      = (line.row?.filter fun row => '|' ∉ row.name).map InterfaceRow.interface := by
  cases line with
  | heading line => exact ofLine?_heading line
  | stray line => exact ofLine?_stray line
  | row row =>
    have hreturn : '\r' ∉ row.text := not_mem_text (by decide) (by decide) (by decide) (by decide)
    show ofLine? (withoutReturn row.text) = (Option.filter _ (some row)).map _
    rw [withoutReturn_of_not_mem hreturn, ofLine?_text, Option.filter_some]
    by_cases hbar : '|' ∈ row.name <;> simp [hbar]

theorem feed_not_mem_text (line : InterfaceTableLine) : '\n' ∉ line.text := by
  cases line with
  | heading line => exact line.no_feed
  | stray line => exact line.no_feed
  | row row =>
    show '\n' ∉ row.text
    exact not_mem_text (by decide) (by decide) (by decide) (by decide)

/-- The rows without a bar in the name are read, in their order. -/
theorem parse_interfaceTable (table : List InterfaceTableLine) :
    parse (interfaceTable table)
      = ((interfaceRows table).filter fun row => '|' ∉ row.name).map InterfaceRow.interface := by
  have hlines : lines (unlines (table.map InterfaceTableLine.text))
      = table.map fun line => withoutReturn line.text := by
    rw [lines_unlines_map, List.map_map]
    · rfl
    · intro l hl
      obtain ⟨line, -, rfl⟩ := List.mem_map.mp hl
      exact feed_not_mem_text line
  rw [parse, interfaceTable, String.toList_ofList, hlines, List.filterMap_map, interfaceRows,
    List.filter_filterMap, List.map_filterMap]
  exact List.filterMap_congr fun line _ => ofLine?_withoutReturn line

/-- **Every interface is read unless its name holds a bar.** Whatever stray
lines stand around the rows, and whatever the spacing, the rows are read as
their interfaces, in their order, without those whose name holds a bar. All
of them are read iff there are none of these. -/
theorem interfaces_read_iff_no_bar (table : List InterfaceTableLine) :
    parse (interfaceTable table)
        = ((interfaceRows table).filter fun row => '|' ∉ row.name).map InterfaceRow.interface
      ∧ (parse (interfaceTable table) = (interfaceRows table).map InterfaceRow.interface
        ↔ ∀ row ∈ interfaceRows table, '|' ∉ row.name) := by
  have hread := parse_interfaceTable table
  refine ⟨hread, fun hall => ?_, fun hplain => ?_⟩
  · -- two lists of one length, of which one is filtered: nothing was filtered out
    have hlength := congrArg List.length (hread.symm.trans hall)
    rw [List.length_map, List.length_map, List.length_filter_eq_length_iff] at hlength
    exact fun row hrow => of_decide_eq_true (hlength row hrow)
  · rw [hread, List.filter_eq_self.mpr fun row hrow => decide_eq_true (hplain row hrow)]

/-- A row of the sixteen counters from 1 to 16. -/
def countingRow (name : String) (h : IsColumn name.toList ∧ ':' ∉ name.toList) : InterfaceRow where
  name := name.toList
  counter i := .ofNat (i + 1)
  before := 2
  behind := 0
  gap i := if i < 16 then 1 else 0
  isColumn_name := h.1
  no_colon := h.2
  gap_pos i hi := by rw [if_pos hi]; exact Nat.one_pos

/-- A stray line, found to be one by cutting it. -/
def strayLine (text : String)
    (h : (∀ parts ∈ cutAt ':' text.toList, (columns parts.2).length < 16) ∧ '\n' ∉ text.toList) :
    StrayLine where
  text := text.toList
  few _ _ htext hbefore := h.1 _ (cutAt_eq_some_iff.mpr ⟨htext, hbefore⟩)
  no_feed := h.2

/-- A table in which a line breaks off behind its third counter and another
has no colon. The name of the one interface between them is a word of the
headings. -/
def disturbedTable : List InterfaceTableLine := [
  .heading ⟨"Inter-| Receive | Transmit".toList, by decide, by decide⟩,
  .stray (strayLine "  eth0: 1 2 3" (by decide)),
  .row (countingRow "face" (by decide)),
  .stray (strayLine "Receive 1 2 3 4 5 6 7 8 9 10 11 12 13 14 15 16" (by decide +kernel))]

/-- Neither of the stray lines is read, and neither moves a counter of the
interface. -/
theorem interfaces_read_iff_no_bar_disturbed :
    parse (interfaceTable disturbedTable) = [⟨"face", 1, 2, 3, 4, 9, 10, 11, 12⟩] :=
  ((interfaces_read_iff_no_bar disturbedTable).2.mpr (by decide)).trans (by decide)

/-- The table of one interface, whose name holds a bar. -/
def barredTable : List InterfaceTableLine := [
  .heading ⟨"Inter-|   Receive                                                |  Transmit".toList,
    by decide +kernel, by decide +kernel⟩,
  .heading ⟨" face |bytes    packets errs drop fifo frame compressed multicast|bytes    packets errs drop fifo colls carrier compressed".toList,
    by decide +kernel, by decide +kernel⟩,
  .row (countingRow "a|b" (by decide))]

/-- **An interface goes unread.** Its row is in order and is the only one of
the table, and nothing is read of the table. -/
theorem barred_interface_unread :
    (interfaceRows barredTable).map InterfaceRow.text
        = ["  a|b: 1 2 3 4 5 6 7 8 9 10 11 12 13 14 15 16".toList]
      ∧ (interfaceRows barredTable).map InterfaceRow.interface
        = [⟨"a|b", 1, 2, 3, 4, 9, 10, 11, 12⟩]
      ∧ parse (interfaceTable barredTable) = [] := by
  refine ⟨by decide +kernel, by decide +kernel, ?_⟩
  rw [parse_interfaceTable]
  decide

end InterfaceLine

end HostMetrics.Proc
