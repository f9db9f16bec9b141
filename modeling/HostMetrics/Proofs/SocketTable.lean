import HostMetrics.Proc.SocketLine
import HostMetrics.Proofs.Layout
import HostMetrics.Proofs.Sequence
import Mathlib.Tactic.Ring

/-!
# Reading a socket table undoes printing it

The kernel prints a socket table as a heading and one line per socket. An
address goes word by word, and the four bytes of a word, read as a number
with its least significant byte first, are printed as eight hexadecimal
digits; so the digits of a word stand in the order opposite to that of its
bytes, while the words keep theirs. Port and state follow in four and two
digits.

`SocketRow` is such a line together with what it describes, and
`socketTable` the text of a table. The reader gives back what the rows
describe, in their order (`SocketLine.parse_socketTable`). The facts behind
it are that a number has the value of its digits, that a word has the bytes
of its number, and that no hexadecimal digit is a blank, a colon or a sign,
so that each cut falls where the parts were joined.
-/

namespace HostMetrics.Text

/-! ## Hexadecimal digits -/

/-- A hexadecimal digit, in capitals. -/
def hexDigit (n : Nat) : Char := if n < 10 then .ofNat (48 + n) else .ofNat (55 + n)

/-- The last `width` hexadecimal digits of a number. -/
def hex : Nat → Nat → List Char
  | 0, _ => []
  | width + 1, n => hex width (n / 16) ++ [hexDigit (n % 16)]

/-- What holds of every digit holds of the digits of a number. -/
theorem forall_mem_hex {p : Char → Prop} (h : ∀ d < 16, p (hexDigit d)) {width n : Nat} :
    ∀ c ∈ hex width n, p c := by
  induction width generalizing n with
  | zero => exact fun _ hc => absurd hc List.not_mem_nil
  | succ width ih =>
    intro c hc
    rw [hex, List.mem_append, List.mem_singleton] at hc
    rcases hc with hc | rfl
    · exact ih c hc
    · exact h _ (Nat.mod_lt n (by decide))

theorem length_hex (width n : Nat) : (hex width n).length = width := by
  induction width generalizing n with
  | zero => rfl
  | succ width ih => rw [hex, List.length_append, ih, List.length_singleton]

theorem isColumn_hex {width : Nat} (hwidth : 0 < width) (n : Nat) : IsColumn (hex width n) where
  ne_nil := List.ne_nil_of_length_pos ((length_hex width n).symm ▸ hwidth)
  not_blank := forall_mem_hex (by decide)

/-- Digits take one byte each. -/
theorem utf8Size_of_mem_hex (width n : Nat) : ∀ c ∈ hex width n, c.utf8Size = 1 :=
  forall_mem_hex (by decide)

theorem digit?_hexDigit {d : Nat} (h : d < 16) : digit? 16 (hexDigit d) = some d := by
  revert d
  decide

/-- **Digits have the value of the number that they are the digits of**, as
far as they go. -/
theorem digitsFrom?_hex (width n acc : Nat) :
    digitsFrom? 16 acc (hex width n) = some (acc * 16 ^ width + n % 16 ^ width) := by
  induction width generalizing n with
  | zero =>
    rw [Nat.pow_zero, Nat.mod_one, Nat.mul_one]
    rfl
  | succ width ih =>
    have hlast : digitsFrom? 16 (acc * 16 ^ width + n / 16 % 16 ^ width) [hexDigit (n % 16)]
        = some ((acc * 16 ^ width + n / 16 % 16 ^ width) * 16 + n % 16) := by
      rw [digitsFrom?, digit?_hexDigit (Nat.mod_lt n (by decide))]
      rfl
    rw [hex, digitsFrom?_append, ih, Option.bind_some, hlast, Nat.pow_succ,
      Nat.mul_comm (16 ^ width) 16, Nat.mod_mul]
    refine congrArg some ?_
    ring

/-- A number that its digits are enough for is read from them. -/
theorem unsigned?_hex {width bound n : Nat} (hwidth : 0 < width) (hdigits : n < 16 ^ width)
    (hbound : n < bound) : unsigned? 16 bound (hex width n) = some n := by
  have hplus : '+' ∉ hex width n :=
    fun h => forall_mem_hex (p := (· ≠ '+')) (by decide) '+' h rfl
  have hvalue : digits? 16 (hex width n) = some n := by
    unfold digits?
    rw [if_neg (by simpa using (isColumn_hex hwidth n).ne_nil), digitsFrom?_hex, Nat.zero_mul,
      Nat.zero_add, Nat.mod_eq_of_lt hdigits]
  rw [unsigned?, dropPlus_of_not_mem hplus, hvalue, Option.filter_some,
    if_pos (decide_eq_true hbound)]

end HostMetrics.Text

namespace HostMetrics

open Text

/-! ## Words of addresses -/

/-- The number whose bytes, the least significant one first, are those of a
word. -/
def AddressWord.number (w : AddressWord) : Nat :=
  w.a.toNat + 0x100 * w.b.toNat + 0x10000 * w.c.toNat + 0x1000000 * w.d.toNat

/-- The words of an address, in their order. -/
def IpAddress.words : IpAddress → List AddressWord
  | v4 w => [w]
  | v6 w₀ w₁ w₂ w₃ => [w₀, w₁, w₂, w₃]

theorem AddressWord.number_lt (w : AddressWord) : w.number < limit32 := by
  have ha := w.a.toNat_lt
  have hb := w.b.toNat_lt
  have hc := w.c.toNat_lt
  have hd := w.d.toNat_lt
  unfold number limit32
  omega

namespace Proc

/-- The digits of words, one word after the other. -/
def wordDigits (ws : List AddressWord) : List Char := ws.flatMap fun w => hex 8 w.number

/-- An endpoint as the kernel prints it. -/
def endpointDigits (e : Endpoint) : List Char :=
  wordDigits e.address.words ++ ':' :: hex 4 e.port.toNat

/-- **A line of a socket table**, with what it describes. -/
structure SocketRow where
  /-- The first column, which numbers the lines. -/
  slot : List Char
  /-- The socket that the line describes. -/
  line : SocketLine
  /-- The columns behind the state. -/
  further : List (List Char)
  /-- The number of spaces before each column, and behind the last one. -/
  gap : Nat → Nat
  /-- The first column is one. -/
  isColumn_slot : IsColumn slot
  /-- So are those behind the state. -/
  isColumn_further : ∀ column ∈ further, IsColumn column
  /-- There are at least ten columns in all. -/
  six_le : 6 ≤ further.length
  /-- Some space stands between two columns. -/
  gap_pos : ∀ i, i + 1 < further.length + 4 → 0 < gap (i + 1)

namespace SocketRow

/-- The columns of a line. -/
def columns (row : SocketRow) : List (List Char) :=
  row.slot :: endpointDigits row.line.localEnd :: endpointDigits row.line.remoteEnd
    :: hex 2 row.line.state.toNat :: row.further

/-- The text of a line. -/
def text (row : SocketRow) : List Char := laidOut row.gap row.columns

end SocketRow

/-- **A socket table** as the kernel prints it. -/
def socketTable (heading : List Char) (rows : List SocketRow) : String :=
  String.ofList (heading ++ '\n' :: unlines (rows.map SocketRow.text))

/-! ## What is printed can be told apart -/

theorem forall_mem_wordDigits {p : Char → Prop} (h : ∀ d < 16, p (hexDigit d))
    (ws : List AddressWord) : ∀ c ∈ wordDigits ws, p c := by
  intro c hc
  obtain ⟨w, -, hw⟩ := List.mem_flatMap.mp hc
  exact forall_mem_hex h c hw

theorem byteLength_wordDigits (ws : List AddressWord) :
    byteLength (wordDigits ws) = 8 * ws.length := by
  rw [byteLength_eq_length (forall_mem_wordDigits (by decide) ws)]
  induction ws with
  | nil => rfl
  | cons w ws ih =>
    show (hex 8 w.number ++ wordDigits ws).length = _
    rw [List.length_append, length_hex, ih, List.length_cons, Nat.mul_succ, Nat.add_comm]

theorem isColumn_endpointDigits (e : Endpoint) : IsColumn (endpointDigits e) where
  ne_nil := List.append_ne_nil_of_right_ne_nil _ (List.cons_ne_nil _ _)
  not_blank := by
    intro c hc
    rcases List.mem_append.mp hc with hc | hc
    · exact forall_mem_wordDigits (p := (isBlank · = false)) (by decide) _ c hc
    rcases List.mem_cons.mp hc with rfl | hc
    · rfl
    · exact (isColumn_hex (by decide) _).not_blank c hc

theorem SocketRow.isColumn_columns (row : SocketRow) :
    ∀ column ∈ row.columns, IsColumn column := by
  unfold columns
  rw [List.forall_mem_cons, List.forall_mem_cons, List.forall_mem_cons, List.forall_mem_cons]
  exact ⟨row.isColumn_slot, isColumn_endpointDigits _, isColumn_endpointDigits _,
    isColumn_hex (by decide) _, row.isColumn_further⟩

/-! ## Reading undoes printing -/

namespace SocketLine

/-- **A word has the bytes of its number.** -/
theorem wordOfNumber_number (w : AddressWord) : wordOfNumber w.number = w := by
  have ha := w.a.toNat_lt
  have hb := w.b.toNat_lt
  have hc := w.c.toNat_lt
  have hd := w.d.toNat_lt
  have hbyte : ∀ (n : Nat) (byte : UInt8), n % 256 = byte.toNat → UInt8.ofNat n = byte :=
    fun n byte h => UInt8.toNat_inj.mp (by rw [UInt8.toNat_ofNat']; exact h)
  unfold wordOfNumber AddressWord.number
  cases w
  congr 1
  · exact hbyte _ _ (by simp only at *; omega)
  · exact hbyte _ _ (by simp only at *; omega)
  · exact hbyte _ _ (by simp only at *; omega)
  · exact hbyte _ _ (by simp only at *; omega)

theorem unsigned?_word (w : AddressWord) : unsigned? 16 limit32 (hex 8 w.number) = some w.number :=
  unsigned?_hex (by decide) w.number_lt w.number_lt

theorem addressWords_wordDigits (field : List Char) (ws : List AddressWord) :
    addressWords field ws.length (wordDigits ws) = .ok ws := by
  induction ws with
  | nil => rfl
  | cons w ws ih =>
    have hcut : cutBytes 8 (wordDigits (w :: ws)) = some (hex 8 w.number, wordDigits ws) := by
      have := cutBytes_append (utf8Size_of_mem_hex 8 w.number) (wordDigits ws)
      rwa [length_hex] at this
    simp only [List.length_cons, addressWords, hcut, unsigned?_word, ih, wordOfNumber_number]
    rfl

theorem address_wordDigits (field : List Char) (a : IpAddress) :
    address field (wordDigits a.words) = .ok a := by
  unfold address
  cases a with
  | v4 w =>
    have hlength : byteLength (wordDigits (IpAddress.v4 w).words) = 8 :=
      byteLength_wordDigits [w]
    have hdigits : wordDigits (IpAddress.v4 w).words = hex 8 w.number := List.append_nil _
    rw [if_pos hlength, hdigits, unsigned?_word]
    exact congrArg (fun w => Except.ok (IpAddress.v4 w)) (wordOfNumber_number w)
  | v6 w₀ w₁ w₂ w₃ =>
    have hlength : byteLength (wordDigits (IpAddress.v6 w₀ w₁ w₂ w₃).words) = 32 :=
      byteLength_wordDigits [w₀, w₁, w₂, w₃]
    have hwords : addressWords field 4 (wordDigits (IpAddress.v6 w₀ w₁ w₂ w₃).words)
        = .ok [w₀, w₁, w₂, w₃] := addressWords_wordDigits field [w₀, w₁, w₂, w₃]
    rw [hlength, if_neg (by decide), if_pos rfl, hwords]

theorem endpoint_endpointDigits (e : Endpoint) : endpoint (endpointDigits e) = .ok e := by
  have hcolon : ':' ∉ wordDigits e.address.words :=
    fun h => forall_mem_wordDigits (p := (· ≠ ':')) (by decide) _ ':' h rfl
  have hcut : cutAt ':' (endpointDigits e)
      = some (wordDigits e.address.words, hex 4 e.port.toNat) := cutAt_append hcolon _
  have hport : unsigned? 16 limit16 (hex 4 e.port.toNat) = some e.port.toNat :=
    unsigned?_hex (by decide) e.port.toNat_lt e.port.toNat_lt
  simp only [endpoint, hcut, hport, address_wordDigits, UInt16.ofNat_toNat]
  rfl

theorem ofFields_digits (line : SocketLine) :
    ofFields (endpointDigits line.localEnd) (endpointDigits line.remoteEnd)
      (hex 2 line.state.toNat) = .ok line := by
  have hstate : unsigned? 16 256 (hex 2 line.state.toNat) = some line.state.toNat :=
    unsigned?_hex (by decide) line.state.toNat_lt line.state.toNat_lt
  simp only [ofFields, hstate, endpoint_endpointDigits, ok_bind, UInt8.ofNat_toNat]
  rfl

theorem fields?_text (row : SocketRow) :
    fields? row.text = some (endpointDigits row.line.localEnd,
      endpointDigits row.line.remoteEnd, hex 2 row.line.state.toNat) := by
  have hcolumns : Text.columns row.text = row.columns :=
    columns_laidOut row.isColumn_columns row.gap_pos
  unfold fields?
  rw [hcolumns]
  exact if_neg (Nat.not_lt.mpr row.six_le)

/-- **The reader of socket tables gives back what was printed**: the
endpoints and the state of each row, in the order of the rows. -/
theorem parse_socketTable {heading : List Char} (hheading : '\n' ∉ heading)
    (rows : List SocketRow) :
    parse (socketTable heading rows) = .ok (rows.map SocketRow.line) := by
  have hrows : lines (unlines (rows.map SocketRow.text)) = rows.map SocketRow.text :=
    lines_unlines_laidOut SocketRow.isColumn_columns rows
  have hfields : (rows.map SocketRow.text).filterMap fields? = rows.map fun row =>
      (endpointDigits row.line.localEnd, endpointDigits row.line.remoteEnd,
        hex 2 row.line.state.toNat) := by
    rw [List.filterMap_map, ← List.filterMap_eq_map]
    exact List.filterMap_congr fun row _ => fields?_text row
  unfold parse socketTable
  rw [String.toList_ofList, lines_append_feed hheading, hrows]
  show ((rows.map SocketRow.text).filterMap fields?).mapM _ = _
  rw [hfields, List.mapM_map]
  exact mapM_eq_ok_map fun row _ => ofFields_digits row.line

/-- A line of the least number of columns, with single spaces between them
and three before the first one. -/
def shortRow (slot : List Char) (line : SocketLine) (h : IsColumn slot) : SocketRow where
  slot
  line
  further := List.replicate 6 ['1']
  gap i := if i = 0 then 3 else if i < 10 then 1 else 0
  isColumn_slot := h
  isColumn_further column hcolumn := List.eq_of_mem_replicate hcolumn ▸ (by decide)
  six_le := by decide
  gap_pos i hi := by
    have hten : i + 1 < 10 := hi
    rw [if_neg (Nat.succ_ne_zero i), if_pos hten]
    decide

/-- A socket of version 4 that listens at 10.1.2.3. -/
def listening : SocketLine := ⟨⟨.v4 ⟨10, 1, 2, 3⟩, 80⟩, ⟨.v4 .zero, 0⟩, 10⟩

/-- A socket of version 6 that is connected from 2001:db8::1. -/
def connected : SocketLine :=
  ⟨⟨.v6 ⟨0x20, 0x01, 0x0d, 0xb8⟩ .zero .zero ⟨0, 0, 0, 1⟩, 80⟩,
    ⟨.v6 ⟨0xfe, 0x80, 0, 0⟩ .zero .zero ⟨0x12, 0x34, 0x56, 0x78⟩, 54000⟩, 1⟩

/-- The text of a table of the two. -/
def bothVersions : String :=
  "  sl  local_address\n"
    ++ "   0: 0302010A:0050 00000000:0000 0A 1 1 1 1 1 1\n"
    ++ "   1: B80D0120000000000000000001000000:0050 000080FE000000000000000078563412:D2F0 "
    ++ "01 1 1 1 1 1 1\n"

/-- Both versions in one table, with addresses that no order of their bytes
but the right one gives back. -/
theorem parse_socketTable_both_versions :
    '\n' ∉ "  sl  local_address".toList
    ∧ socketTable "  sl  local_address".toList
        [shortRow ['0', ':'] listening (by decide),
          shortRow ['1', ':'] connected (by decide)] = bothVersions
    ∧ parse bothVersions = .ok [listening, connected] := by
  have hheading : '\n' ∉ "  sl  local_address".toList := by decide
  have htable : socketTable "  sl  local_address".toList
      [shortRow ['0', ':'] listening (by decide),
        shortRow ['1', ':'] connected (by decide)] = bothVersions := by
    decide +kernel
  refine ⟨hheading, htable, ?_⟩
  rw [← htable]
  exact parse_socketTable hheading _

end SocketLine

end Proc

end HostMetrics
