import HostMetrics.Label.Digest
import Mathlib.Data.Nat.Bitwise
import Mathlib.Tactic.SplitIfs

/-!
# What a digest is taken of

The bytes that a digest is taken of say which labels a set has. They are put
together from pieces of any length, and the bytes that stand between the pieces
can stand inside a value as well. What makes them readable is the order in
which they are read. A key ends at its first zero byte, since it has none
inside. The letter behind it tells the kind of the value. An integer takes
eight bytes, whichever they are, and a text ends at its first byte `FF`, which
no character has in UTF-8. So the first label is told from what follows it
(`labelDigestBytes_append_inj`), and then the next one in the same way.

A key with a zero byte inside would end too early. Where there is none, two
different sets have one digest only if the hash has it for different bytes.
-/

namespace HostMetrics

variable {byte : UInt8} {rest rest' : List UInt8}

/-- **A piece ends at the first byte of a kind** that it does not hold. -/
theorem append_cons_inj {stop : UInt8} {front front' : List UInt8} (hfront : stop ∉ front)
    (hfront' : stop ∉ front') (h : front ++ stop :: rest = front' ++ stop :: rest') :
    front = front' ∧ rest = rest' := by
  have htake : ∀ front rest : List UInt8, stop ∉ front →
      (front ++ stop :: rest).takeWhile (· != stop) = front := by
    intro front rest hstop
    have hall : ∀ b ∈ front, (b != stop) = true := fun b hb =>
      bne_iff_ne.mpr fun heq => hstop (heq ▸ hb)
    rw [List.takeWhile_append_of_pos hall, List.takeWhile_cons_of_neg (by simp), List.append_nil]
  have hsame : front = front' := by
    rw [← htake front rest hfront, h, htake front' rest' hfront']
  subst hsame
  exact ⟨rfl, (List.cons.inj (List.append_cancel_left h)).2⟩

/-! ## The bytes of a text -/

theorem utf8_eq_flatMap (s : String) : utf8 s = s.toList.flatMap String.utf8EncodeChar := by
  have hbytes : s.toByteArray = s.toList.utf8Encode := by
    rw [← String.toByteArray_ofList, String.ofList_toList]
  show s.toByteArray.data.toList = _
  rw [hbytes, List.utf8Encode, List.toList_data_toByteArray]

/-- No byte of a character is `FF`, and the zero byte is that of the zero
character. -/
theorem byte_of_mem_utf8EncodeChar {c : Char} (h : byte ∈ String.utf8EncodeChar c) :
    byte ≠ 0xFF ∧ (byte = 0 → c = '\x00') := by
  obtain ⟨n, rfl, hn, hzero⟩ : ∃ n, byte = UInt8.ofNat n ∧ n < 0xF8 ∧ (n = 0 → c.toNat = 0) := by
    unfold String.utf8EncodeChar at h
    simp only at h
    split_ifs at h
    · obtain rfl := List.mem_singleton.mp h
      exact ⟨_, rfl, by omega, id⟩
    all_goals
      simp only [List.mem_cons, List.not_mem_nil, or_false] at h
    · obtain rfl | rfl := h <;> exact ⟨_, rfl, by omega, by omega⟩
    · obtain rfl | rfl | rfl := h <;> exact ⟨_, rfl, by omega, by omega⟩
    · obtain rfl | rfl | rfl | rfl := h <;> exact ⟨_, rfl, by omega, by omega⟩
  have hvalue : (UInt8.ofNat n).toNat = n := by
    rw [UInt8.toNat_ofNat', Nat.mod_eq_of_lt (by omega)]
  constructor
  · intro hlast
    rw [hlast] at hvalue
    exact absurd hn (hvalue ▸ by decide)
  · intro hfirst
    rw [hfirst] at hvalue
    rw [← Char.ofNat_toNat c, hzero hvalue.symm]

theorem not_mem_utf8 (s : String) : 0xFF ∉ utf8 s := by
  rw [utf8_eq_flatMap]
  intro h
  obtain ⟨c, -, hbyte⟩ := List.mem_flatMap.mp h
  exact (byte_of_mem_utf8EncodeChar hbyte).1 rfl

theorem zero_not_mem_utf8 {s : String} (h : '\x00' ∉ s.toList) : 0 ∉ utf8 s := by
  rw [utf8_eq_flatMap]
  intro hmem
  obtain ⟨c, hc, hbyte⟩ := List.mem_flatMap.mp hmem
  exact h ((byte_of_mem_utf8EncodeChar hbyte).2 rfl ▸ hc)

/-! ## The bytes of an integer -/

/-- The bits of a byte of a word are bits of the word. -/
theorem testBit_byte (word : UInt64) {place bit : Nat} (hplace : place < 8) (hbit : bit < 8) :
    (word >>> (8 * place).toUInt64).toUInt8.toNat.testBit bit
      = word.toNat.testBit (8 * place + bit) := by
  have hshift : (8 * place).toUInt64.toNat % 64 = 8 * place := by
    rw [Nat.toUInt64, UInt64.toNat_ofNat']
    omega
  rw [UInt64.toNat_toUInt8, UInt64.toNat_shiftRight, hshift, Nat.testBit_mod_two_pow,
    Nat.testBit_shiftRight, decide_eq_true hbit, Bool.true_and]

/-- **An integer is known by its bytes.** -/
theorem Int64.bytes_injective {m n : Int64} (h : Int64.bytes m = Int64.bytes n) : m = n := by
  have hbytes := List.map_inj_left.mp h
  have hwords : m.toUInt64 = n.toUInt64 := by
    refine UInt64.toNat_inj.mp (Nat.eq_of_testBit_eq fun k => ?_)
    by_cases hk : k < 64
    · have hbyte := congrArg UInt8.toNat (hbytes (k / 8) (List.mem_range.mpr (by omega)))
      have hbit := congrArg (Nat.testBit · (k % 8)) hbyte
      simp only [testBit_byte _ (by omega : k / 8 < 8) (Nat.mod_lt k (by decide)),
        Nat.div_add_mod] at hbit
      exact hbit
    · have hbeyond (word : UInt64) : word.toNat.testBit k = false :=
        Nat.testBit_lt_two_pow
          (word.toNat_lt.trans_le (Nat.pow_le_pow_right (by decide) (by omega)))
      rw [hbeyond, hbeyond]
  exact Int64.toBitVec_inj.mp (congrArg UInt64.toBitVec hwords)

/-! ## The bytes of a label -/

/-- **A value is told from what follows it.** -/
theorem LabelValue.digestBytes_append_inj {value value' : LabelValue}
    (h : value.digestBytes ++ 0xFF :: rest = value'.digestBytes ++ 0xFF :: rest') :
    value = value' ∧ rest = rest' := by
  cases value with
  | int m =>
    cases value' with
    | int n =>
      obtain ⟨-, h⟩ := List.cons.inj h
      obtain ⟨hbytes, h⟩ := List.append_inj h rfl
      exact ⟨congrArg int (Int64.bytes_injective hbytes), (List.cons.inj h).2⟩
    | str t => exact absurd (List.cons.inj h).1 (by decide)
  | str s =>
    cases value' with
    | int n => exact absurd (List.cons.inj h).1 (by decide)
    | str t =>
      obtain ⟨-, h⟩ := List.cons.inj h
      obtain ⟨hbytes, h⟩ := append_cons_inj (not_mem_utf8 s) (not_mem_utf8 t) h
      exact ⟨congrArg str (utf8_injective hbytes), h⟩

/-- **A label is told from what follows it.** -/
theorem labelDigestBytes_append_inj {label label' : Label} (hkey : '\x00' ∉ label.1.toList)
    (hkey' : '\x00' ∉ label'.1.toList)
    (h : labelDigestBytes label ++ rest = labelDigestBytes label' ++ rest') :
    label = label' ∧ rest = rest' := by
  have hform (label : Label) (rest : List UInt8) : labelDigestBytes label ++ rest
      = utf8 label.1 ++ 0 :: (label.2.digestBytes ++ 0xFF :: rest) := by
    simp [labelDigestBytes]
  rw [hform, hform] at h
  obtain ⟨hbytes, h⟩ := append_cons_inj (zero_not_mem_utf8 hkey) (zero_not_mem_utf8 hkey') h
  obtain ⟨hvalue, h⟩ := LabelValue.digestBytes_append_inj h
  exact ⟨Prod.ext (utf8_injective hbytes) hvalue, h⟩

/-! ## The bytes of a set -/

/-- Different bytes with one hash. -/
def Hash.Xxh3.Collide (bytes bytes' : List UInt8) : Prop :=
  bytes ≠ bytes' ∧ hash bytes = hash bytes'

namespace LabelSet

/-- **Keys without a zero character.** -/
def PlainKeys (entries : List Label) : Prop := ∀ label ∈ entries, '\x00' ∉ label.1.toList

instance (entries : List Label) : Decidable (PlainKeys entries) :=
  inferInstanceAs (Decidable (∀ label ∈ entries, _))

/-- **Labels one after the other are told by their bytes.** -/
theorem entries_eq_of_flatMap {entries entries' : List Label} (hkeys : PlainKeys entries)
    (hkeys' : PlainKeys entries')
    (h : entries.flatMap labelDigestBytes = entries'.flatMap labelDigestBytes) :
    entries = entries' := by
  have hne (label : Label) (rest : List UInt8) : labelDigestBytes label ++ rest ≠ [] := by
    simp [labelDigestBytes]
  induction entries generalizing entries' with
  | nil =>
    cases entries' with
    | nil => rfl
    | cons label' entries' => exact absurd h.symm (hne label' _)
  | cons label entries ih =>
    cases entries' with
    | nil => exact absurd h (hne label _)
    | cons label' entries' =>
      obtain ⟨hfirst, hothers⟩ := List.forall_mem_cons.mp hkeys
      obtain ⟨hfirst', hothers'⟩ := List.forall_mem_cons.mp hkeys'
      obtain ⟨rfl, hrest⟩ := labelDigestBytes_append_inj hfirst hfirst' h
      rw [ih hothers hothers' hrest]

variable {s t : LabelSet}

/-- **A label set is told by the bytes of its digest**, as long as no key has a
zero character. So different sets have one digest only where the hash
collides. -/
theorem told_by_digestBytes (hs : PlainKeys s.entries) (ht : PlainKeys t.entries) :
    (s.digestBytes = t.digestBytes ↔ s = t)
    ∧ (s ≠ t → (s.digest = t.digest ↔ Hash.Xxh3.Collide s.digestBytes t.digestBytes)) := by
  have hbytes : s.digestBytes = t.digestBytes ↔ s = t :=
    ⟨fun h => ext (entries_eq_of_flatMap hs ht h), fun h => h ▸ rfl⟩
  exact ⟨hbytes, fun hne => ⟨fun h => ⟨fun heq => hne (hbytes.mp heq), h⟩, fun h => h.2⟩⟩

/-- An integer with the bytes of the end of a label and of another label `b`
behind it. -/
def deceptive : LabelSet := ofList [("a", .int 0x0000FF78730062FF)]

/-- A text with a zero byte, and the label `b`. -/
def twoLabels : LabelSet := ofList [("a", .str "c\x00"), ("b", .str "x")]

/-- Stop bytes inside the values do not make two sets look alike. -/
theorem told_by_digestBytes_stop_bytes :
    PlainKeys deceptive.entries ∧ PlainKeys twoLabels.entries
    ∧ deceptive.digestBytes ≠ twoLabels.digestBytes := by
  have hs : PlainKeys deceptive.entries := by decide
  have ht : PlainKeys twoLabels.entries := by decide
  exact ⟨hs, ht, fun h => absurd ((told_by_digestBytes hs ht).1.mp h) (by decide)⟩

/-- A zero character in a key makes two sets look alike. -/
example : (ofList [("a\x00sb", .str "c")]).digestBytes
    = (ofList [("a", .str "b\x00sc")]).digestBytes := by decide

end LabelSet

end HostMetrics
