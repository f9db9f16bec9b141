import HostMetrics.Proofs.Layout
import HostMetrics.Text.Numeral
import Mathlib.Data.List.Forall2
import Mathlib.Data.Nat.Digits.Lemmas
import Mathlib.Tactic.Ring

/-!
# What a numeral is

A numeral is a text of one digit or more, in front of which one plus sign may
stand, and its value is that of its digits. A signed numeral may have a minus
sign there instead. Leading zeros change nothing, and nothing else may stand
in a numeral: no blank, no second sign, no separator.

`IsNumeral` and `IsSigned` say this without a reader. The readers accept
exactly these texts, as long as the value fits the width that is asked for,
and return their value (`unsigned?_eq_some_iff`, `signed?_eq_some_iff`). The
bound is one on the value and not on the number of digits.
-/

namespace HostMetrics.Text

/-- **A digit and its value**: a digit of the radix, a letter in either
case. -/
def IsDigit (radix : Nat) (c : Char) (value : Nat) : Prop :=
  value < radix ∧ (c = value.digitChar ∨ c = value.digitChar.toUpper)

/-- **Digits and their value**, the most significant digit first. -/
def AreDigits (radix : Nat) (s : List Char) (n : Nat) : Prop :=
  s ≠ [] ∧ ∃ values, List.Forall₂ (IsDigit radix) s values
    ∧ n = Nat.ofDigits radix values.reverse

/-- **A numeral and its value**: digits, with a plus sign in front of them
or without. -/
def IsNumeral (radix : Nat) (s : List Char) (n : Nat) : Prop :=
  ∃ digits, (s = digits ∨ s = '+' :: digits) ∧ AreDigits radix digits n

/-- **A signed numeral and its value**: a numeral, or digits behind a minus
sign. -/
def IsSigned (radix : Nat) (s : List Char) (z : Int) : Prop :=
  (∃ n : Nat, IsNumeral radix s n ∧ z = n)
    ∨ ∃ (digits : List Char) (n : Nat), s = '-' :: digits ∧ AreDigits radix digits n ∧ z = -n

variable {radix bound n : Nat} {c : Char} {s : List Char}

/-! ## Digits -/

theorem digit?_eq_some_of_le (hradix : radix ≤ 16) {d : Nat} :
    digit? radix c = some d ↔ digit? 16 c = some d ∧ d < radix := by
  simp only [digit?, Option.filter_eq_some_iff, decide_eq_true_eq]
  constructor
  · rintro ⟨hvalue, hd⟩
    exact ⟨⟨hvalue, hd.trans_le hradix⟩, hd⟩
  · rintro ⟨⟨hvalue, -⟩, hd⟩
    exact ⟨hvalue, hd⟩

/-- A digit is one of the first 128 characters, so these can be tried one by
one. -/
theorem toNat_lt_of_digit? {d : Nat} (h : digit? radix c = some d) : c.toNat < 128 := by
  simp only [digit?, Option.filter_eq_some_iff, Bool.and_eq_true, decide_eq_true_eq] at h
  by_contra hlarge
  rw [if_neg (by omega), if_neg (by omega), if_neg (by omega)] at h
  simp at h

theorem digit?_sixteen {d : Nat} :
    digit? 16 c = some d ↔ d < 16 ∧ (c = d.digitChar ∨ c = d.digitChar.toUpper) := by
  constructor
  · intro h
    have hchars : ∀ k < 128, ∀ d ∈ digit? 16 (.ofNat k),
        d < 16 ∧ (Char.ofNat k = d.digitChar ∨ Char.ofNat k = d.digitChar.toUpper) := by
      decide
    have := hchars c.toNat (toNat_lt_of_digit? h) d (by rwa [Char.ofNat_toNat])
    rwa [Char.ofNat_toNat] at this
  · have hvalues : ∀ d < 16, digit? 16 d.digitChar = some d
        ∧ digit? 16 d.digitChar.toUpper = some d := by
      decide
    rintro ⟨hd, rfl | rfl⟩
    · exact (hvalues d hd).1
    · exact (hvalues d hd).2

/-- **The value of a digit is the one that is read.** -/
theorem digit?_eq_some_iff (hradix : radix ≤ 16) {d : Nat} :
    digit? radix c = some d ↔ IsDigit radix c d := by
  rw [digit?_eq_some_of_le hradix, digit?_sixteen]
  constructor
  · rintro ⟨⟨-, hchar⟩, hd⟩
    exact ⟨hd, hchar⟩
  · rintro ⟨hd, hchar⟩
    exact ⟨⟨hd.trans_le hradix, hchar⟩, hd⟩

/-- A sign is no digit. -/
theorem not_isDigit_sign (hradix : radix ≤ 16) (hc : c = '+' ∨ c = '-') (d : Nat) :
    ¬ IsDigit radix c d := by
  rw [← digit?_eq_some_iff hradix, digit?_eq_some_of_le hradix]
  rcases hc with rfl | rfl
  · exact fun h => nomatch h.1
  · exact fun h => nomatch h.1

/-! ## Rows of digits -/

theorem digitsFrom?_eq_some_iff (hradix : radix ≤ 16) {acc : Nat} :
    digitsFrom? radix acc s = some n ↔ ∃ values, List.Forall₂ (IsDigit radix) s values
      ∧ n = acc * radix ^ s.length + Nat.ofDigits radix values.reverse := by
  induction s generalizing acc with
  | nil => simp [digitsFrom?, eq_comm]
  | cons c s ih =>
    simp only [digitsFrom?, Option.bind_eq_some_iff, digit?_eq_some_iff hradix, ih,
      List.forall₂_cons_left_iff]
    constructor
    · rintro ⟨d, hd, values, hvalues, rfl⟩
      refine ⟨d :: values, ⟨d, values, hd, hvalues, rfl⟩, ?_⟩
      rw [Nat.ofDigits_reverse_cons, ← hvalues.length_eq, List.length_cons, Nat.pow_succ]
      ring
    · rintro ⟨-, ⟨d, values, hd, hvalues, rfl⟩, rfl⟩
      refine ⟨d, hd, values, hvalues, ?_⟩
      rw [Nat.ofDigits_reverse_cons, ← hvalues.length_eq, List.length_cons, Nat.pow_succ]
      ring

theorem digits?_eq_some_iff (hradix : radix ≤ 16) :
    digits? radix s = some n ↔ AreDigits radix s n := by
  unfold digits? AreDigits
  cases s with
  | nil => simp
  | cons c s => simp [digitsFrom?_eq_some_iff hradix]

theorem AreDigits.head?_ne (hradix : radix ≤ 16) (h : AreDigits radix s n)
    (hc : c = '+' ∨ c = '-') : s.head? ≠ some c := by
  obtain ⟨-, values, hvalues, -⟩ := h
  cases hvalues with
  | nil => simp
  | cons hd _ => exact fun heq => not_isDigit_sign hradix hc _ (Option.some.inj heq ▸ hd)

theorem AreDigits.append {t : List Char} {m k : Nat} (hs : AreDigits radix s m)
    (ht : AreDigits radix t k) : AreDigits radix (s ++ t) (m * radix ^ t.length + k) := by
  obtain ⟨hne, values, hvalues, rfl⟩ := hs
  obtain ⟨-, others, hothers, rfl⟩ := ht
  refine ⟨List.append_ne_nil_of_left_ne_nil hne t, values ++ others,
    List.rel_append hvalues hothers, ?_⟩
  rw [List.reverse_append, Nat.ofDigits_append, List.length_reverse, hothers.length_eq]
  ring

theorem areDigits_digitChar {d : Nat} (h : d < radix) : AreDigits radix [d.digitChar] d :=
  ⟨List.cons_ne_nil _ _, [d], .cons ⟨h, .inl rfl⟩ .nil, Nat.ofDigits_singleton.symm⟩

/-- **The digits of a number** have it as their value. -/
theorem areDigits_toDigits (hradix : 1 < radix) (n : Nat) :
    AreDigits radix (Nat.toDigits radix n) n := by
  induction n using Nat.strongRecOn with
  | ind n ih =>
    by_cases hn : n < radix
    · rw [Nat.toDigits_of_lt_base hn]
      exact areDigits_digitChar hn
    · have hn := Nat.le_of_not_lt hn
      have hsmaller := ih (n / radix) (Nat.div_lt_self (by omega) hradix)
      have hlast := areDigits_digitChar (Nat.mod_lt n (Nat.zero_lt_of_lt hradix))
      rw [Nat.toDigits_of_base_le hradix hn]
      have := hsmaller.append hlast
      rwa [List.length_singleton, Nat.pow_one, Nat.div_add_mod'] at this

theorem toDigits_injective (hradix : 1 < radix) (hle : radix ≤ 16) :
    Function.Injective (Nat.toDigits radix) := by
  intro m n h
  have hread : ∀ k, digits? radix (Nat.toDigits radix k) = some k := fun k =>
    (digits?_eq_some_iff hle).mpr (areDigits_toDigits hradix k)
  exact Option.some.inj ((hread m).symm.trans ((congrArg (digits? radix) h).trans (hread n)))

/-- Among the digits of a number stand digits only. -/
theorem exists_isDigit_of_mem_toDigits (hradix : 1 < radix) (h : c ∈ Nat.toDigits radix n) :
    ∃ d, IsDigit radix c d := by
  obtain ⟨-, values, hvalues, -⟩ := areDigits_toDigits hradix n
  have hdigits : List.Forall₂ (fun c d => (∃ e, IsDigit radix c e) ∧ IsDigit radix c d)
      (Nat.toDigits radix n) values :=
    hvalues.imp fun c d hd => ⟨⟨d, hd⟩, hd⟩
  exact ((List.forall₂_and_left _ _).mp hdigits).1 c h

/-- The decimal digits of a number are a column. -/
theorem isColumn_decimal (n : Nat) : IsColumn (decimal n) where
  ne_nil := (areDigits_toDigits (by decide) n).1
  not_blank c hc := by
    have hplain : ∀ d < 10, isBlank d.digitChar = false ∧ isBlank d.digitChar.toUpper = false := by
      decide
    obtain ⟨d, hd, rfl | rfl⟩ := exists_isDigit_of_mem_toDigits (by decide) hc
    · exact (hplain d hd).1
    · exact (hplain d hd).2

theorem not_mem_toDigits (hradix : 1 < radix) (hle : radix ≤ 16) (hc : digit? radix c = none)
    (n : Nat) : c ∉ Nat.toDigits radix n := by
  intro hmem
  obtain ⟨d, hd⟩ := exists_isDigit_of_mem_toDigits hradix hmem
  exact nomatch hc.symm.trans ((digit?_eq_some_iff hle).mpr hd)

/-! ## Numerals -/

theorem dropPlus_of_head? (h : s.head? ≠ some '+') : dropPlus s = s := by
  unfold dropPlus
  split
  · exact absurd rfl h
  · rfl

theorem areDigits_dropPlus_iff (hradix : radix ≤ 16) :
    AreDigits radix (dropPlus s) n ↔ IsNumeral radix s n := by
  constructor
  · intro h
    refine ⟨dropPlus s, ?_, h⟩
    unfold dropPlus
    split
    · exact .inr rfl
    · exact .inl rfl
  · rintro ⟨digits, rfl | rfl, h⟩
    · rwa [dropPlus_of_head? (h.head?_ne hradix (.inl rfl))]
    · exact h

/-- **A text is read as a number iff it is a numeral of a value below the
bound.** -/
theorem unsigned?_eq_some_iff (hradix : radix ≤ 16) :
    unsigned? radix bound s = some n ↔ IsNumeral radix s n ∧ n < bound := by
  rw [unsigned?, Option.filter_eq_some_iff, digits?_eq_some_iff hradix,
    areDigits_dropPlus_iff hradix, decide_eq_true_eq]

theorem isNumeral_decimal (n : Nat) : IsNumeral 10 (decimal n) n :=
  ⟨decimal n, .inl rfl, areDigits_toDigits (by decide) n⟩

theorem word?_eq_some_iff : word? s = some n ↔ IsNumeral 10 s n ∧ n < wordLimit :=
  unsigned?_eq_some_iff (by decide)

/-- The digits of a number that fits are read as that number. -/
theorem word?_decimal (h : n < wordLimit) : word? (decimal n) = some n :=
  word?_eq_some_iff.mpr ⟨isNumeral_decimal n, h⟩

theorem unsigned?_eq_none_iff (hradix : radix ≤ 16) :
    unsigned? radix bound s = none ↔ ¬ ∃ n < bound, IsNumeral radix s n := by
  simp only [Option.eq_none_iff_forall_ne_some, ne_eq, unsigned?_eq_some_iff hradix]
  exact ⟨fun h ⟨n, hn, hs⟩ => h n ⟨hs, hn⟩, fun h n ⟨hs, hn⟩ => h ⟨n, hn, hs⟩⟩

/-- The value of a numeral has no more digits than its text has characters. -/
theorem IsNumeral.lt (hradix : 1 < radix) (h : IsNumeral radix s n) : n < radix ^ s.length := by
  obtain ⟨digits, hs, -, values, hvalues, rfl⟩ := h
  have hsmall : ∀ d ∈ values.reverse, d < radix := fun d hd =>
    ((List.forall₂_and_left _ _).mp hvalues.flip).1 d (List.mem_reverse.mp hd)
  have hlength : values.reverse.length ≤ s.length := by
    rw [List.length_reverse, ← hvalues.length_eq]
    rcases hs with rfl | rfl
    · exact le_rfl
    · exact Nat.le_succ _
  exact (Nat.ofDigits_lt_base_pow_length hradix hsmall).trans_le
    (Nat.pow_le_pow_right (Nat.zero_lt_of_lt hradix) hlength)

theorem not_isNumeral_minus (hradix : radix ≤ 16) : ¬ IsNumeral radix ('-' :: s) n := by
  rintro ⟨digits, rfl | h, hdigits⟩
  · exact hdigits.head?_ne hradix (.inr rfl) rfl
  · cases h

theorem signed?_minus (radix half : Nat) (s : List Char) :
    signed? radix half ('-' :: s)
      = ((digits? radix s).filter (· ≤ half)).map fun n : Nat => -(n : Int) := by
  rw [signed?]
  cases (digits? radix s).filter (· ≤ half) with
  | none => rfl
  | some n => rfl

/-- **The same for numerals with a sign.** -/
theorem signed?_eq_some_iff (hradix : radix ≤ 16) {half : Nat} (hhalf : 0 < half) {z : Int} :
    signed? radix half s = some z ↔ IsSigned radix s z ∧ -half ≤ z ∧ z < half := by
  by_cases hminus : ∃ digits, s = '-' :: digits
  · obtain ⟨digits, rfl⟩ := hminus
    simp only [signed?_minus, Option.map_eq_some_iff, Option.filter_eq_some_iff,
      decide_eq_true_eq, digits?_eq_some_iff hradix]
    constructor
    · rintro ⟨n, ⟨hdigits, hn⟩, rfl⟩
      exact ⟨.inr ⟨digits, n, rfl, hdigits, rfl⟩, by omega, by omega⟩
    · rintro ⟨⟨n, hnumeral, -⟩ | ⟨digits, n, hs, hdigits, rfl⟩, hlow, -⟩
      · exact absurd hnumeral (not_isNumeral_minus hradix)
      · cases hs
        exact ⟨n, ⟨hdigits, by omega⟩, rfl⟩
  · have hunsigned : signed? radix half s = (unsigned? radix half s).map Int.ofNat := by
      unfold signed?
      split
      · exact absurd ⟨_, rfl⟩ hminus
      · rfl
    simp only [hunsigned, Option.map_eq_some_iff, unsigned?_eq_some_iff hradix]
    constructor
    · rintro ⟨n, ⟨hnumeral, hn⟩, rfl⟩
      exact ⟨.inl ⟨n, hnumeral, rfl⟩, by simp, by simpa using hn⟩
    · rintro ⟨⟨n, hnumeral, rfl⟩ | ⟨digits, n, hs, -⟩, -, hn⟩
      · exact ⟨n, ⟨hnumeral, by omega⟩, rfl⟩
      · exact absurd ⟨digits, hs⟩ hminus

end HostMetrics.Text

/-! ## Columns of numbers -/

namespace HostMetrics.Proc

open Text

/-- A column of ticks: a numeral of 64 bits. -/
def IsTicks (column : List Char) (n : Nat) : Prop := IsNumeral 10 column n ∧ n < wordLimit

/-- A number in its place among the columns, written as `R` says. -/
def StandsAt {α : Type} (columns : List (List Char)) (place : Nat) (R : List Char → α → Prop)
    (a : α) : Prop :=
  ∃ column, columns[place]? = some column ∧ R column a

theorem bind_eq_some_iff_standsAt {α : Type} {read? : List Char → Option α}
    {R : List Char → α → Prop} (h : ∀ column a, read? column = some a ↔ R column a)
    {cs : List (List Char)} {i : Nat} {a : α} :
    (cs[i]?).bind read? = some a ↔ StandsAt cs i R a := by
  simp only [Option.bind_eq_some_iff, h]
  rfl

/-- Each number of a row is that of its own column. -/
theorem getElem?_words? {cs : List (List Char)} {ns : List Nat} (h : words? cs = some ns)
    (i : Nat) : ns[i]? = (cs[i]?).bind word? := by
  induction cs generalizing ns i with
  | nil =>
    cases h
    rfl
  | cons c cs ih =>
    obtain ⟨n, hn, h⟩ := Option.bind_eq_some_iff.mp h
    obtain ⟨rest, hrest, rfl⟩ := Option.map_eq_some_iff.mp h
    cases i with
    | zero => exact hn.symm
    | succ i => exact ih hrest i

/-- **A row of columns is read as numbers iff each column is one.** -/
theorem exists_words?_iff {cs : List (List Char)} :
    (∃ ns, words? cs = some ns) ↔ ∀ column ∈ cs, ∃ n, IsTicks column n := by
  induction cs with
  | nil => simp [words?]
  | cons c cs ih =>
    rw [List.forall_mem_cons, ← ih]
    simp only [words?, Option.bind_eq_some_iff, Option.map_eq_some_iff, word?_eq_some_iff]
    constructor
    · rintro ⟨-, n, hn, rest, hrest, rfl⟩
      exact ⟨⟨n, hn⟩, rest, hrest⟩
    · rintro ⟨⟨n, hn⟩, rest, hrest⟩
      exact ⟨n :: rest, n, hn, rest, hrest, rfl⟩

/-- Numbers that fit are read from a row of their digits. -/
theorem words?_map_decimal {ns : List Nat} (h : ∀ n ∈ ns, n < wordLimit) :
    words? (ns.map decimal) = some ns := by
  induction ns with
  | nil => rfl
  | cons n ns ih =>
    obtain ⟨hn, hns⟩ := List.forall_mem_cons.mp h
    rw [List.map_cons, words?, word?_decimal hn, ih hns]
    rfl

end HostMetrics.Proc
