/-!
# Numerals

The numbers of a kernel text: ASCII digits in a given radix, leading
zeros allowed, one leading `+` allowed, and a leading `-` for the signed
ones. A numeral is read as a natural number first and held against its
bound afterwards, so a text that is too long for a machine word is refused
like any other text that is no number of that width.
-/

namespace HostMetrics.Text

/-- The value of a digit in `radix`; letters count on from nine, in either
case. -/
def digit? (radix : Nat) (c : Char) : Option Nat :=
  let n := c.toNat
  let value :=
    if 48 ≤ n && n ≤ 57 then some (n - 48)
    else if 97 ≤ n && n ≤ 122 then some (n - 87)
    else if 65 ≤ n && n ≤ 90 then some (n - 55)
    else none
  value.filter (· < radix)

/-- The number that `acc` and then the digits of the text stand for. -/
def digitsFrom? (radix : Nat) : Nat → List Char → Option Nat
  | acc, [] => some acc
  | acc, c :: s => (digit? radix c).bind fun d => digitsFrom? radix (acc * radix + d) s

/-- The number that a text of digits stands for; a text without any
stands for none. -/
def digits? (radix : Nat) (s : List Char) : Option Nat :=
  if s.isEmpty then none else digitsFrom? radix 0 s

/-- The text behind one leading `+`, if it starts with one. -/
def dropPlus : List Char → List Char
  | '+' :: s => s
  | s => s

/-- A numeral below `bound`. -/
def unsigned? (radix bound : Nat) (s : List Char) : Option Nat :=
  (digits? radix (dropPlus s)).filter (· < bound)

/-- A numeral with a sign, at least `-half` and below `half`. -/
def signed? (radix half : Nat) : List Char → Option Int
  | '-' :: s => ((digits? radix s).filter (· ≤ half)).map fun n => -(n : Int)
  | s => (unsigned? radix half s).map Int.ofNat

/-- One more than the largest number of 16 bits. -/
abbrev limit16 : Nat := 0x10000

/-- One more than the largest number of 32 bits. -/
abbrev limit32 : Nat := 0x100000000

/-- One more than the largest number of 63 bits. -/
abbrev limit63 : Nat := 0x8000000000000000

/-- One more than the largest number of 64 bits. -/
abbrev wordLimit : Nat := 0x10000000000000000

/-- A decimal numeral of 64 bits. -/
def word? (s : List Char) : Option Nat := unsigned? 10 wordLimit s

/-- The numbers of a row of columns, if each of them is a numeral of 64
bits. -/
def words? : List (List Char) → Option (List Nat)
  | [] => some []
  | c :: cs => (word? c).bind fun n => (words? cs).map (n :: ·)

theorem length_words? {cs : List (List Char)} {ns : List Nat} (h : words? cs = some ns) :
    ns.length = cs.length := by
  induction cs generalizing ns with
  | nil => simp_all [words?]
  | cons c cs ih =>
    simp only [words?, Option.bind_eq_some_iff, Option.map_eq_some_iff] at h
    obtain ⟨n, -, ms, hms, rfl⟩ := h
    simp [ih hms]

theorem digitsFrom?_append (radix acc : Nat) (s t : List Char) :
    digitsFrom? radix acc (s ++ t)
      = (digitsFrom? radix acc s).bind fun n => digitsFrom? radix n t := by
  induction s generalizing acc with
  | nil => rfl
  | cons c s ih =>
    rw [List.cons_append, digitsFrom?, digitsFrom?]
    cases digit? radix c with
    | none => rfl
    | some d => exact ih _

theorem dropPlus_of_not_mem {s : List Char} (h : '+' ∉ s) : dropPlus s = s := by
  unfold dropPlus
  split
  · exact absurd List.mem_cons_self h
  · rfl

theorem unsigned?_lt {radix bound n : Nat} {s : List Char}
    (h : unsigned? radix bound s = some n) : n < bound := by
  simp only [unsigned?, Option.filter_eq_some_iff, decide_eq_true_eq] at h
  exact h.2

/-- The decimal digits of a number. -/
def decimal (n : Nat) : List Char := Nat.toDigits 10 n

theorem decimal_injective {m n : Nat} (h : decimal m = decimal n) : m = n := by
  have hvalue := congrArg (fun digits => Nat.ofDigitChars 10 digits 0) h
  unfold decimal at hvalue
  simpa only [Nat.ofDigitChars_toDigits (by decide : 1 < 10) (by decide : 10 ≤ 10)] using hvalue

/-- The decimal digits of a number, behind a `-` if it is negative. -/
def signedDecimal : Int → List Char
  | .ofNat n => decimal n
  | .negSucc n => '-' :: decimal (n + 1)

end HostMetrics.Text
