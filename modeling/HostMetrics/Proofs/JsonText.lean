import HostMetrics.Json.Token
import HostMetrics.Json.Written
import HostMetrics.Proofs.Numerals
import Mathlib.Tactic.SplitIfs

/-!
# Reading back what is written

A written string is read back as itself, whatever characters it is made of:
each character is escaped in a form that the reader takes for one character
again and never for the end of the string (`Json.stringContent_escaped`).
An integer of 64 bits is read back too, provided that what follows does not
go on with it (`Json.tokens_integer_append`). So a written value can be told
from what follows it, and a text is taken apart into the tokens of its parts
one after the other (`Json.tokens_quoted_append`).
-/

namespace HostMetrics.Json

open Text

variable {c : Char} {s rest content after : List Char} {n : Nat}

/-! ## Strings -/

/-- The number that the character of a control code is escaped by. -/
theorem digits?_controlCode {n : Nat} (h : n < 32) :
    digits? 16 ['0', '0', Nat.digitChar (n / 16), Nat.digitChar (n % 16)] = some n := by
  have hall : ∀ n < 32,
      digits? 16 ['0', '0', Nat.digitChar (n / 16), Nat.digitChar (n % 16)] = some n := by decide
  exact hall n h

theorem unicodeEscape_controlCode (h : c.toNat < 32) :
    unicodeEscape ('0' :: '0' :: Nat.digitChar (c.toNat / 16) :: Nat.digitChar (c.toNat % 16)
      :: rest) = .ok (c, rest) := by
  have hquad : hexQuad ('0' :: '0' :: Nat.digitChar (c.toNat / 16)
      :: Nat.digitChar (c.toNat % 16) :: rest) = .ok (c.toNat, rest) := by
    rw [hexQuad, digits?_controlCode h]
  rw [unicodeEscape, hquad]
  show (if _ then _ else if _ then _ else _) = _
  rw [if_neg (by omega), if_pos (by omega), Char.ofNat_toNat]

theorem stringContent_backslash (hescape : escape s = .ok (c, rest))
    (hrest : stringContent rest = .ok (content, after)) :
    stringContent ('\\' :: s) = .ok (c :: content, after) := by
  rw [stringContent, if_neg (by decide), if_pos rfl]
  split
  next h =>
    rw [hescape] at h
    cases h
  next h =>
    rw [hescape] at h
    cases h
    simp only [hrest]

theorem escape_plain {letter : Char} (hletter : plainEscape? letter = some c)
    (hne : letter ≠ 'u') : escape (letter :: rest) = .ok (c, rest) := by
  rw [escape, if_neg hne, hletter]

/-- **A character is read back from its form inside a string.** -/
theorem stringContent_escaped_append (c : Char)
    (hrest : stringContent rest = .ok (content, after)) :
    stringContent (escaped c ++ rest) = .ok (c :: content, after) := by
  have hplain : ∀ letter, plainEscape? letter = some c → letter ≠ 'u' →
      stringContent ('\\' :: letter :: rest) = .ok (c :: content, after) :=
    fun letter hletter hne => stringContent_backslash (escape_plain hletter hne) hrest
  unfold escaped
  split_ifs with hquote hbackslash hback hfeed hline hreturn htab hcode
  · exact hplain '"' (congrArg some hquote.symm) (by decide)
  · exact hplain '\\' (congrArg some hbackslash.symm) (by decide)
  · exact hplain 'b' (congrArg some hback.symm) (by decide)
  · exact hplain 'f' (congrArg some hfeed.symm) (by decide)
  · exact hplain 'n' (congrArg some hline.symm) (by decide)
  · exact hplain 'r' (congrArg some hreturn.symm) (by decide)
  · exact hplain 't' (congrArg some htab.symm) (by decide)
  · refine stringContent_backslash ?_ hrest
    show escape ('u' :: _) = _
    rw [escape, if_pos rfl]
    exact unicodeEscape_controlCode hcode
  · rw [List.singleton_append, stringContent, if_neg hquote, if_neg hbackslash, if_neg hcode,
      hrest]

/-- **A string is read back from its form in quotes.** -/
theorem stringContent_escaped (s rest : List Char) :
    stringContent (s.flatMap escaped ++ '"' :: rest) = .ok (s, rest) := by
  induction s with
  | nil => rw [List.flatMap_nil, List.nil_append, stringContent, if_pos rfl]
  | cons c s ih =>
    rw [List.flatMap_cons, List.append_assoc]
    exact stringContent_escaped_append c ih

/-! ## Tokens -/

theorem tokens_nil : tokens [] = [] := by rw [tokens]

/-- What a text is taken apart into is known from its first token on. -/
theorem tokens_cons {t : Token} (hspace : isSpace c = false) (h : token c s = .ok (t, rest)) :
    tokens (c :: s) = t :: tokens rest := by
  rw [tokens, hspace, if_neg Bool.false_ne_true]
  split
  next hfault =>
    rw [h] at hfault
    cases hfault
  next hok =>
    rw [h] at hok
    cases hok
    rfl

@[simp] theorem tokens_quoted_append (s rest : List Char) :
    tokens (quoted s ++ rest) = .text s :: tokens rest := by
  have htoken : token '"' ((s.flatMap escaped ++ ['"']) ++ rest) = .ok (.text s, rest) := by
    rw [List.append_assoc, List.singleton_append]
    simp only [token, stringContent_escaped]
  exact tokens_cons (by decide) htoken

@[simp] theorem tokens_openBrace (s : List Char) :
    tokens ('\x7b' :: s) = .openBrace :: tokens s := tokens_cons (by decide) rfl

@[simp] theorem tokens_closeBrace (s : List Char) :
    tokens ('\x7d' :: s) = .closeBrace :: tokens s := tokens_cons (by decide) rfl

@[simp] theorem tokens_openBracket (s : List Char) :
    tokens ('[' :: s) = .openBracket :: tokens s := tokens_cons (by decide) rfl

@[simp] theorem tokens_closeBracket (s : List Char) :
    tokens (']' :: s) = .closeBracket :: tokens s := tokens_cons (by decide) rfl

@[simp] theorem tokens_colon (s : List Char) :
    tokens (':' :: s) = .colon :: tokens s := tokens_cons (by decide) rfl

@[simp] theorem tokens_comma (s : List Char) :
    tokens (',' :: s) = .comma :: tokens s := tokens_cons (by decide) rfl

/-! ## Numbers -/

/-- **What a number ends at**: the end of the text, or a character that it
cannot go on with. -/
def EndsNumber (rest : List Char) : Prop :=
  ∀ c ∈ rest.head?, isDigit c = false ∧ c ≠ '.' ∧ c ≠ 'e' ∧ c ≠ 'E'

theorem isDigit_of_mem_decimal (h : c ∈ decimal n) : isDigit c = true := by
  have hdigits : ∀ d < 10, isDigit d.digitChar = true ∧ isDigit d.digitChar.toUpper = true := by
    decide
  obtain ⟨d, hd, rfl | rfl⟩ := exists_isDigit_of_mem_toDigits (by decide) h
  · exact (hdigits d hd).1
  · exact (hdigits d hd).2

/-- The digits of a number other than zero start with another one. -/
theorem head?_decimal (h : n ≠ 0) : (decimal n).head? ≠ some '0' := by
  have hdigits : ∀ d < 10, d ≠ 0 → d.digitChar ≠ '0' := by decide
  unfold decimal
  induction n using Nat.strongRecOn with
  | ind n ih =>
    by_cases hn : n < 10
    · rw [Nat.toDigits_of_lt_base hn]
      exact fun hhead => hdigits n hn h (Option.some.inj hhead)
    · have hsmaller := ih (n / 10) (by omega) (by omega)
      have hne : Nat.toDigits 10 (n / 10) ≠ [] := (areDigits_toDigits (by decide) _).1
      rw [Nat.toDigits_of_base_le (by decide) (by omega), List.head?_append_of_ne_nil _ hne]
      exact hsmaller

theorem digitRun_decimal (n : Nat) (hrest : EndsNumber rest) :
    digitRun (decimal n ++ rest) = .ok (decimal n, rest) := by
  have hne : decimal n ≠ [] := (areDigits_toDigits (by decide) n).1
  have hall : ∀ c ∈ decimal n, isDigit c = true := fun c => isDigit_of_mem_decimal
  have hstop : rest.takeWhile isDigit = [] ∧ rest.dropWhile isDigit = rest := by
    cases rest with
    | nil => exact ⟨rfl, rfl⟩
    | cons c rest =>
      have hc := (hrest c rfl).1
      exact ⟨List.takeWhile_cons_of_neg (by simp [hc]), List.dropWhile_cons_of_neg (by simp [hc])⟩
  have hrun : (decimal n ++ rest).takeWhile isDigit = decimal n
      ∧ (decimal n ++ rest).dropWhile isDigit = rest := by
    rw [List.takeWhile_append_of_pos hall, List.dropWhile_append_of_pos hall, hstop.1, hstop.2,
      List.append_nil]
    exact ⟨rfl, rfl⟩
  obtain ⟨c, cs, hcs⟩ := List.exists_cons_of_ne_nil hne
  have hc : isDigit c = true := hall c (hcs ▸ List.mem_cons_self)
  rw [hcs, List.cons_append] at hrun ⊢
  rw [digitRun, if_pos hc, hrun.1, hrun.2]

theorem digitsFrom?_decimal (n : Nat) : digitsFrom? 10 0 (decimal n) = some n := by
  have hne : decimal n ≠ [] := (areDigits_toDigits (by decide) n).1
  have hdigits : digits? 10 (decimal n) = some n :=
    (digits?_eq_some_iff (by decide)).mpr (areDigits_toDigits (by decide) n)
  rwa [digits?, if_neg (by simpa using hne)] at hdigits

/-- The digits of a number are read as this number behind either sign, as far
as it fits. -/
theorem number_decimal (negative : Bool) (hn : n < wordLimit) (hrest : EndsNumber rest) :
    number negative (decimal n ++ rest)
      = if negative = false then .ok (.integer n, rest)
        else if 0 < n ∧ n ≤ limit63 then .ok (.integer (-(n : Int)), rest)
        else .ok (.real, rest) := by
  have hlead : ¬ (2 ≤ (decimal n).length ∧ (decimal n).head? = some '0') := by
    rintro ⟨hlength, hhead⟩
    by_cases h : n = 0
    · subst h
      exact absurd hlength (by decide)
    · exact head?_decimal h hhead
  have hexponent : isExponent rest = false := by
    cases rest with
    | nil => rfl
    | cons c rest =>
      obtain ⟨-, -, he, hE⟩ := hrest c rfl
      simp [isExponent, he, hE]
  rw [number, digitRun_decimal n hrest]
  simp only
  rw [if_neg hlead]
  unfold numberAfterInteger
  split
  next s => exact absurd rfl (hrest '.' rfl).2.1
  next =>
    simp only [digitsFrom?_decimal, Option.getD_some, hexponent]
    rw [if_neg (by simpa using hn)]

theorem token_of_isDigit (h : isDigit c = true) : token c s = number false (c :: s) := by
  unfold token
  split
  case h_12 => rw [if_pos h]
  all_goals cases h

theorem isSpace_of_isDigit (h : isDigit c = true) : isSpace c = false := by
  have hne : ∀ d, isDigit d = false → c ≠ d := fun d hd hcd => by
    rw [hcd, hd] at h
    cases h
  simp [isSpace, hne ' ' rfl, hne '\n' rfl, hne '\t' rfl, hne '\r' rfl]

/-- **An integer of 64 bits is read back** where it ends. -/
theorem tokens_integer_append {z : Int} (hlow : -(limit63 : Int) ≤ z) (hhigh : z < limit63)
    (hrest : EndsNumber rest) : tokens (integer z ++ rest) = .integer z :: tokens rest := by
  have hlimit : limit63 < wordLimit := by decide
  cases z with
  | ofNat n =>
    have hnumber := number_decimal false ((Int.ofNat_lt.mp hhigh).trans hlimit) hrest
    obtain ⟨c, cs, hcs⟩ : ∃ c cs, decimal n = c :: cs :=
      List.exists_cons_of_ne_nil (areDigits_toDigits (by decide) n).1
    have hc : isDigit c = true := isDigit_of_mem_decimal (n := n) (hcs ▸ List.mem_cons_self)
    show tokens (decimal n ++ rest) = _
    rw [hcs, List.cons_append] at hnumber ⊢
    exact tokens_cons (isSpace_of_isDigit hc) ((token_of_isDigit hc).trans hnumber)
  | negSucc n =>
    have hnumber := number_decimal true (by omega : n + 1 < wordLimit) hrest
    rw [if_neg (by decide), if_pos (by omega)] at hnumber
    exact tokens_cons (by decide) hnumber

/-! ## Values with commas between them -/

theorem commaSeparated_cons_cons (value next : List Char) (values : List (List Char)) :
    commaSeparated (value :: next :: values)
      = value ++ ',' :: commaSeparated (next :: values) := rfl

/-- Where the first value starts with a string, so do all of them together. -/
theorem exists_tokens_commaSeparated (s t : List Char) (values : List (List Char))
    (rest : List Char) :
    ∃ tail, tokens (commaSeparated ((quoted s ++ t) :: values) ++ rest) = .text s :: tail := by
  cases values with
  | nil => exact ⟨_, by rw [commaSeparated, List.append_assoc, tokens_quoted_append]⟩
  | cons value values =>
    exact ⟨_, by
      rw [commaSeparated_cons_cons, List.append_assoc, List.append_assoc, tokens_quoted_append]⟩

end HostMetrics.Json
