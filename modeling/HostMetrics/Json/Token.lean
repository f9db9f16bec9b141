import HostMetrics.Text.Blank
import HostMetrics.Text.Numeral

/-!
# The tokens of a JSON text

A JSON text is first taken apart into tokens. Reading stops at the first
problem from the left, and a problem inside a token can only be met where
that token is read; so a token that cannot be completed is kept as a
*broken* one, together with its first character and its fault, and is the
last token of its text. What a broken token means is then decided where it
is met: a broken string where a string is expected has the fault of the
string, and any broken token where a comma is expected is simply no comma.

Numbers are integers if they have neither a fraction nor an exponent and
fit a machine word; all others are only held against the range of a
floating-point number, since no value in this library is read from them.
-/

namespace HostMetrics.Json

open Text

/-- The kinds of problem of a JSON text. -/
inductive Fault where
  /-- The text breaks the rules of JSON. -/
  | malformed
  /-- The text is well formed so far but holds the wrong kind of value. -/
  | unexpected
  /-- The text ends too early. -/
  | truncated
deriving DecidableEq, Repr

/-- A token of a JSON text. -/
inductive Token where
  | openBrace | closeBrace | openBracket | closeBracket | colon | comma
  | null
  | boolean (value : Bool)
  /-- A number without fraction and exponent that fits 64 bits. -/
  | integer (value : Int)
  /-- Any other number. -/
  | real
  | text (value : List Char)
  /-- A token that cannot be completed. -/
  | broken (first : Char) (fault : Fault)
deriving DecidableEq, Repr

/-! ## Strings -/

/-- The number of four hexadecimal digits. Fewer than four bytes of text
are too few whatever they are. -/
def hexQuad : List Char → Except Fault (Nat × List Char)
  | a :: b :: c :: d :: rest =>
    match digits? 16 [a, b, c, d] with
    | some n => .ok (n, rest)
    | none => .error .malformed
  | s => .error (if 4 ≤ byteLength s then .malformed else .truncated)

/-- What follows the mark of a second escape. -/
def secondMark : List Char → Except Fault (List Char)
  | [] => .error .truncated
  | [c] => .error (if c = '\\' then .truncated else .malformed)
  | c :: d :: s => if c = '\\' ∧ d = 'u' then .ok s else .error .malformed

/-- The number of the second half of a character in two halves. -/
def lowHalf (s : List Char) : Except Fault (Nat × List Char) :=
  match secondMark s with
  | .error fault => .error fault
  | .ok s =>
    match hexQuad s with
    | .error fault => .error fault
    | .ok (n, rest) =>
      if n < 0xDC00 ∨ 0xDFFF < n then .error .malformed else .ok (n - 0xDC00, rest)

/-- The character behind `\u`. One outside the basic plane is written as
two halves, a high and a low one, and neither half stands alone. -/
def unicodeEscape (s : List Char) : Except Fault (Char × List Char) :=
  match hexQuad s with
  | .error fault => .error fault
  | .ok (n, rest) =>
    if 0xDC00 ≤ n ∧ n ≤ 0xDFFF then .error .malformed
    else if n < 0xD800 ∨ 0xDBFF < n then .ok (Char.ofNat n, rest)
    else
      match lowHalf rest with
      | .error fault => .error fault
      | .ok (low, rest) => .ok (Char.ofNat ((n - 0xD800) * 0x400 + low + 0x10000), rest)

/-- The character that a letter behind a backslash stands for. -/
def plainEscape? : Char → Option Char
  | '"' => some '"'
  | '\\' => some '\\'
  | '/' => some '/'
  | 'b' => some '\x08'
  | 'f' => some '\x0c'
  | 'n' => some '\n'
  | 'r' => some '\r'
  | 't' => some '\t'
  | _ => none

/-- The character behind a backslash. -/
def escape : List Char → Except Fault (Char × List Char)
  | [] => .error .truncated
  | c :: s =>
    if c = 'u' then unicodeEscape s
    else
      match plainEscape? c with
      | some d => .ok (d, s)
      | none => .error .malformed

theorem length_of_hexQuad {s rest : List Char} {n : Nat} (h : hexQuad s = .ok (n, rest)) :
    rest.length < s.length := by
  unfold hexQuad at h
  split at h
  · split at h
    · cases h
      simp only [List.length_cons]
      omega
    · cases h
  · cases h

theorem length_of_lowHalf {s rest : List Char} {n : Nat} (h : lowHalf s = .ok (n, rest)) :
    rest.length < s.length := by
  unfold lowHalf at h
  split at h
  · cases h
  next s₁ hm =>
    have hl : s₁.length ≤ s.length := by
      unfold secondMark at hm
      split at hm
      · cases hm
      · cases hm
      · split at hm
        · cases hm
          simp only [List.length_cons]
          omega
        · cases hm
    split at h
    · cases h
    next hq =>
      split at h
      · cases h
      · simp only [Except.ok.injEq, Prod.mk.injEq] at h
        rw [← h.2]
        exact Nat.lt_of_lt_of_le (length_of_hexQuad hq) hl

theorem length_of_unicodeEscape {s rest : List Char} {c : Char}
    (h : unicodeEscape s = .ok (c, rest)) : rest.length < s.length := by
  unfold unicodeEscape at h
  split at h
  · cases h
  next h₁ =>
    have hl := length_of_hexQuad h₁
    split at h
    · cases h
    split at h
    · cases h
      exact hl
    split at h
    · cases h
    next h₂ =>
      simp only [Except.ok.injEq, Prod.mk.injEq] at h
      rw [← h.2]
      exact Nat.lt_trans (length_of_lowHalf h₂) hl

theorem length_of_escape {s rest : List Char} {c : Char} (h : escape s = .ok (c, rest)) :
    rest.length < s.length := by
  cases s with
  | nil => cases h
  | cons d s =>
    simp only [escape] at h
    split at h
    · exact Nat.lt_succ_of_lt (length_of_unicodeEscape h)
    · split at h
      · cases h
        exact Nat.lt_succ_self _
      · cases h

/-- The content of a string behind its opening quote, and what follows the
closing one. -/
def stringContent (s : List Char) : Except Fault (List Char × List Char) :=
  match s with
  | [] => .error .truncated
  | c :: s =>
    if c = '"' then .ok ([], s)
    else if c = '\\' then
      match h : escape s with
      | .error fault => .error fault
      | .ok (d, rest) =>
        have := length_of_escape h
        match stringContent rest with
        | .error fault => .error fault
        | .ok (content, rest) => .ok (d :: content, rest)
    else if c.toNat < 0x20 then .error .malformed
    else
      match stringContent s with
      | .error fault => .error fault
      | .ok (content, rest) => .ok (c :: content, rest)
termination_by s.length

theorem length_of_stringContent {s content rest : List Char}
    (h : stringContent s = .ok (content, rest)) : rest.length < s.length := by
  induction hn : s.length using Nat.strongRecOn generalizing s content with
  | ind n ih =>
    subst hn
    cases s with
    | nil => simp [stringContent] at h
    | cons c s =>
      rw [stringContent] at h
      split at h
      · cases h
        exact Nat.lt_succ_self _
      split at h
      · split at h
        · cases h
        next d rest₁ he =>
          have hl := length_of_escape he
          simp only at h
          split at h
          · cases h
          next content₁ rest₂ hr =>
            cases h
            have := ih rest₁.length (Nat.lt_succ_of_lt hl) hr rfl
            simp only [List.length_cons]
            omega
      split at h
      · cases h
      · split at h
        · cases h
        next content₁ rest₂ hr =>
          cases h
          exact Nat.lt_succ_of_lt (ih s.length (Nat.lt_succ_self _) hr rfl)

/-! ## Numbers -/

/-- Whether a character is an ASCII digit. -/
def isDigit (c : Char) : Bool := '0' ≤ c && c ≤ '9'

/-- The leading digits of a number as far as they fit 64 bits, and the
power of ten that the digits behind them stand for. -/
structure Magnitude where
  /-- The number that the leading digits make up. -/
  leading : Nat
  /-- The power of ten. -/
  exponent : Int

namespace Magnitude

/-- A further digit before the point. Once a digit did not fit, none behind
it is taken. -/
def pushInteger (m : Magnitude) (c : Char) : Magnitude :=
  let n := m.leading * 10 + (c.toNat - 48)
  if m.exponent = 0 ∧ n < wordLimit then ⟨n, 0⟩ else ⟨m.leading, m.exponent + 1⟩

/-- The digits behind the point, up to the first one that does not fit. -/
def pushFraction (m : Magnitude) : List Char → Magnitude
  | [] => m
  | c :: s =>
    let n := m.leading * 10 + (c.toNat - 48)
    if n < wordLimit then pushFraction ⟨n, m.exponent - 1⟩ s else m

/-- Whether the number is too large for a floating-point number. -/
def isOutOfRange (m : Magnitude) : Bool :=
  m.leading != 0 && (308 < m.exponent || (0 ≤ m.exponent &&
    (m.leading.toUInt64.toFloat * Float.ofScientific 1 false m.exponent.toNat).isInf))

end Magnitude

/-- The sign in front of an exponent: whether it is a minus, and the rest. -/
def takeSign : List Char → Bool × List Char
  | '+' :: s => (false, s)
  | '-' :: s => (true, s)
  | s => (false, s)

/-- A run of digits, which has one at least, and the rest. -/
def digitRun (s : List Char) : Except Fault (List Char × List Char) :=
  match s with
  | [] => .error .truncated
  | c :: _ =>
    if isDigit c then .ok (s.takeWhile isDigit, s.dropWhile isDigit) else .error .malformed

/-- A number that is no integer, unless it is out of range. -/
def inRange (m : Magnitude) (rest : List Char) : Except Fault (Token × List Char) :=
  if m.isOutOfRange then .error .malformed else .ok (.real, rest)

/-- A number whose digits are followed by `s`, where an exponent may stand. -/
def realToken (m : Magnitude) : List Char → Except Fault (Token × List Char)
  | [] => inRange m []
  | c :: s =>
    if c = 'e' ∨ c = 'E' then
      match digitRun (takeSign s).2 with
      | .error fault => .error fault
      | .ok (digits, rest) =>
        let n := (digitsFrom? 10 0 digits).getD 0
        inRange ⟨m.leading, if (takeSign s).1 then m.exponent - n else m.exponent + n⟩ rest
    else inRange m (c :: s)

/-- Whether an exponent follows. -/
def isExponent : List Char → Bool
  | c :: _ => c == 'e' || c == 'E'
  | [] => false

/-- The number whose digits before the point are known, up to its sign. -/
def numberAfterInteger (negative : Bool) (digits : List Char) :
    List Char → Except Fault (Token × List Char)
  | '.' :: s =>
    match digitRun s with
    | .error fault => .error fault
    | .ok (fraction, rest) =>
      realToken ((digits.foldl Magnitude.pushInteger ⟨0, 0⟩).pushFraction fraction) rest
  | s =>
    let n := (digitsFrom? 10 0 digits).getD 0
    if isExponent s ∨ wordLimit ≤ n then realToken (digits.foldl Magnitude.pushInteger ⟨0, 0⟩) s
    else if negative = false then .ok (.integer n, s)
    else if 0 < n ∧ n ≤ limit63 then .ok (.integer (-(n : Int)), s)
    else .ok (.real, s)

/-- A number behind its sign. A leading zero is a digit by itself. -/
def number (negative : Bool) (s : List Char) : Except Fault (Token × List Char) :=
  match digitRun s with
  | .error fault => .error fault
  | .ok (digits, rest) =>
    if 2 ≤ digits.length ∧ digits.head? = some '0' then .error .malformed
    else numberAfterInteger negative digits rest

theorem length_takeSign_le (s : List Char) : (takeSign s).2.length ≤ s.length := by
  unfold takeSign
  split <;> simp

theorem length_of_digitRun {s digits rest : List Char} (h : digitRun s = .ok (digits, rest)) :
    rest.length < s.length := by
  cases s with
  | nil => cases h
  | cons c s =>
    simp only [digitRun] at h
    split at h
    next hc =>
      cases h
      rw [List.dropWhile_cons_of_pos hc]
      exact Nat.lt_succ_of_le (List.dropWhile_sublist _).length_le
    · cases h

theorem rest_of_inRange {m : Magnitude} {s rest : List Char} {t : Token}
    (h : inRange m s = .ok (t, rest)) : rest = s := by
  unfold inRange at h
  split at h
  · cases h
  · cases h
    rfl

theorem length_of_realToken {m : Magnitude} {s rest : List Char} {t : Token}
    (h : realToken m s = .ok (t, rest)) : rest.length ≤ s.length := by
  cases s with
  | nil => exact Nat.le_of_eq (by rw [rest_of_inRange h])
  | cons c s =>
    simp only [realToken] at h
    split at h
    · split at h
      · cases h
      next digits rest₁ hd =>
        rw [rest_of_inRange h]
        have h₁ := length_of_digitRun hd
        have h₂ := length_takeSign_le s
        simp only [List.length_cons]
        omega
    · exact Nat.le_of_eq (by rw [rest_of_inRange h])

theorem length_of_numberAfterInteger {negative : Bool} {digits s rest : List Char} {t : Token}
    (h : numberAfterInteger negative digits s = .ok (t, rest)) : rest.length ≤ s.length := by
  unfold numberAfterInteger at h
  split at h
  · split at h
    · cases h
    next hd =>
      have h₁ := length_of_digitRun hd
      have h₂ := length_of_realToken h
      simp only [List.length_cons]
      omega
  · simp only at h
    split at h
    · exact length_of_realToken h
    · split at h
      · cases h; exact Nat.le_refl _
      · split at h <;> (cases h; exact Nat.le_refl _)

theorem length_of_number {negative : Bool} {s rest : List Char} {t : Token}
    (h : number negative s = .ok (t, rest)) : rest.length < s.length := by
  unfold number at h
  split at h
  · cases h
  next hd =>
    split at h
    · cases h
    · exact Nat.lt_of_le_of_lt (length_of_numberAfterInteger h) (length_of_digitRun hd)

/-! ## All tokens -/

/-- The rest of a literal behind its first character. -/
def literal (token : Token) : List Char → List Char → Except Fault (Token × List Char)
  | [], s => .ok (token, s)
  | _ :: _, [] => .error .truncated
  | e :: es, c :: s => if c = e then literal token es s else .error .malformed

theorem length_of_literal {token t : Token} {es s rest : List Char}
    (h : literal token es s = .ok (t, rest)) : rest.length ≤ s.length := by
  induction es generalizing s with
  | nil =>
    simp only [literal, Except.ok.injEq, Prod.mk.injEq] at h
    exact Nat.le_of_eq (by rw [h.2])
  | cons e es ih =>
    cases s with
    | nil => cases h
    | cons c s =>
      simp only [literal] at h
      split at h
      · have := ih h
        simp only [List.length_cons]
        omega
      · cases h

/-- The token that starts with `c`, and what follows it. -/
def token (c : Char) (s : List Char) : Except Fault (Token × List Char) :=
  match c with
  | '\x7b' => .ok (.openBrace, s)
  | '\x7d' => .ok (.closeBrace, s)
  | '[' => .ok (.openBracket, s)
  | ']' => .ok (.closeBracket, s)
  | ':' => .ok (.colon, s)
  | ',' => .ok (.comma, s)
  | 'n' => literal .null ['u', 'l', 'l'] s
  | 't' => literal (.boolean true) ['r', 'u', 'e'] s
  | 'f' => literal (.boolean false) ['a', 'l', 's', 'e'] s
  | '"' =>
    match stringContent s with
    | .error fault => .error fault
    | .ok (content, rest) => .ok (.text content, rest)
  | '-' => number true s
  | _ => if isDigit c then number false (c :: s) else .error .malformed

theorem length_of_token {c : Char} {s rest : List Char} {t : Token}
    (h : token c s = .ok (t, rest)) : rest.length ≤ s.length := by
  unfold token at h
  split at h
  case h_7 | h_8 | h_9 => exact length_of_literal h
  case h_10 =>
    split at h
    · cases h
    next hs =>
      cases h
      exact Nat.le_of_lt (length_of_stringContent hs)
  case h_11 => exact Nat.le_of_lt (length_of_number h)
  case h_12 =>
    split at h
    · exact Nat.le_of_lt_succ (length_of_number h)
    · cases h
  all_goals
    cases h
    exact Nat.le_refl _

/-- The blanks that may stand between tokens. -/
def isSpace (c : Char) : Bool := c == ' ' || c == '\n' || c == '\t' || c == '\r'

/-- The tokens of a text, the last of which may be broken. -/
def tokens (s : List Char) : List Token :=
  match s with
  | [] => []
  | c :: s =>
    if isSpace c then tokens s
    else
      match h : token c s with
      | .error fault => [.broken c fault]
      | .ok (t, rest) =>
        have := length_of_token h
        t :: tokens rest
termination_by s.length
decreasing_by all_goals (simp only [List.length_cons]; omega)

end HostMetrics.Json
