import HostMetrics.Decimal.Shortest
import HostMetrics.Text.Numeral

/-!
# How JSON is written

Values are written without any space. A string escapes the quote, the
backslash and the characters below the space, the five common ones by a
letter and the others by their number; all else stands for itself. A
floating-point number is written by its shortest decimal, and always with
a point or an exponent, so that it does not read as an integer.
-/

namespace HostMetrics.Json

open Text

/-- The form of one character inside a string. -/
def escaped (c : Char) : List Char :=
  if c = '"' then ['\\', '"']
  else if c = '\\' then ['\\', '\\']
  else if c = '\x08' then ['\\', 'b']
  else if c = '\x0c' then ['\\', 'f']
  else if c = '\n' then ['\\', 'n']
  else if c = '\r' then ['\\', 'r']
  else if c = '\t' then ['\\', 't']
  else if c.toNat < 0x20 then
    ['\\', 'u', '0', '0', Nat.digitChar (c.toNat / 16), Nat.digitChar (c.toNat % 16)]
  else [c]

/-- A string in quotes. -/
def quoted (s : List Char) : List Char :=
  '"' :: (s.flatMap escaped ++ ['"'])

/-- An integer. -/
def integer (n : Int) : List Char := signedDecimal n

/-- The members of a list or an object, with commas between them. -/
def commaSeparated : List (List Char) → List Char
  | [] => []
  | [s] => s
  | s :: ss => s ++ ',' :: commaSeparated ss

/-- A list of values that are written already. -/
def array (values : List (List Char)) : List Char :=
  '[' :: (commaSeparated values ++ [']'])

/-- An object whose values are written already, with its keys in order. -/
def object (members : List (List Char × List Char)) : List Char :=
  '\x7b' :: (commaSeparated (members.map fun (key, value) => quoted key ++ ':' :: value)
    ++ ['\x7d'])

/-! ## Floating-point numbers -/

/-- The powers of ten of the leading digit for which a number is written
without an exponent. -/
def isPositional (leading : Int) : Bool := -5 ≤ leading && leading ≤ 15

/-- A positive decimal as a JSON number. -/
def ofDecimal (d : Decimal) : List Char :=
  let digits := decimal d.digits
  let leading := d.exponent + digits.length - 1
  if isPositional leading then
    if 0 ≤ d.exponent then
      digits ++ List.replicate d.exponent.toNat '0' ++ ['.', '0']
    else if 0 ≤ leading then
      digits.take (leading.toNat + 1) ++ '.' :: digits.drop (leading.toNat + 1)
    else
      '0' :: '.' :: (List.replicate (-leading - 1).toNat '0' ++ digits)
  else
    let mantissa := if digits.length = 1 then digits else digits.take 1 ++ '.' :: digits.drop 1
    let exponent := if leading < 0 then signedDecimal leading else '+' :: signedDecimal leading
    mantissa ++ 'e' :: exponent

/-- A floating-point number. One that is not finite has no form in JSON
and is written as `null`. -/
def float (x : Float) : List Char :=
  let bits := x.toBits
  let sign : List Char := if limit63 ≤ bits.toNat then ['-'] else []
  if bits.toNat / Binary.fractionLimit % 2048 = 2047 then ['n', 'u', 'l', 'l']
  else
    match Binary.ofBits? bits with
    | none => sign ++ ['0', '.', '0']
    | some magnitude => sign ++ ofDecimal magnitude.shortest

end HostMetrics.Json
