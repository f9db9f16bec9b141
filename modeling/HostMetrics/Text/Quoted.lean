import HostMetrics.Text.PrintableTable
import HostMetrics.Text.Runs

/-!
# Quoted texts

A text is quoted for a message so that every character of it can be told.
The quote that ends it and the backslash get a backslash, and so do the
commonest controls as a letter. Any other character that is not printable,
that shows nothing, or that would attach itself to the one before it, is
written as its code point.
-/

namespace HostMetrics.Text

/-- The quoted form of a character. -/
def quotedChar (c : Char) : List Char :=
  match c.toNat with
  | 0x00 => ['\\', '0']
  | 0x09 => ['\\', 't']
  | 0x0A => ['\\', 'n']
  | 0x0D => ['\\', 'r']
  | 0x22 => ['\\', '"']
  | 0x5C => ['\\', '\\']
  | n =>
    if inRuns extendingBoundaries n || inRuns fillerBoundaries n
        || inRuns unprintableBoundaries n then
      '\\' :: 'u' :: '\x7b' :: (Nat.toDigits 16 n ++ ['\x7d'])
    else [c]

/-- A text in quotes. -/
def quotedText (s : String) : String :=
  String.ofList ('"' :: (s.toList.flatMap quotedChar ++ ['"']))

end HostMetrics.Text
