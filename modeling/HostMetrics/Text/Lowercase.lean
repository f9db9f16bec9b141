import HostMetrics.Text.LetterTable
import HostMetrics.Text.Runs

/-!
# Lower case

A text goes to lower case letter by letter. Two letters are special: the
dotted capital I becomes two characters, and a capital sigma depends on its
neighbours. At the end of a word, where a letter stands before it and none
behind it, it becomes a final sigma.
-/

namespace HostMetrics.Text

/-- The lower-case form of a character that needs no context. -/
def lowerChar (c : Char) : List Char :=
  if c.toNat = 0x130 then ['i', Char.ofNat 0x307]
  else
    match lowercaseRuns.find? fun (first, last, step, _) =>
        first ≤ c.toNat && c.toNat ≤ last && (c.toNat - first) % step == 0 with
    | some (_, _, _, distance) => [Char.ofNat (c.toNat + distance).toNat]
    | none => [c]

/-- Whether the next character that is not passed over has case. -/
def startsCased (s : List Char) : Bool :=
  match s.dropWhile fun c => inRuns caseIgnorableBoundaries c.toNat with
  | c :: _ => inRuns casedBoundaries c.toNat
  | [] => false

/-- The lower-case form of a text behind `before`, the last character of
which comes first. -/
def lowerBehind (before : List Char) : List Char → List Char
  | [] => []
  | c :: s =>
    let form :=
      if c.toNat = 0x3A3 then
        [if startsCased before && !startsCased s then Char.ofNat 0x3C2 else Char.ofNat 0x3C3]
      else lowerChar c
    form ++ lowerBehind (c :: before) s

/-- The lower-case form of a text. -/
def lowercase (s : String) : String := String.ofList (lowerBehind [] s.toList)

end HostMetrics.Text
