/-!
# Blanks, lines and columns

The kernel prints its statistics as lines of columns. This module holds
the ways such a text is cut apart: into lines, into columns between runs
of white space, and at one chosen character. A text is a list of
characters throughout, so each cut is a recursion on the text itself.

White space is the Unicode property of that name, so a no-break space
ends a column as a plain space does, and a zero-width space does not.

The main statement is `columns_append_blank`: a blank separates the
columns on its left from those on its right, whatever stands there.
-/

namespace HostMetrics.Text

/-- White space: the characters with the Unicode property `White_Space`. -/
def isBlank (c : Char) : Bool :=
  let n := c.toNat
  (9 ≤ n && n ≤ 13) || n == 0x20 || n == 0x85 || n == 0xA0 || n == 0x1680
    || (0x2000 ≤ n && n ≤ 0x200A) || n == 0x2028 || n == 0x2029 || n == 0x202F
    || n == 0x205F || n == 0x3000

/-- The lines of a text. A line feed ends a line and is no part of it, and
neither is one carriage return directly before it. A text that ends
without a line feed has a last line all the same; an empty one has none. -/
def lines : List Char → List (List Char)
  | [] => []
  | '\n' :: s => [] :: lines s
  | '\r' :: '\n' :: s => [] :: lines s
  | c :: s =>
    match lines s with
    | [] => [[c]]
    | l :: ls => (c :: l) :: ls

/-- The first line of a text, which is empty if the text is. -/
def firstLine (s : String) : String := String.ofList ((lines s.toList).headD [])

/-- The columns of a line: its longest pieces free of white space. -/
def columns (s : List Char) : List (List Char) :=
  (s.splitOnP isBlank).filter (fun piece => !piece.isEmpty)

/-- The text without the white space at its end. -/
def trimEnd (s : List Char) : List Char :=
  (s.reverse.dropWhile isBlank).reverse

/-- The text without the white space at either end. -/
def trim (s : List Char) : List Char :=
  trimEnd (s.dropWhile isBlank)

/-- What stands before and after the first `sep`, if there is one. -/
def cutAt (sep : Char) : List Char → Option (List Char × List Char)
  | [] => none
  | c :: s =>
    if c = sep then some ([], s)
    else (cutAt sep s).map fun (before, after) => (c :: before, after)

/-- What stands before and after the last `sep`, if there is one. -/
def cutAtLast (sep : Char) : List Char → Option (List Char × List Char)
  | [] => none
  | c :: s =>
    match cutAtLast sep s with
    | some (before, after) => some (c :: before, after)
    | none => if c = sep then some ([], s) else none

/-- The length of a text in bytes of its UTF-8 form. -/
def byteLength (s : List Char) : Nat :=
  s.foldr (fun c size => c.utf8Size + size) 0

/-- The first `n` bytes of a text and the rest, or nothing where the cut
would fall inside a character or behind the end. -/
def cutBytes : Nat → List Char → Option (List Char × List Char)
  | 0, s => some ([], s)
  | _ + 1, [] => none
  | n + 1, c :: s =>
    if c.utf8Size ≤ n + 1 then
      (cutBytes (n + 1 - c.utf8Size) s).map fun (front, back) => (c :: front, back)
    else none

/-! ## What the cuts keep -/

theorem splitOnP_append_sep {p : Char → Bool} {x : Char} (hx : p x = true)
    (a b : List Char) :
    (a ++ x :: b).splitOnP p = a.splitOnP p ++ b.splitOnP p := by
  induction a with
  | nil => simp [List.splitOnP_cons_eq_if_modifyHead, hx]
  | cons c a ih =>
    rw [List.cons_append, List.splitOnP_cons_eq_if_modifyHead, ih,
      List.splitOnP_cons_eq_if_modifyHead]
    cases ha : a.splitOnP p with
    | nil => exact absurd ha (List.splitOnP_ne_nil p a)
    | cons s ss => cases p c <;> simp

/-- A blank separates the columns before it from the columns after it. -/
theorem columns_append_blank {x : Char} (hx : isBlank x = true) (a b : List Char) :
    columns (a ++ x :: b) = columns a ++ columns b := by
  simp [columns, splitOnP_append_sep hx]

@[simp] theorem columns_nil : columns [] = [] := rfl

theorem cutAt_append {sep : Char} {s : List Char} (h : sep ∉ s) (t : List Char) :
    cutAt sep (s ++ sep :: t) = some (s, t) := by
  induction s with
  | nil => exact if_pos rfl
  | cons c s ih =>
    obtain ⟨hc, hs⟩ := List.ne_and_not_mem_of_not_mem_cons h
    rw [List.cons_append, cutAt, if_neg hc.symm, ih hs]
    rfl

/-- A text of single bytes has as many bytes as characters. -/
theorem byteLength_eq_length {s : List Char} (h : ∀ c ∈ s, c.utf8Size = 1) :
    byteLength s = s.length := by
  induction s with
  | nil => rfl
  | cons c s ih =>
    obtain ⟨hc, hs⟩ := List.forall_mem_cons.mp h
    show c.utf8Size + byteLength s = _
    rw [hc, ih hs, List.length_cons, Nat.add_comm]

theorem cutBytes_append {s : List Char} (h : ∀ c ∈ s, c.utf8Size = 1) (t : List Char) :
    cutBytes s.length (s ++ t) = some (s, t) := by
  induction s with
  | nil => rw [List.length_nil, cutBytes]; rfl
  | cons c s ih =>
    obtain ⟨hc, hs⟩ := List.forall_mem_cons.mp h
    rw [List.length_cons, List.cons_append, cutBytes, if_pos (by omega), hc,
      Nat.add_sub_cancel, ih hs]
    rfl

end HostMetrics.Text
