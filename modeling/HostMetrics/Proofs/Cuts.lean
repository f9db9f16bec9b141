import HostMetrics.Text.Blank

/-!
# Where texts are cut

A text is cut at a character, the first or the last one of its kind, or
behind a number of bytes. This module says for each of these what the parts
are: put together they are the text, and the place of the cut is the only one
that fits.

A cut behind a number of bytes has no result where the place lies inside a
character (`SplitsAt`) and where the text ends before it.
-/

namespace HostMetrics.Text

variable {sep : Char} {s t before after front back : List Char} {n : Nat}

/-! ## At a character -/

/-- **The parts at the first of a character**: it is not in the part before
it. -/
theorem cutAt_eq_some_iff :
    cutAt sep s = some (before, after) ↔ s = before ++ sep :: after ∧ sep ∉ before := by
  constructor
  · intro h
    induction s generalizing before with
    | nil => cases h
    | cons c s ih =>
      rw [cutAt] at h
      split at h
      case isTrue hc =>
        cases h
        exact ⟨congrArg (· :: _) hc, List.not_mem_nil⟩
      case isFalse hc =>
        obtain ⟨⟨front, back⟩, hcut, heq⟩ := Option.map_eq_some_iff.mp h
        cases heq
        obtain ⟨rfl, hfront⟩ := ih hcut
        exact ⟨rfl, List.not_mem_cons_of_ne_of_not_mem (Ne.symm hc) hfront⟩
  · rintro ⟨rfl, hbefore⟩
    exact cutAt_append hbefore after

theorem cutAt_eq_none_iff : cutAt sep s = none ↔ sep ∉ s := by
  constructor
  · intro h hmem
    obtain ⟨before, after, hs, hbefore⟩ := List.eq_append_cons_of_mem hmem
    rw [cutAt_eq_some_iff.mpr ⟨hs, hbefore⟩] at h
    cases h
  · intro h
    refine Option.eq_none_iff_forall_ne_some.mpr fun (before, after) hcut => h ?_
    rw [(cutAt_eq_some_iff.mp hcut).1]
    simp

theorem cutAtLast_of_not_mem (h : sep ∉ s) : cutAtLast sep s = none := by
  induction s with
  | nil => rfl
  | cons c s ih =>
    obtain ⟨hc, hs⟩ := List.ne_and_not_mem_of_not_mem_cons h
    rw [cutAtLast, ih hs]
    exact if_neg hc.symm

/-- **The parts at the last of a character**: it is not in the part behind
it, and may well be in the other one. -/
theorem cutAtLast_append (h : sep ∉ after) (before : List Char) :
    cutAtLast sep (before ++ sep :: after) = some (before, after) := by
  induction before with
  | nil =>
    rw [List.nil_append, cutAtLast, cutAtLast_of_not_mem h]
    exact if_pos rfl
  | cons c before ih => rw [List.cons_append, cutAtLast, ih]

/-! ## Behind a number of bytes -/

@[simp] theorem byteLength_nil : byteLength [] = 0 := rfl

@[simp] theorem byteLength_cons (c : Char) (s : List Char) :
    byteLength (c :: s) = c.utf8Size + byteLength s := rfl

@[simp] theorem byteLength_append (s t : List Char) :
    byteLength (s ++ t) = byteLength s + byteLength t := by
  induction s with
  | nil => simp
  | cons c s ih => simp [ih, Nat.add_assoc]

theorem length_le_byteLength (s : List Char) : s.length ≤ byteLength s := by
  induction s with
  | nil => exact Nat.le_refl 0
  | cons c s ih =>
    have := c.utf8Size_pos
    rw [List.length_cons, byteLength_cons]
    omega

theorem eq_nil_of_byteLength (h : byteLength s = 0) : s = [] := by
  cases s with
  | nil => rfl
  | cons c s =>
    have := c.utf8Size_pos
    rw [byteLength_cons] at h
    omega

/-- **A place inside a character**: the character begins before it and ends
behind it. -/
def SplitsAt (n : Nat) (s : List Char) : Prop :=
  ∃ front c back, s = front ++ c :: back ∧ byteLength front < n
    ∧ n < byteLength front + c.utf8Size

theorem SplitsAt.lt (h : SplitsAt n s) : n < byteLength s := by
  obtain ⟨front, c, back, rfl, -, hend⟩ := h
  rw [byteLength_append, byteLength_cons]
  omega

theorem splitsAt_cons {c : Char} : SplitsAt n (c :: s) ↔
    (0 < n ∧ n < c.utf8Size) ∨ ∃ m, n = c.utf8Size + m ∧ SplitsAt m s := by
  constructor
  · rintro ⟨front, d, back, heq, hstart, hend⟩
    cases front with
    | nil =>
      cases heq
      exact .inl ⟨hstart, by simpa using hend⟩
    | cons c front =>
      cases heq
      rw [byteLength_cons] at hstart hend
      exact .inr ⟨n - c.utf8Size, by omega, front, d, back, rfl, by omega, by omega⟩
  · rintro (⟨hstart, hend⟩ | ⟨m, rfl, front, d, back, rfl, hstart, hend⟩)
    · exact ⟨[], c, s, rfl, hstart, by simpa using hend⟩
    · exact ⟨c :: front, d, back, rfl, by simpa using hstart,
        by rw [byteLength_cons]; omega⟩

theorem cutBytes_cons (n : Nat) (c : Char) (s : List Char) :
    cutBytes (c.utf8Size + n) (c :: s)
      = (cutBytes n s).map fun (front, back) => (c :: front, back) := by
  have hsize := c.utf8Size_pos
  obtain ⟨k, hk⟩ : ∃ k, c.utf8Size + n = k + 1 := ⟨c.utf8Size + n - 1, by omega⟩
  rw [hk, cutBytes, if_pos (by omega), show k + 1 - c.utf8Size = n by omega]

/-- **The parts behind a number of bytes.** -/
theorem cutBytes_eq_some_iff :
    cutBytes n s = some (front, back) ↔ s = front ++ back ∧ byteLength front = n := by
  constructor
  · intro h
    fun_induction cutBytes n s generalizing front with
    | case1 s =>
      cases h
      exact ⟨rfl, rfl⟩
    | case2 => cases h
    | case3 n c s hc ih =>
      obtain ⟨⟨start, rest⟩, hcut, heq⟩ := Option.map_eq_some_iff.mp h
      cases heq
      obtain ⟨rfl, hstart⟩ := ih hcut
      exact ⟨rfl, by rw [byteLength_cons]; omega⟩
    | case4 => cases h
  · rintro ⟨rfl, rfl⟩
    induction front with
    | nil => simp [cutBytes]
    | cons c front ih => rw [List.cons_append, byteLength_cons, cutBytes_cons, ih]; rfl

/-- **A text that is long enough** cannot be cut iff the place lies inside a
character. -/
theorem cutBytes_eq_none_iff (h : n ≤ byteLength s) : cutBytes n s = none ↔ SplitsAt n s := by
  induction s generalizing n with
  | nil =>
    obtain rfl : n = 0 := Nat.le_zero.mp h
    simp [cutBytes, SplitsAt]
  | cons c s ih =>
    rw [splitsAt_cons]
    have hsize := c.utf8Size_pos
    rw [byteLength_cons] at h
    by_cases hc : c.utf8Size ≤ n
    · obtain ⟨m, rfl⟩ := Nat.exists_eq_add_of_le hc
      rw [cutBytes_cons, Option.map_eq_none_iff, ih (by omega)]
      constructor
      · exact fun hs => .inr ⟨m, rfl, hs⟩
      · rintro (⟨-, hlt⟩ | ⟨k, hk, hs⟩)
        · omega
        · obtain rfl : m = k := by omega
          exact hs
    · have hrest : ¬ ∃ m, n = c.utf8Size + m ∧ SplitsAt m s := by
        rintro ⟨m, hm, -⟩
        omega
      cases n with
      | zero => simp [cutBytes, hrest]
      | succ n => simp [cutBytes, hc, hrest, Nat.lt_of_not_le hc]

/-! ## What the parts hold -/

theorem mem_of_mem_splitOnP {p : Char → Bool} {piece : List Char} {c : Char}
    (hpiece : piece ∈ s.splitOnP p) (hc : c ∈ piece) : c ∈ s := by
  induction s generalizing piece with
  | nil =>
    rw [List.splitOnP_nil, List.mem_singleton] at hpiece
    exact hpiece ▸ hc
  | cons d s ih =>
    rw [List.splitOnP_cons_eq_if_modifyHead] at hpiece
    split at hpiece
    · rcases List.mem_cons.mp hpiece with rfl | hpiece
      · exact absurd hc List.not_mem_nil
      · exact List.mem_cons_of_mem d (ih hpiece hc)
    · obtain ⟨first, others, hs⟩ := List.exists_cons_of_ne_nil (List.splitOnP_ne_nil p s)
      rw [hs] at hpiece ih
      rcases List.mem_cons.mp hpiece with rfl | hpiece
      · rcases List.mem_cons.mp hc with rfl | hc
        · exact List.mem_cons_self
        · exact List.mem_cons_of_mem d (ih List.mem_cons_self hc)
      · exact List.mem_cons_of_mem d (ih (List.mem_cons_of_mem first hpiece) hc)

/-- What stands between two separators holds none. -/
theorem not_mem_of_mem_splitOn {piece : List Char} (hpiece : piece ∈ s.splitOn sep) :
    sep ∉ piece := by
  induction s generalizing piece with
  | nil =>
    rw [List.splitOn_nil, List.mem_singleton] at hpiece
    exact hpiece ▸ List.not_mem_nil
  | cons c s ih =>
    rw [List.splitOn_cons_eq_if_modifyHead] at hpiece
    split at hpiece
    · rcases List.mem_cons.mp hpiece with rfl | hpiece
      · exact List.not_mem_nil
      · exact ih hpiece
    next hc =>
      obtain ⟨first, others, hs⟩ := List.exists_cons_of_ne_nil (List.splitOn_ne_nil sep s)
      rw [hs] at hpiece ih
      rcases List.mem_cons.mp hpiece with rfl | hpiece
      · refine List.not_mem_cons_of_ne_of_not_mem (fun heq => hc ?_) (ih List.mem_cons_self)
        exact beq_iff_eq.mpr heq.symm
      · exact ih (List.mem_cons_of_mem first hpiece)

theorem mem_of_mem_columns {column : List Char} {c : Char} (hcolumn : column ∈ columns s)
    (hc : c ∈ column) : c ∈ s :=
  mem_of_mem_splitOnP (List.mem_filter.mp hcolumn).1 hc

theorem mem_of_mem_lines {line : List Char} {c : Char} (hline : line ∈ lines s)
    (hc : c ∈ line) : c ∈ s := by
  fun_induction lines s generalizing line with
  | case1 => cases hline
  | case2 s ih =>
    rcases List.mem_cons.mp hline with rfl | hline
    · cases hc
    · exact List.mem_cons_of_mem _ (ih hline hc)
  | case3 s ih =>
    rcases List.mem_cons.mp hline with rfl | hline
    · cases hc
    · exact List.mem_cons_of_mem _ (List.mem_cons_of_mem _ (ih hline hc))
  | case4 d s _ _ hs ih =>
    obtain rfl := List.mem_singleton.mp hline
    exact List.mem_singleton.mp hc ▸ List.mem_cons_self
  | case5 d s _ _ first others hs ih =>
    rw [hs] at ih
    rcases List.mem_cons.mp hline with rfl | hline
    · rcases List.mem_cons.mp hc with rfl | hc
      · exact List.mem_cons_self
      · exact List.mem_cons_of_mem d (ih List.mem_cons_self hc)
    · exact List.mem_cons_of_mem d (ih (List.mem_cons_of_mem first hline) hc)

end HostMetrics.Text
