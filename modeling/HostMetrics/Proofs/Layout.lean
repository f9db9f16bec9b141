import HostMetrics.Text.Blank

/-!
# Texts that were laid out

The kernel lays its statistics out as lines, each ended by a line feed, and
a line as columns with spaces around them. This module holds such texts,
`unlines` and `laidOut`, and shows that cutting them apart gives back what
they were laid out from.

For lines this needs that a line holds no line feed, and a carriage return
at its end is lost on the way (`lines_append_feed`). For columns it needs
that they are free of blanks and not empty, and that at least one blank
stands between two of them; which blanks, how many, and how many more stand
at the ends of the line, makes no difference (`columns_spread`). The kernel
puts spaces there (`laidOut`).
-/

namespace HostMetrics.Text

/-! ## Lines -/

/-- A line without a carriage return at its end. -/
def withoutReturn (l : List Char) : List Char :=
  if l.getLast? = some '\r' then l.dropLast else l

/-- Lines, each of them ended by a line feed. -/
def unlines (ls : List (List Char)) : List Char := ls.flatMap fun l => l ++ ['\n']

theorem withoutReturn_of_not_mem {l : List Char} (h : '\r' ∉ l) : withoutReturn l = l :=
  if_neg fun hl => h (List.mem_of_getLast? hl)

theorem withoutReturn_cons {c : Char} {l : List Char} (hl : l ≠ []) :
    withoutReturn (c :: l) = c :: withoutReturn l := by
  obtain ⟨d, l, rfl⟩ := List.exists_cons_of_ne_nil hl
  unfold withoutReturn
  rw [List.getLast?_cons_cons, List.dropLast_cons_cons]
  split <;> rfl

/-- A character that ends no line is the first one of a line. -/
theorem lines_cons {c : Char} {s l : List Char} {ls : List (List Char)} (hc : c ≠ '\n')
    (hreturn : c = '\r' → s.head? ≠ some '\n') (hs : lines s = l :: ls) :
    lines (c :: s) = (c :: l) :: ls := by
  have hfeed : ∀ t, c = '\r' → s = '\n' :: t → False := by
    rintro t hr rfl
    exact hreturn hr rfl
  rw [lines.eq_4 c s hc hfeed, hs]

/-- **A line feed ends a line.** -/
theorem lines_append_feed {l : List Char} (h : '\n' ∉ l) (s : List Char) :
    lines (l ++ '\n' :: s) = withoutReturn l :: lines s := by
  induction l with
  | nil => rfl
  | cons c l ih =>
    obtain ⟨hc, hl⟩ := List.ne_and_not_mem_of_not_mem_cons h
    cases l with
    | nil =>
      by_cases hr : c = '\r'
      · subst hr
        rfl
      · rw [withoutReturn_of_not_mem fun hmem => hr (List.mem_singleton.mp hmem).symm]
        exact lines_cons hc.symm (fun h => absurd h hr) rfl
    | cons d l =>
      rw [withoutReturn_cons (List.cons_ne_nil d l)]
      refine lines_cons hc.symm (fun _ hd => ?_) (ih hl)
      exact hl (List.mem_cons.mpr (.inl (Option.some.inj hd).symm))

/-- **A line feed parts a text**: what stands behind it is cut into lines of its
own, whatever stands before it. -/
theorem lines_append_cons_feed (s t : List Char) :
    lines (s ++ '\n' :: t) = lines (s ++ ['\n']) ++ lines t := by
  induction hlength : s.length using Nat.strongRecOn generalizing s with
  | ind n ih =>
    by_cases h : '\n' ∈ s
    · obtain ⟨line, rest, rfl, hline⟩ := List.eq_append_cons_of_mem h
      have hrest := ih rest.length (by simp [← hlength]; omega) rest rfl
      rw [List.append_assoc, List.append_assoc, List.cons_append, List.cons_append,
        lines_append_feed hline, lines_append_feed hline, hrest, List.cons_append]
    · rw [lines_append_feed h, lines_append_feed h]
      rfl

theorem unlines_cons (l : List Char) (ls : List (List Char)) :
    unlines (l :: ls) = l ++ '\n' :: unlines ls := by
  unfold unlines
  rw [List.flatMap_cons, List.append_assoc]
  rfl

/-- Lines without line feeds are those of their text, up to a carriage return
at the end of each. -/
theorem lines_unlines_map {ls : List (List Char)} (h : ∀ l ∈ ls, '\n' ∉ l) :
    lines (unlines ls) = ls.map withoutReturn := by
  induction ls with
  | nil => rfl
  | cons l ls ih =>
    obtain ⟨hl, hls⟩ := List.forall_mem_cons.mp h
    rw [unlines_cons, lines_append_feed hl, ih hls, List.map_cons]

/-- Lines without line feeds and carriage returns are those of their text. -/
theorem lines_unlines {ls : List (List Char)} (h : ∀ l ∈ ls, '\n' ∉ l ∧ '\r' ∉ l) :
    lines (unlines ls) = ls := by
  rw [lines_unlines_map fun l hl => (h l hl).1,
    List.map_congr_left fun l hl => withoutReturn_of_not_mem (h l hl).2, List.map_id']

/-- What stands on a line still does without the carriage return. -/
theorem exists_withoutReturn (l : List Char) :
    l = withoutReturn l ∨ l = withoutReturn l ++ ['\r'] := by
  unfold withoutReturn
  split
  next hlast =>
    obtain ⟨front, rfl⟩ := List.getLast?_eq_some_iff.mp hlast
    exact .inr (by rw [List.dropLast_concat])
  next => exact .inl rfl

/-- Cut at its line feeds, a text of lines gives them back, and what stands
behind the last line feed, which is nothing. -/
theorem splitOn_unlines {ls : List (List Char)} (h : ∀ l ∈ ls, '\n' ∉ l) :
    (unlines ls).splitOn '\n' = ls ++ [[]] := by
  induction ls with
  | nil => rfl
  | cons l ls ih =>
    obtain ⟨hl, hls⟩ := List.forall_mem_cons.mp h
    have hplain : ∀ c ∈ l, (c == '\n') = false := fun c hc =>
      beq_false_of_ne fun heq => hl (heq ▸ hc)
    rw [unlines_cons, List.splitOn_eq_splitOnP,
      List.splitOnP_append_cons (p := (· == '\n')) l (unlines ls) (beq_self_eq_true '\n'),
      List.splitOnP_eq_singleton hplain, ← List.splitOn_eq_splitOnP, ih hls]
    rfl

/-! ## Columns -/

/-- **A column**: a text with some characters and no blanks. -/
structure IsColumn (s : List Char) : Prop where
  /-- It has characters. -/
  ne_nil : s ≠ []
  /-- None of them is blank. -/
  not_blank : ∀ c ∈ s, isBlank c = false

instance (s : List Char) : Decidable (IsColumn s) :=
  decidable_of_iff (s ≠ [] ∧ (s.all fun c => !isBlank c) = true)
    ⟨fun h => ⟨h.1, by simpa using h.2⟩, fun h => ⟨h.1, by simpa using h.2⟩⟩

/-- **Columns among blanks**, with a text of blanks before each of them and
behind the last one. -/
def spread (gap : Nat → List Char) : List (List Char) → List Char
  | [] => gap 0
  | column :: rest => gap 0 ++ column ++ spread (fun i => gap (i + 1)) rest

/-- A number of spaces. -/
def spaces (n : Nat) : List Char := List.replicate n ' '

/-- **Columns on a line**, with a number of spaces before each of them and
behind the last one. -/
def laidOut (gap : Nat → Nat) : List (List Char) → List Char
  | [] => spaces (gap 0)
  | column :: rest => spaces (gap 0) ++ column ++ laidOut (fun i => gap (i + 1)) rest

theorem laidOut_eq_spread (gap : Nat → Nat) (cs : List (List Char)) :
    laidOut gap cs = spread (fun i => spaces (gap i)) cs := by
  induction cs generalizing gap with
  | nil => rfl
  | cons column rest ih => rw [laidOut, spread, ih]

theorem isBlank_of_mem_spaces {n : Nat} {c : Char} (h : c ∈ spaces n) : isBlank c = true := by
  rw [List.eq_of_mem_replicate h]
  rfl

/-- Blanks in front of a text add no columns. -/
theorem columns_blanks_append {blanks : List Char} (h : ∀ c ∈ blanks, isBlank c = true)
    (s : List Char) : columns (blanks ++ s) = columns s := by
  induction blanks with
  | nil => rfl
  | cons c blanks ih =>
    obtain ⟨hc, hblanks⟩ := List.forall_mem_cons.mp h
    exact (columns_append_blank hc [] (blanks ++ s)).trans (ih hblanks)

theorem IsColumn.columns_eq {s : List Char} (h : IsColumn s) : columns s = [s] := by
  unfold columns
  rw [List.splitOnP_eq_singleton h.not_blank]
  obtain ⟨c, s, rfl⟩ := List.exists_cons_of_ne_nil h.ne_nil
  rfl

/-- A column ends where the text ends or goes on with a blank. -/
theorem IsColumn.columns_append {column s : List Char} (h : IsColumn column)
    (hs : ∀ c ∈ s.head?, isBlank c = true) : columns (column ++ s) = column :: columns s := by
  cases s with
  | nil => rw [List.append_nil, h.columns_eq, columns_nil]
  | cons c s =>
    have hc := hs c rfl
    have hskip : columns (c :: s) = columns s := columns_append_blank hc [] s
    rw [columns_append_blank hc, h.columns_eq, hskip]
    rfl

/-- **The columns of a text are those that it was spread from.** -/
theorem columns_spread {gap : Nat → List Char} {cs : List (List Char)}
    (hcs : ∀ c ∈ cs, IsColumn c) (hblank : ∀ i, ∀ c ∈ gap i, isBlank c = true)
    (hgap : ∀ i, i + 1 < cs.length → gap (i + 1) ≠ []) : columns (spread gap cs) = cs := by
  induction cs generalizing gap with
  | nil =>
    have hnone := columns_blanks_append (hblank 0) []
    rwa [List.append_nil] at hnone
  | cons column rest ih =>
    obtain ⟨hcolumn, hrest⟩ := List.forall_mem_cons.mp hcs
    have hstart : ∀ c ∈ (spread (fun i => gap (i + 1)) rest).head?, isBlank c = true := by
      intro c hc
      cases rest with
      | nil => exact hblank 1 c (List.mem_of_head? hc)
      | cons next rest =>
        -- some blank stands before the next column, and it comes first
        obtain ⟨b, blanks, hb⟩ := List.exists_cons_of_ne_nil (hgap 0 (by simp))
        rw [spread, hb] at hc
        obtain rfl := Option.some.inj hc
        exact hblank 1 b (hb ▸ List.mem_cons_self)
    rw [spread, List.append_assoc, columns_blanks_append (hblank 0),
      hcolumn.columns_append hstart,
      ih hrest (fun i => hblank (i + 1)) fun i hi => hgap (i + 1) (Nat.succ_lt_succ hi)]

/-- **The columns of a line are those that it was laid out from.** -/
theorem columns_laidOut {gap : Nat → Nat} {cs : List (List Char)} (hcs : ∀ c ∈ cs, IsColumn c)
    (hgap : ∀ i, i + 1 < cs.length → 0 < gap (i + 1)) : columns (laidOut gap cs) = cs := by
  rw [laidOut_eq_spread]
  refine columns_spread hcs (fun _ _ => isBlank_of_mem_spaces) fun i hi hnil => ?_
  exact Nat.ne_of_gt (hgap i hi) (by simpa [spaces] using hnil)

/-! ## Blanks at the ends -/

/-- Only blanks stand behind the text without the blanks at its end. -/
theorem exists_trimEnd (s : List Char) :
    ∃ blanks, s = trimEnd s ++ blanks ∧ ∀ c ∈ blanks, isBlank c = true := by
  refine ⟨(s.reverse.takeWhile isBlank).reverse, ?_, fun c hc => ?_⟩
  · rw [trimEnd, ← List.reverse_append, List.takeWhile_append_dropWhile, List.reverse_reverse]
  · exact List.all_eq_true.mp List.all_takeWhile c (List.mem_reverse.mp hc)

theorem trimEnd_of_blank {s : List Char} (h : ∀ c ∈ s, isBlank c = true) : trimEnd s = [] := by
  have hdrop : (s.reverse ++ []).dropWhile isBlank = [] :=
    List.dropWhile_append_of_pos fun c hc => h c (List.mem_reverse.mp hc)
  rw [trimEnd, ← List.append_nil s.reverse, hdrop]
  rfl

/-- Blanks are taken off only behind the last character that is none. -/
theorem trimEnd_append_cons {c : Char} (hc : isBlank c = false) (s t : List Char) :
    trimEnd (s ++ c :: t) = s ++ c :: trimEnd t := by
  have hstop : (c :: s.reverse).dropWhile isBlank = c :: s.reverse := by
    rw [List.dropWhile_cons, hc]
    rfl
  rw [trimEnd, List.reverse_append, List.reverse_cons, List.append_assoc, List.singleton_append,
    List.dropWhile_append, hstop, trimEnd]
  split
  · next h => simp [List.isEmpty_iff.mp h]
  · simp

/-- Blanks are taken off only in front of the first character that is none. -/
theorem trim_append_cons {blanks : List Char} (h : ∀ c ∈ blanks, isBlank c = true) {c : Char}
    (hc : isBlank c = false) (s : List Char) : trim (blanks ++ c :: s) = trimEnd (c :: s) := by
  rw [trim, List.dropWhile_append_of_pos h, List.dropWhile_cons, hc]
  rfl

/-- Blanks in front of a text are taken off. -/
theorem trim_blanks_append {blanks : List Char} (h : ∀ c ∈ blanks, isBlank c = true)
    (s : List Char) : trim (blanks ++ s) = trim s := by
  rw [trim, List.dropWhile_append_of_pos h, trim]

/-- Blanks at the end of a text add no columns. -/
theorem columns_trimEnd (s : List Char) : columns (trimEnd s) = columns s := by
  obtain ⟨blanks, hs, hblanks⟩ := exists_trimEnd s
  cases blanks with
  | nil => rw [List.append_nil] at hs; rw [← hs]
  | cons b blanks =>
    obtain ⟨hb, hblanks⟩ := List.forall_mem_cons.mp hblanks
    have hnone := columns_blanks_append hblanks []
    rw [List.append_nil, columns_nil] at hnone
    rw [congrArg columns hs, columns_append_blank hb, hnone, List.append_nil]

theorem mem_of_mem_trimEnd {s : List Char} {c : Char} (h : c ∈ trimEnd s) : c ∈ s := by
  obtain ⟨blanks, hs, -⟩ := exists_trimEnd s
  exact hs ▸ List.mem_append_left blanks h

/-- A column among blanks is all that is left of them. -/
theorem IsColumn.trim_append {s blanks : List Char} (h : IsColumn s)
    (hblanks : ∀ c ∈ blanks, isBlank c = true) : trim (s ++ blanks) = s := by
  obtain ⟨first, others, rfl⟩ := List.exists_cons_of_ne_nil h.ne_nil
  have hfirst := h.not_blank first List.mem_cons_self
  have hlast := h.not_blank _ (List.getLast_mem h.ne_nil)
  have hstart : trim (first :: others ++ blanks) = trimEnd (first :: others ++ blanks) :=
    trim_append_cons (List.forall_mem_nil _) hfirst (others ++ blanks)
  rw [hstart, ← List.dropLast_concat_getLast h.ne_nil, List.append_assoc, List.singleton_append,
    trimEnd_append_cons hlast, trimEnd_of_blank hblanks]

/-! ## What stands on a line -/

/-- A character of a text of columns is one of a column or a blank. -/
theorem mem_spread {gap : Nat → List Char} {cs : List (List Char)} {c : Char}
    (h : c ∈ spread gap cs) : (∃ i, c ∈ gap i) ∨ ∃ column ∈ cs, c ∈ column := by
  induction cs generalizing gap with
  | nil => exact .inl ⟨0, h⟩
  | cons column rest ih =>
    rw [spread, List.mem_append, List.mem_append] at h
    rcases h with (hgap | hcolumn) | hrest
    · exact .inl ⟨0, hgap⟩
    · exact .inr ⟨column, List.mem_cons_self, hcolumn⟩
    · rcases ih hrest with ⟨i, hi⟩ | ⟨other, hother, hc⟩
      · exact .inl ⟨i + 1, hi⟩
      · exact .inr ⟨other, List.mem_cons_of_mem _ hother, hc⟩

/-- The blanks of a line of columns are spaces. -/
theorem mem_laidOut {gap : Nat → Nat} {cs : List (List Char)} {c : Char}
    (h : c ∈ laidOut gap cs) : c = ' ' ∨ ∃ column ∈ cs, c ∈ column := by
  rw [laidOut_eq_spread] at h
  exact (mem_spread h).imp_left fun ⟨_, hi⟩ => List.eq_of_mem_replicate hi

/-- A blank other than a space does not stand on a line of columns. -/
theorem not_mem_laidOut {gap : Nat → Nat} {cs : List (List Char)} {c : Char}
    (hcs : ∀ column ∈ cs, IsColumn column) (hblank : isBlank c = true) (hspace : c ≠ ' ') :
    c ∉ laidOut gap cs := by
  intro h
  obtain ⟨column, hcolumn, hc⟩ := (mem_laidOut h).resolve_left hspace
  rw [(hcs column hcolumn).not_blank c hc] at hblank
  cases hblank

/-- **Lines of columns are those of their text.** -/
theorem lines_unlines_laidOut {α : Type} {gap : α → Nat → Nat} {cs : α → List (List Char)}
    (h : ∀ a, ∀ column ∈ cs a, IsColumn column) (rows : List α) :
    lines (unlines (rows.map fun a => laidOut (gap a) (cs a)))
      = rows.map fun a => laidOut (gap a) (cs a) := by
  refine lines_unlines (List.forall_mem_map.mpr fun a _ => ⟨?_, ?_⟩)
  · exact not_mem_laidOut (h a) rfl (by decide)
  · exact not_mem_laidOut (h a) rfl (by decide)

end HostMetrics.Text
