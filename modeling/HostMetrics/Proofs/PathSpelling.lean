import HostMetrics.Files.Table
import HostMetrics.Proofs.Cuts
import Mathlib.Logic.Relation

/-!
# Spellings of a path

A path can be written in more than one way. A slash that follows a slash can be
left out, and so can a slash at the end and a dot that is not the first piece
of the text; nothing else can. `Shortens` has one rule for each of these, and
two texts that such steps lead from one to the other are spellings of one path
(`SpelledAlike`).

That is what the parts of a path tell apart: texts have the same parts iff they
are spelled alike (`Path.ofText_eq_ofText_iff`). A step keeps the parts, and a
text can be brought step by step into a form that its parts alone determine.

The same goes for the directories around a path. A path lies below a text if it
can be spelled as the text, a slash and something more
(`Path.isAround_iff`). The text without characters names no directory, and it
is the only one.
-/

namespace HostMetrics

/-- **A spelling made shorter** by a piece that names nothing. -/
inductive Shortens : String → String → Prop
  /-- A slash behind a slash. -/
  | slash (a b : String) : Shortens (a ++ "//" ++ b) (a ++ "/" ++ b)
  /-- A dot between two slashes. -/
  | dot (a b : String) : Shortens (a ++ "/./" ++ b) (a ++ "/" ++ b)
  /-- A dot behind the last slash. -/
  | lastDot (a : String) : Shortens (a ++ "/.") (a ++ "/")
  /-- A slash at the end, unless it is the root. -/
  | lastSlash (a : String) (h : a ≠ "") : Shortens (a ++ "/") a

/-- **Spellings of one path.** -/
def SpelledAlike : String → String → Prop := Relation.EqvGen Shortens

/-- **A directory around a path**: the path can be spelled with something more
behind it. -/
def LiesBelow (q p : String) : Prop :=
  p ≠ "" ∧ (∃ rest, SpelledAlike q (p ++ "/" ++ rest)) ∧ ¬ SpelledAlike q p

namespace Path

variable {s t p q : String} {first : List Char} {others : List (List Char)}

/-! ## Pieces -/

/-- The pieces between the slashes of a text. -/
def pieces (s : String) : List (List Char) := s.toList.splitOn '/'

/-- The pieces that name something. -/
def named (pieces : List (List Char)) : List (List Char) :=
  pieces.filter fun piece => !isSilent piece

theorem named_append (xs ys : List (List Char)) : named (xs ++ ys) = named xs ++ named ys :=
  List.filter_append xs ys

theorem pieces_append (a b : String) : pieces (a ++ "/" ++ b) = pieces a ++ pieces b := by
  unfold pieces
  rw [String.toList_append, String.toList_append, List.append_assoc]
  exact List.splitOn_append_cons_self _ _

theorem exists_pieces (s : String) : ∃ first others, pieces s = first :: others :=
  List.exists_cons_of_ne_nil (List.splitOn_ne_nil _ _)

theorem eq_of_pieces (h : pieces s = first :: others) :
    s = .ofList (first ++ others.flatMap ('/' :: ·)) := by
  have htext : ['/'].intercalate (first :: others) = s.toList := by
    rw [← h]
    exact List.intercalate_splitOn '/'
  have hjoin : ['/'].intercalate (first :: others) = first ++ others.flatMap ('/' :: ·) := by
    clear h htext
    induction others generalizing first with
    | nil => simp [List.intercalate]
    | cons piece others ih =>
      rw [List.flatMap_cons, List.cons_append, ← ih]
      simp [List.intercalate]
  rw [← String.toList_inj, String.toList_ofList, ← htext, hjoin]

/-- **A path in closed form**: it starts at the root if its text starts with a
slash, and its first piece counts even if it is a dot. -/
theorem ofText_eq (h : pieces s = first :: others) :
    ofText s = if first = [] then ⟨others ≠ [], named others⟩
      else ⟨false, first :: named others⟩ := by
  unfold pieces at h
  unfold ofText
  rw [h]
  by_cases hfirst : first = []
  · subst hfirst
    cases others with
    | nil => rfl
    | cons piece others => rfl
  · rw [if_neg hfirst]
    split
    next heq => exact absurd (List.cons.inj heq).1 hfirst
    next heq => exact absurd (List.cons.inj heq).1 hfirst
    next heq =>
      obtain ⟨rfl, rfl⟩ := List.cons.inj heq
      rfl
    next hdot =>
      have hloud : (!isSilent first) = true := by
        have hdot : first ≠ ['.'] := fun heq => hdot others (heq ▸ rfl)
        simp [isSilent, hfirst, hdot]
      exact congrArg (mk false) (List.filter_cons_of_pos hloud)

/-! ## Spelled alike, the same parts -/

/-- A path with more parts behind it. -/
def below (p : Path) (names : List (List Char)) : Path := ⟨p.rooted, p.parts ++ names⟩

/-- What stands behind a slash adds the parts that it names. -/
theorem ofText_append (a b : String) :
    ofText (a ++ "/" ++ b) = (ofText (a ++ "/")).below (named (pieces b)) := by
  obtain ⟨first, others, ha⟩ := exists_pieces a
  have hb : pieces (a ++ "/" ++ b) = first :: (others ++ pieces b) := by
    rw [pieces_append, ha]
    rfl
  have hslash : pieces (a ++ "/") = first :: (others ++ [[]]) := by
    rw [← String.append_empty (s := a ++ "/"), pieces_append, ha]
    rfl
  have hne : pieces b ≠ [] := List.splitOn_ne_nil _ _
  rw [ofText_eq hb, ofText_eq hslash]
  by_cases hfirst : first = []
  · simp [hfirst, below, named, hne, isSilent]
  · simp [hfirst, below, named, isSilent]

theorem ofText_lastSlash (h : s ≠ "") : ofText (s ++ "/") = ofText s := by
  obtain ⟨first, others, hs⟩ := exists_pieces s
  have hslash : pieces (s ++ "/") = first :: (others ++ [[]]) := by
    rw [← String.append_empty (s := s ++ "/"), pieces_append, hs]
    rfl
  rw [ofText_eq hs, ofText_eq hslash]
  by_cases hfirst : first = []
  · have hothers : others ≠ [] := by
      rintro rfl
      exact h (by rw [eq_of_pieces hs, hfirst]; rfl)
    simp [hfirst, named, hothers, isSilent]
  · simp [hfirst, named, isSilent]

/-- A silent piece at the start of what stands behind a slash adds nothing. -/
theorem ofText_append_silent (a b : String) {piece : String} (h : named (pieces piece) = []) :
    ofText (a ++ "/" ++ (piece ++ "/" ++ b)) = ofText (a ++ "/" ++ b) := by
  rw [ofText_append, ofText_append a b, pieces_append, named_append, h, List.nil_append]

/-- **A step keeps the parts.** -/
theorem ofText_of_shortens (h : Shortens s t) : ofText s = ofText t := by
  cases h with
  | slash a b =>
    have hspell : a ++ "//" ++ b = a ++ "/" ++ ("" ++ "/" ++ b) :=
      String.toList_inj.mp (by simp)
    rw [hspell, ofText_append_silent a b rfl]
  | dot a b =>
    have hspell : a ++ "/./" ++ b = a ++ "/" ++ ("." ++ "/" ++ b) :=
      String.toList_inj.mp (by simp)
    rw [hspell, ofText_append_silent a b rfl]
  | lastDot a =>
    have hspell : a ++ "/." = a ++ "/" ++ "." := String.toList_inj.mp (by simp)
    rw [hspell, ofText_append]
    exact congrArg (mk _) (List.append_nil _)
  | lastSlash a h => exact ofText_lastSlash h

theorem ofText_of_spelledAlike (h : SpelledAlike s t) : ofText s = ofText t := by
  induction h with
  | rel s t hstep => exact ofText_of_shortens hstep
  | refl s => rfl
  | symm s t _ ih => exact ih.symm
  | trans s t u _ _ ih ih' => exact ih.trans ih'

/-! ## The same parts, spelled alike -/

/-- The text with pieces behind it, each of them behind a slash. -/
def followed (a : String) (pieces : List (List Char)) : String :=
  a ++ .ofList (pieces.flatMap ('/' :: ·))

@[simp] theorem followed_nil (a : String) : followed a [] = a :=
  String.toList_inj.mp (by simp [followed])

theorem followed_cons (a : String) (piece : List Char) (pieces : List (List Char)) :
    followed a (piece :: pieces) = followed (a ++ "/" ++ .ofList piece) pieces :=
  String.toList_inj.mp (by simp [followed])

theorem followed_append (a b : String) (pieces : List (List Char)) :
    followed (a ++ b) pieces = a ++ followed b pieces :=
  String.append_assoc

/-- A silent piece can be left out, whatever stands behind it. -/
theorem spelledAlike_of_isSilent {a : String} (h : a ≠ "") {piece : List Char}
    (hpiece : isSilent piece = true) (pieces : List (List Char)) :
    SpelledAlike (followed a (piece :: pieces)) (followed a pieces) := by
  have hlast : SpelledAlike (a ++ "/") a := .rel _ _ (.lastSlash a h)
  have hcases : piece = [] ∨ piece = ['.'] := by simpa [isSilent] using hpiece
  cases pieces with
  | nil =>
    rw [followed_cons, followed_nil, followed_nil]
    obtain rfl | rfl := hcases
    · exact String.append_empty ▸ hlast
    · have hdot : a ++ "/" ++ .ofList ['.'] = a ++ "/." := String.toList_inj.mp (by simp)
      rw [hdot]
      exact .trans _ _ _ (.rel _ _ (.lastDot a)) hlast
  | cons next pieces =>
    rw [followed_cons, followed_cons, followed_cons, followed_append, followed_append (a ++ "/")]
    obtain rfl | rfl := hcases
    · have hslash : a ++ "/" ++ .ofList [] ++ "/" = a ++ "//" := String.toList_inj.mp (by simp)
      rw [hslash]
      exact .rel _ _ (.slash a _)
    · have hdot : a ++ "/" ++ .ofList ['.'] ++ "/" = a ++ "/./" := String.toList_inj.mp (by simp)
      rw [hdot]
      exact .rel _ _ (.dot a _)

/-- **Silent pieces can be left out**, one step for each of them. -/
theorem spelledAlike_followed {a : String} (h : a ≠ "") (pieces : List (List Char)) :
    SpelledAlike (followed a pieces) (followed a (named pieces)) := by
  induction pieces generalizing a with
  | nil => exact .refl _
  | cons piece pieces ih =>
    by_cases hpiece : isSilent piece = true
    · have hnamed : named (piece :: pieces) = named pieces :=
        List.filter_cons_of_neg (by simp [hpiece])
      rw [hnamed]
      exact .trans _ _ _ (spelledAlike_of_isSilent h hpiece pieces) (ih h)
    · have hnamed : named (piece :: pieces) = piece :: named pieces :=
        List.filter_cons_of_pos (by simp [hpiece])
      rw [hnamed, followed_cons, followed_cons]
      exact ih (by simp)

/-- A text that the parts of a path alone determine. -/
def spelling : Path → String
  | ⟨true, parts⟩ => followed "/" parts
  | ⟨false, []⟩ => ""
  | ⟨false, first :: parts⟩ => followed (.ofList first) parts

theorem spelledAlike_spelling (s : String) : SpelledAlike s (ofText s).spelling := by
  obtain ⟨first, others, hs⟩ := exists_pieces s
  have htext : s = followed (.ofList first) others :=
    (eq_of_pieces hs).trans String.ofList_append
  rw [ofText_eq hs]
  by_cases hfirst : first = []
  · subst hfirst
    rw [if_pos rfl]
    cases others with
    | nil =>
      rw [htext]
      exact .refl _
    | cons next others =>
      -- the slash in front becomes the root with a slash behind it
      have hroot : Shortens (followed "/" (next :: others)) s := by
        rw [htext, followed_cons, followed_cons, followed_append, followed_append (_ ++ _)]
        exact .slash "" _
      exact .trans _ _ _ (.symm _ _ (.rel _ _ hroot)) (spelledAlike_followed (by decide) _)
  · have hne : String.ofList first ≠ "" := fun h => hfirst (by simpa using h)
    rw [if_neg hfirst]
    conv => arg 1; rw [htext]
    exact spelledAlike_followed hne others

/-- **Texts have the same parts iff they are spelled alike.** -/
theorem ofText_eq_ofText_iff : ofText s = ofText t ↔ SpelledAlike s t := by
  refine ⟨fun h => ?_, ofText_of_spelledAlike⟩
  have hs := spelledAlike_spelling s
  rw [h] at hs
  exact .trans _ _ _ hs (.symm _ _ (spelledAlike_spelling t))

/-! ## Around a path -/

/-- Only the text without characters names nothing at all. -/
theorem names_something_iff : ((ofText s).rooted || (ofText s).parts ≠ []) = true ↔ s ≠ "" := by
  obtain ⟨first, others, hs⟩ := exists_pieces s
  rw [ofText_eq hs]
  by_cases hfirst : first = []
  · subst hfirst
    cases others with
    | nil => simp [eq_of_pieces hs, named]
    | cons next others => simp [eq_of_pieces hs]
  · simp [eq_of_pieces hs, hfirst]

/-- Behind a text that names something come the parts of what follows. -/
theorem ofText_append_of_ne (hp : p ≠ "") (rest : String) :
    ofText (p ++ "/" ++ rest) = (ofText p).below (named (pieces rest)) := by
  rw [ofText_append, ofText_lastSlash hp]

/-- Spellings of one path stay so with the same text behind them. -/
theorem ofText_append_congr (h : ofText s = ofText t) (rest : String) :
    ofText (s ++ "/" ++ rest) = ofText (t ++ "/" ++ rest) := by
  have hempty : s ≠ "" ↔ t ≠ "" := by rw [← names_something_iff, h, names_something_iff]
  by_cases hs : s = ""
  · have ht : t = "" := Decidable.byContradiction fun ht => hempty.mpr ht hs
    rw [hs, ht]
  · rw [ofText_append_of_ne hs, ofText_append_of_ne (hempty.mp hs), h]

/-- The parts of a path, the first one aside where the path has no root, are
pieces of its text that name something. -/
theorem mem_named_of_below {base : Path} {names : List (List Char)}
    (hbase : (base.rooted || base.parts ≠ []) = true) (hq : ofText q = base.below names) :
    ∀ name ∈ names, name ∈ named (pieces q) := by
  obtain ⟨first, others, hpieces⟩ := exists_pieces q
  obtain ⟨front, hfront⟩ : ∃ front, front ++ names = named others := by
    rw [ofText_eq hpieces] at hq
    split at hq
    · exact ⟨base.parts, (congrArg parts hq).symm⟩
    · have hrooted : base.rooted = false := (congrArg rooted hq).symm
      have hparts : first :: named others = base.parts ++ names := congrArg parts hq
      cases hbaseParts : base.parts with
      | nil => simp [hrooted, hbaseParts] at hbase
      | cons part parts =>
        rw [hbaseParts] at hparts
        exact ⟨parts, (List.cons.inj hparts).2.symm⟩
  intro name hname
  have hmem : name ∈ named others := hfront ▸ List.mem_append_right front hname
  rw [hpieces]
  exact List.mem_filter.mpr ⟨List.mem_cons_of_mem first (List.mem_filter.mp hmem).1,
    (List.mem_filter.mp hmem).2⟩

/-- Parts of a path can be written behind a slash. -/
theorem exists_named_eq {names : List (List Char)} (h : ∀ name ∈ names, name ∈ named (pieces q)) :
    ∃ rest, named (pieces rest) = names := by
  cases names with
  | nil => exact ⟨"", rfl⟩
  | cons name names =>
    refine ⟨.ofList (['/'].intercalate (name :: names)), ?_⟩
    have hsplit : pieces (.ofList (['/'].intercalate (name :: names))) = name :: names := by
      unfold pieces
      rw [String.toList_ofList]
      exact List.splitOn_intercalate '/' (fun piece hpiece =>
        Text.not_mem_of_mem_splitOn (List.mem_filter.mp (h piece hpiece)).1) (List.cons_ne_nil _ _)
    rw [hsplit]
    exact List.filter_eq_self.mpr fun piece hpiece => (List.mem_filter.mp (h piece hpiece)).2

/-- A directory around a path names something, and the path has more parts. -/
theorem isAround_eq_true_iff {p q : Path} :
    p.isAround q = true
      ↔ (p.rooted || p.parts ≠ []) = true ∧ ∃ names, names ≠ [] ∧ q = p.below names := by
  obtain ⟨rooted, parts⟩ := q
  unfold isAround below
  rw [Bool.and_eq_true, Bool.and_eq_true, Bool.and_eq_true, and_assoc, and_assoc]
  refine and_congr_right fun _ => ?_
  rw [beq_iff_eq, List.isPrefixOf_iff_prefix, decide_eq_true_eq]
  constructor
  · rintro ⟨rfl, ⟨names, rfl⟩, hlength⟩
    exact ⟨names, by rintro rfl; simp at hlength, rfl⟩
  · rintro ⟨names, hnames, heq⟩
    obtain ⟨rfl, rfl⟩ := mk.inj heq
    exact ⟨rfl, List.prefix_append _ _, by simpa [List.length_pos_iff] using hnames⟩

/-- **The directories around a path are the texts that it lies below.** -/
theorem isAround_iff : (ofText p).isAround (ofText q) = true ↔ LiesBelow q p := by
  rw [isAround_eq_true_iff]
  unfold LiesBelow
  rw [names_something_iff, ← ofText_eq_ofText_iff]
  refine and_congr_right fun hp => ?_
  simp only [← ofText_eq_ofText_iff, ofText_append_of_ne hp]
  constructor
  · rintro ⟨names, hnames, hq⟩
    obtain ⟨rest, hrest⟩ := exists_named_eq (mem_named_of_below (names_something_iff.mpr hp) hq)
    refine ⟨⟨rest, by rw [hrest, hq]⟩, fun heq => hnames ?_⟩
    have hparts := congrArg parts (hq.symm.trans heq)
    simpa [below] using hparts
  · rintro ⟨⟨rest, hq⟩, hne⟩
    refine ⟨_, fun hnil => hne ?_, hq⟩
    rw [hq, hnil]
    simp [below]

end Path
end HostMetrics
