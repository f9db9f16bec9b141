import HostMetrics.Failure
import Mathlib.Data.List.Forall2
import Mathlib.Data.List.Induction
import Mathlib.Data.List.Perm.Basic

/-!
# Lists of computations

A list of computations has results iff each of them has one, and otherwise
it fails as the first one that fails. That is all that the statements about
readings and measurements need to know of such lists, so it is said here
once, behind what it takes to compare lists element by element and to know a
run by the last event of a kind.

Three ways of knowing a computation go with it, and all of them pass from the
parts of a computation to the whole. `SameResults` compares it with another one.
`Decides` has a property for the result and one for the failure. `Guarded` is
for a computation that can fail for one cause only: a condition, the result
under it, and the cause without it.
-/

namespace HostMetrics

variable {ε α β : Type} {f : α → Except ε β} {l : List α}

/-! ## Lists side by side -/

/-- Lists that are related to one list in turn are related to each other. -/
theorem forall₂_comp {γ : Type} {R : α → β → Prop} {S : β → γ → Prop} {T : α → γ → Prop}
    (h : ∀ a b c, R a b → S b c → T a c) {bs : List β} {cs : List γ} (hl : List.Forall₂ R l bs)
    (hbs : List.Forall₂ S bs cs) : List.Forall₂ T l cs := by
  induction hl generalizing cs with
  | nil =>
    cases hbs
    exact .nil
  | cons hab _ ih =>
    cases hbs with
    | cons hbc hbs => exact .cons (h _ _ _ hab hbc) (ih hbs)

/-- A list is read element by element if each element counts and has a result,
or does neither. -/
theorem filterMap_eq_iff_forall₂ {read? : α → Option β} {p : α → Bool} {R : α → β → Prop}
    (hsome : ∀ a, p a = true → (∃ b, read? a = some b) ∧ ∀ b, R a b ↔ read? a = some b)
    (hnone : ∀ a, p a = false → read? a = none) {bs : List β} :
    l.filterMap read? = bs ↔ List.Forall₂ R (l.filter p) bs := by
  induction l generalizing bs with
  | nil => exact eq_comm.trans List.forall₂_nil_left_iff.symm
  | cons a l ih =>
    cases ha : p a with
    | true =>
      obtain ⟨⟨b, hb⟩, hR⟩ := hsome a ha
      rw [List.filterMap_cons_some hb, List.filter_cons_of_pos ha, List.forall₂_cons_left_iff]
      constructor
      · rintro rfl
        exact ⟨b, _, (hR b).mpr hb, ih.mp rfl, rfl⟩
      · rintro ⟨c, cs, hc, hcs, rfl⟩
        rw [ih.mpr hcs, Option.some.inj (hb.symm.trans ((hR c).mp hc))]
    | false =>
      rw [List.filterMap_cons_none (hnone a ha), List.filter_cons_of_neg (by simp [ha])]
      exact ih

/-! ## The last element of a kind -/

section Last

variable {p : α → Prop} {a b : α}

/-- **The last element of a kind**: it is of the kind, and nothing behind it
is. -/
def IsLastOf (p : α → Prop) (l : List α) (a : α) : Prop :=
  ∃ before after, l = before ++ a :: after ∧ p a ∧ ∀ b ∈ after, ¬ p b

theorem IsLastOf.kind (h : IsLastOf p l a) : p a := by
  obtain ⟨-, -, -, ha, -⟩ := h
  exact ha

theorem not_isLastOf_nil : ¬ IsLastOf p [] a := by
  rintro ⟨before, after, h, -⟩
  simp at h

theorem isLastOf_concat_of_pos (hb : p b) : IsLastOf p (l ++ [b]) a ↔ a = b := by
  constructor
  · rintro ⟨before, after, h, -, hafter⟩
    obtain rfl | ⟨after, c, rfl⟩ := after.eq_nil_or_concat'
    · exact (List.singleton_inj.mp (List.append_inj' h rfl).2).symm
    · rw [← List.cons_append, ← List.append_assoc] at h
      obtain rfl := List.singleton_inj.mp (List.append_inj' h rfl).2
      exact absurd hb (hafter b (by simp))
  · rintro rfl
    exact ⟨l, [], rfl, hb, by simp⟩

theorem isLastOf_concat_of_neg (hb : ¬ p b) : IsLastOf p (l ++ [b]) a ↔ IsLastOf p l a := by
  constructor
  · rintro ⟨before, after, h, ha, hafter⟩
    obtain rfl | ⟨after, c, rfl⟩ := after.eq_nil_or_concat'
    · obtain rfl := List.singleton_inj.mp (List.append_inj' h rfl).2
      exact absurd ha hb
    · rw [← List.cons_append, ← List.append_assoc] at h
      obtain rfl := (List.append_inj' h rfl).1
      exact ⟨before, after, rfl, ha, (List.forall_mem_append.mp hafter).1⟩
  · rintro ⟨before, after, rfl, ha, hafter⟩
    refine ⟨before, after ++ [b], by simp, ha, ?_⟩
    exact List.forall_mem_append.mpr ⟨hafter, by simpa using hb⟩

/-- **What is seen of a run is what the last element of a kind leaves** to be
seen, if the elements of the kind decide it and no other element changes it. -/
theorem seen_eq_some_iff (seen : List α → Option β) {left? : α → Option β}
    (hnil : seen [] = none) (hkind : ∀ l a, p a → seen (l ++ [a]) = left? a)
    (hother : ∀ l a, ¬ p a → seen (l ++ [a]) = seen l) {value : β} :
    seen l = some value ↔ ∃ a, IsLastOf p l a ∧ left? a = some value := by
  induction l using List.reverseRecOn with
  | nil => simp [hnil, not_isLastOf_nil]
  | append_singleton l a ih =>
    by_cases ha : p a
    · simp [hkind l a ha, isLastOf_concat_of_pos ha]
    · simp [hother l a ha, isLastOf_concat_of_neg ha, ih]

end Last

/-! ## Results of a list -/

/-- **A list has results iff each element has one.** -/
theorem mapM_eq_ok {bs : List β} :
    l.mapM f = .ok bs ↔ List.Forall₂ (fun a b => f a = .ok b) l bs := by
  induction l generalizing bs with
  | nil =>
    rw [List.mapM_nil, List.forall₂_nil_left_iff]
    exact ⟨fun h => (Except.ok.inj h).symm, fun h => congrArg Except.ok h.symm⟩
  | cons a l ih =>
    rw [List.mapM_cons, bind_eq_ok, List.forall₂_cons_left_iff]
    constructor
    · rintro ⟨b, hb, h⟩
      obtain ⟨rest, hrest, h⟩ := bind_eq_ok.mp h
      exact ⟨b, rest, hb, ih.mp hrest, (Except.ok.inj h).symm⟩
    · rintro ⟨b, rest, hb, hrest, rfl⟩
      refine ⟨b, hb, ?_⟩
      rw [ih.mpr hrest]
      rfl

theorem exists_ok_of_mapM_eq_ok {bs : List β} (h : l.mapM f = .ok bs) :
    ∀ a ∈ l, ∃ b, f a = .ok b := by
  induction mapM_eq_ok.mp h with
  | nil => simp
  | cons hab hrest ih =>
    exact List.forall_mem_cons.mpr ⟨⟨_, hab⟩, ih (mapM_eq_ok.mpr hrest)⟩

/-- Each result of a list is that of an element. -/
theorem exists_of_mem_mapM {bs : List β} {b : β} (h : l.mapM f = .ok bs) (hb : b ∈ bs) :
    ∃ a ∈ l, f a = .ok b := by
  induction mapM_eq_ok.mp h with
  | nil => cases hb
  | cons hab hrest ih =>
    rcases List.mem_cons.mp hb with rfl | hb
    · exact ⟨_, List.mem_cons_self, hab⟩
    · obtain ⟨a, ha, hresult⟩ := ih (mapM_eq_ok.mpr hrest) hb
      exact ⟨a, List.mem_cons_of_mem _ ha, hresult⟩

/-- The results of a list are known as soon as each of them is. -/
theorem mapM_eq_ok_map {g : α → β} (h : ∀ a ∈ l, f a = .ok (g a)) :
    l.mapM f = .ok (l.map g) := by
  induction l with
  | nil => rfl
  | cons a l ih =>
    rw [List.mapM_cons, h a List.mem_cons_self, ok_bind,
      ih fun b hb => h b (List.mem_cons_of_mem _ hb)]
    rfl

/-- A list in another order has the same results, in that order. -/
theorem exists_mapM_perm {l' : List α} {bs : List β} (hl : l.Perm l') (h : l.mapM f = .ok bs) :
    ∃ bs', l'.mapM f = .ok bs' ∧ bs.Perm bs' := by
  obtain ⟨bs', hbs', hperm⟩ := List.perm_comp_forall₂ hl.symm (mapM_eq_ok.mp h)
  exact ⟨bs', mapM_eq_ok.mpr hbs', hperm.symm⟩

/-- **The first failure of a list is that of the list.** -/
theorem mapM_eq_error {cause : ε} :
    l.mapM f = .error cause ↔
      ∃ before a after, l = before ++ a :: after ∧ (∀ b ∈ before, ∃ c, f b = .ok c)
        ∧ f a = .error cause := by
  induction l with
  | nil => simp [pure, Except.pure]
  | cons a l ih =>
    rw [List.mapM_cons]
    cases ha : f a with
    | error own =>
      -- nothing stands before the failure, since what does has a result
      rw [error_bind]
      constructor
      · intro h
        exact ⟨[], a, l, rfl, by simp, ha.trans (by rw [Except.error.inj h])⟩
      · rintro ⟨before, b, after, hl, hbefore, hb⟩
        cases before with
        | nil =>
          obtain ⟨rfl, -⟩ := List.cons.inj hl
          rw [Except.error.inj (ha.symm.trans hb)]
        | cons c before =>
          obtain ⟨rfl, -⟩ := List.cons.inj hl
          obtain ⟨d, hd⟩ := hbefore _ List.mem_cons_self
          rw [ha] at hd
          cases hd
    | ok b =>
      rw [ok_bind]
      have hrest : (l.mapM f >>= fun bs => pure (b :: bs)) = .error cause ↔
          l.mapM f = .error cause := by
        cases l.mapM f <;> simp [pure, Except.pure]
      rw [hrest, ih]
      constructor
      · rintro ⟨before, c, after, rfl, hbefore, hc⟩
        exact ⟨a :: before, c, after, rfl,
          List.forall_mem_cons.mpr ⟨⟨b, ha⟩, hbefore⟩, hc⟩
      · rintro ⟨before, c, after, hl, hbefore, hc⟩
        cases before with
        | nil =>
          obtain ⟨rfl, -⟩ := List.cons.inj hl
          rw [ha] at hc
          cases hc
        | cons d before =>
          obtain ⟨rfl, rfl⟩ := List.cons.inj hl
          exact ⟨before, c, after, rfl, (List.forall_mem_cons.mp hbefore).2, hc⟩

/-- Nothing but the failure of an element keeps a list from having results. -/
theorem exists_mapM_eq_ok : (∃ bs, l.mapM f = .ok bs) ↔ ∀ a ∈ l, ∃ b, f a = .ok b := by
  constructor
  · rintro ⟨bs, hbs⟩
    exact exists_ok_of_mapM_eq_ok hbs
  · intro h
    cases hl : l.mapM f with
    | ok bs => exact ⟨bs, rfl⟩
    | error cause =>
      obtain ⟨before, a, after, rfl, -, ha⟩ := mapM_eq_error.mp hl
      obtain ⟨b, hb⟩ := h a (List.mem_append_right before List.mem_cons_self)
      rw [ha] at hb
      cases hb

/-- The failure of a list is known as soon as it is known what each element
fails of. -/
theorem mapM_eq_error_iff_findSome? {fault? : α → Option ε} {cause : ε}
    (h : ∀ a own, f a = .error own ↔ fault? a = some own) :
    l.mapM f = .error cause ↔ l.findSome? fault? = some cause := by
  induction l with
  | nil => simp [pure, Except.pure]
  | cons a l ih =>
    rw [List.mapM_cons, List.findSome?_cons]
    cases ha : f a with
    | error own =>
      rw [(h a own).mp ha, error_bind, Except.error.injEq, Option.some.injEq]
    | ok b =>
      have hnone : fault? a = none :=
        Option.eq_none_iff_forall_ne_some.mpr fun own hown => by
          rw [(h a own).mpr hown] at ha
          cases ha
      rw [hnone, ok_bind, bind_eq_error]
      constructor
      · rintro (hl | ⟨bs, -, hbs⟩)
        · exact ih.mp hl
        · cases hbs
      · exact fun hl => .inl (ih.mpr hl)

/-- A list of which some elements fail, and all for one reason, fails at the
first of these. -/
theorem mapM_eq_error_iff_find? {p : α → Bool} {g : α → ε} {cause : ε}
    (h : ∀ a own, f a = .error own ↔ p a = true ∧ g a = own) :
    l.mapM f = .error cause ↔ ∃ a, l.find? p = some a ∧ g a = cause := by
  have hfault : ∀ a own, f a = .error own ↔ (Option.guard p a).map g = some own := by
    intro a own
    rw [h, Option.map_eq_some_iff]
    constructor
    · rintro ⟨ha, hown⟩
      exact ⟨a, Option.guard_eq_some_iff.mpr ⟨rfl, ha⟩, hown⟩
    · rintro ⟨b, hb, hown⟩
      obtain ⟨rfl, ha⟩ := Option.guard_eq_some_iff.mp hb
      exact ⟨ha, hown⟩
  rw [mapM_eq_error_iff_findSome? hfault, ← Option.map_eq_some_iff, ← List.findSome?_guard,
    List.map_findSome?]
  rfl

/-! ## Computations with the same results -/

section SameResults

variable {x y : Except ε α} {g : α → Except ε β}

/-- **The same results**: one of two computations has a result iff the other has
it. What they fail of is left open. -/
def SameResults (x y : Except ε α) : Prop := ∀ a, x = .ok a ↔ y = .ok a

theorem SameResults.refl (x : Except ε α) : SameResults x x := fun _ => Iff.rfl

theorem SameResults.bind (h : SameResults x y) (hfg : ∀ a, SameResults (f a) (g a)) :
    SameResults (x >>= f) (y >>= g) := by
  intro b
  rw [bind_eq_ok, bind_eq_ok]
  exact exists_congr fun a => and_congr (h a) (hfg a b)

/-- Lists have the same results if their elements do. -/
theorem SameResults.mapM (h : ∀ a ∈ l, SameResults (f a) (g a)) :
    SameResults (l.mapM f) (l.mapM g) := by
  induction l with
  | nil => exact .refl _
  | cons a l ih =>
    obtain ⟨ha, hl⟩ := List.forall_mem_cons.mp h
    rw [List.mapM_cons, List.mapM_cons]
    exact ha.bind fun b => (ih hl).bind fun bs => .refl _

end SameResults

/-! ## Computations that two properties decide -/

/-- **Two properties decide a computation**: one that its result alone has,
and one that its failure alone has. -/
structure Decides (P : β → Prop) (Q : ε → Prop) (x : Except ε β) : Prop where
  /-- It has the results with the one property. -/
  ok_iff : ∀ b, x = .ok b ↔ P b
  /-- It fails of what has the other property. -/
  error_iff : ∀ cause, x = .error cause ↔ Q cause

/-- It is enough that each property leads to an outcome and that one of them
is met. -/
theorem Decides.of_exists {P : β → Prop} {Q : ε → Prop} {x : Except ε β}
    (hok : ∀ b, P b → x = .ok b) (herror : ∀ cause, Q cause → x = .error cause)
    (h : (∃ b, P b) ∨ ∃ cause, Q cause) : Decides P Q x := by
  rcases h with ⟨b, hb⟩ | ⟨cause, hcause⟩
  · have hx := hok b hb
    refine ⟨fun a => ⟨fun ha => ?_, hok a⟩, fun own => ⟨fun hown => ?_, herror own⟩⟩
    · exact Except.ok.inj (hx.symm.trans ha) ▸ hb
    · exact nomatch hx.symm.trans hown
  · have hx := herror cause hcause
    refine ⟨fun a => ⟨fun ha => ?_, hok a⟩, fun own => ⟨fun hown => ?_, herror own⟩⟩
    · exact nomatch hx.symm.trans ha
    · exact Except.error.inj (hx.symm.trans hown) ▸ hcause

theorem Decides.exists {P : β → Prop} {Q : ε → Prop} {x : Except ε β} (h : Decides P Q x) :
    (∃ b, P b) ∨ ∃ cause, Q cause := by
  cases x with
  | ok b => exact .inl ⟨b, (h.ok_iff b).mp rfl⟩
  | error cause => exact .inr ⟨cause, (h.error_iff cause).mp rfl⟩

theorem Decides.congr {P P' : β → Prop} {Q Q' : ε → Prop} {x : Except ε β} (h : Decides P Q x)
    (hP : ∀ b, P b ↔ P' b) (hQ : ∀ cause, Q cause ↔ Q' cause) : Decides P' Q' x :=
  ⟨fun b => (h.ok_iff b).trans (hP b), fun cause => (h.error_iff cause).trans (hQ cause)⟩

theorem decides_pure (b : β) : Decides (· = b) (fun _ => False) (pure b : Except ε β) where
  ok_iff _ := ⟨fun h => (Except.ok.inj h).symm, fun h => congrArg Except.ok h.symm⟩
  error_iff _ := ⟨fun h => (nomatch h), False.elim⟩

/-- Of two computations one after the other the first decides as long as it
fails. -/
theorem Decides.bind {P : α → Prop} {Q : ε → Prop} {P' : α → β → Prop} {Q' : α → ε → Prop}
    {x : Except ε α} {g : α → Except ε β} (hx : Decides P Q x)
    (hg : ∀ a, P a → Decides (P' a) (Q' a) (g a)) :
    Decides (fun b => ∃ a, P a ∧ P' a b) (fun cause => Q cause ∨ ∃ a, P a ∧ Q' a cause)
      (x >>= g) := by
  constructor
  · intro b
    rw [bind_eq_ok]
    refine exists_congr fun a => ?_
    rw [hx.ok_iff]
    exact and_congr_right fun ha => (hg a ha).ok_iff b
  · intro cause
    rw [bind_eq_error, hx.error_iff]
    refine or_congr_right (exists_congr fun a => ?_)
    rw [hx.ok_iff]
    exact and_congr_right fun ha => (hg a ha).error_iff cause

/-- **A list is decided element by element**: it has the results of its
elements, or fails as the first of them that has none. -/
theorem Decides.mapM {P : α → β → Prop} {Q : α → ε → Prop}
    (h : ∀ a ∈ l, Decides (P a) (Q a) (f a)) :
    Decides (List.Forall₂ P l)
      (fun cause => ∃ before a after, l = before ++ a :: after ∧ (∀ b ∈ before, ∃ c, P b c)
        ∧ Q a cause)
      (l.mapM f) := by
  constructor
  · intro bs
    rw [mapM_eq_ok]
    induction l generalizing bs with
    | nil => simp
    | cons a l ih =>
      obtain ⟨ha, hl⟩ := List.forall_mem_cons.mp h
      simp only [List.forall₂_cons_left_iff, ha.ok_iff, ih hl]
  · intro cause
    rw [mapM_eq_error]
    refine exists₃_congr fun before a after => and_congr_right ?_
    rintro rfl
    refine and_congr (forall₂_congr fun b hb => exists_congr fun c => ?_) ?_
    · exact (h b (List.mem_append_left _ hb)).ok_iff c
    · exact (h a (List.mem_append_right _ List.mem_cons_self)).error_iff cause

/-! ## Computations that fail for one cause -/

variable {p q : Prop} {a : α} {b : β} {cause : ε}

/-- **A guarded computation**: it has its one result under a condition, and
otherwise fails for its one cause. -/
structure Guarded (p : Prop) (result : β) (cause : ε) (x : Except ε β) : Prop where
  /-- Under the condition it has the result. -/
  ok : p → x = .ok result
  /-- Without it there is the failure. -/
  error : ¬ p → x = .error cause

theorem Guarded.congr {x : Except ε β} (h : Guarded p b cause x) (hpq : p ↔ q) :
    Guarded q b cause x :=
  ⟨fun hq => h.ok (hpq.mpr hq), fun hq => h.error fun hp => hq (hpq.mp hp)⟩

theorem guarded_pure (b : β) (cause : ε) : Guarded True b cause (pure b : Except ε β) :=
  ⟨fun _ => rfl, fun h => absurd trivial h⟩

/-- Of two guarded computations both conditions are needed. -/
theorem Guarded.bind {x : Except ε α} {g : α → Except ε β} (hx : Guarded p a cause x)
    (hg : Guarded q b cause (g a)) : Guarded (p ∧ q) b cause (x >>= g) := by
  constructor
  · rintro ⟨hp, hq⟩
    rw [hx.ok hp, ok_bind, hg.ok hq]
  · intro h
    by_cases hp : p
    · rw [hx.ok hp, ok_bind, hg.error fun hq => h ⟨hp, hq⟩]
    · rw [hx.error hp, error_bind]

/-- **A list of guarded computations** needs the conditions of all of them. -/
theorem Guarded.mapM {p : α → Prop} {result : α → β}
    (h : ∀ a ∈ l, Guarded (p a) (result a) cause (f a)) :
    Guarded (∀ a ∈ l, p a) (l.map result) cause (l.mapM f) := by
  induction l with
  | nil => exact (guarded_pure [] cause).congr (by simp)
  | cons a l ih =>
    obtain ⟨ha, hl⟩ := List.forall_mem_cons.mp h
    rw [List.mapM_cons]
    refine (ha.bind ((ih hl).bind (guarded_pure (result a :: l.map result) cause))).congr ?_
    rw [and_true, List.forall_mem_cons]

/-- What can only abort can do no more as part of a computation with errors. -/
theorem Guarded.ofAbort {x : Except Abort β} {cause : Abort} (h : Guarded p b cause x) :
    Guarded p b (.abort cause) (Failure.ofAbort x : Except (Failure ε) β) :=
  ⟨fun hp => h.ok hp ▸ rfl, fun hp => h.error hp ▸ rfl⟩

theorem Guarded.ok_iff {x : Except ε β} (h : Guarded p b cause x) {result : β} :
    x = .ok result ↔ p ∧ result = b := by
  constructor
  · intro hx
    by_cases hp : p
    · exact ⟨hp, Except.ok.inj (hx.symm.trans (h.ok hp))⟩
    · exact nomatch hx.symm.trans (h.error hp)
  · rintro ⟨hp, rfl⟩
    exact h.ok hp

theorem Guarded.error_iff {x : Except ε β} (h : Guarded p b cause x) {own : ε} :
    x = .error own ↔ ¬ p ∧ own = cause := by
  constructor
  · intro hx
    by_cases hp : p
    · exact nomatch hx.symm.trans (h.ok hp)
    · exact ⟨hp, Except.error.inj (hx.symm.trans (h.error hp))⟩
  · rintro ⟨hp, rfl⟩
    exact h.error hp

end HostMetrics
