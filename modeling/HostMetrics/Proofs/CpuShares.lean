import HostMetrics.Proofs.Sequence
import HostMetrics.Source.Kernel
import Mathlib.Algebra.Order.BigOperators.Group.List
import Mathlib.Algebra.Order.Field.Rat
import Mathlib.Tactic.FieldSimp
import Mathlib.Tactic.Linarith
import Mathlib.Tactic.Positivity
import Mathlib.Tactic.Ring

/-!
# Shares of a CPU's time

The share of a state is what the state went on by, held against what the
CPU went on by. The first is a truncated difference, so a state that went
back counts as one that stood still. The second is the difference of two
sums, in which a state that went back is subtracted from those that went
on. The two fit together iff no state went back
(`KernelSource.elapsed_eq_sum_iff`): then the shares make up the whole, and
otherwise they make up more than the whole, or nothing is told of any of
them.

Sums of counters that do not fit 64 bits abort. Of the two sums that are
compared only that of the current line can, as long as the sample was
summed up before (`KernelSource.sharesSince_eq`).
-/

namespace HostMetrics

open Proc Text

/-- **The counted states**, those that make up the time of a CPU. -/
def CpuState.counted : List CpuState :=
  [.user, .nice, .system, .idle, .iowait, .irq, .softirq, .steal]

namespace Proc.CpuLine

/-- The ticks of a state, zero if the line does not tell them. -/
def ticksOf (line : CpuLine) (state : CpuState) : Nat := (line.ticks? state).getD 0

/-- The line of a CPU that has not run yet. -/
def zero : CpuLine := ⟨none, [0, 0, 0, 0], by decide, by decide⟩

/-- **A line that can be summed up**: its counted ticks fit 64 bits. -/
def Summable (line : CpuLine) : Prop := Counter.exactSum line.counted < wordLimit

instance (line : CpuLine) : Decidable line.Summable :=
  inferInstanceAs (Decidable (_ < _))

theorem exactSum_take (ticks : List Nat) (n : Nat) :
    Counter.exactSum (ticks.take n) = ((List.range n).map fun i => ticks[i]?.getD 0).sum := by
  induction n generalizing ticks with
  | zero => rfl
  | succ n ih =>
    rw [List.range_succ_eq_map, List.map_cons, List.map_map, List.sum_cons]
    cases ticks with
    | nil => simp [Counter.exactSum, Function.comp_def]
    | cons tick rest =>
      rw [List.take_succ_cons]
      show tick + Counter.exactSum (rest.take n) = _
      rw [ih]
      rfl

/-- The sum of a line is that of its counted states. -/
theorem exactSum_counted (line : CpuLine) :
    Counter.exactSum line.counted = (CpuState.counted.map line.ticksOf).sum := by
  unfold counted
  rw [exactSum_take]
  rfl

theorem ticksOf_zero (state : CpuState) : zero.ticksOf state = 0 := by
  cases state <;> rfl

theorem total_eq (line : CpuLine) :
    line.total
      = if line.Summable then .ok (Counter.exactSum line.counted) else .error .sumOverflow :=
  rfl

end Proc.CpuLine

namespace KernelSource

/-- **The shares of a CPU's time between two lines**, if both can be summed
up. -/
def sharesBetween (before now : CpuLine) : CpuTimes :=
  ⟨fun state => (now.ticks? state).map fun ticks =>
    share (Counter.exactSum now.counted - Counter.exactSum before.counted) ticks
      (before.ticksOf state)⟩

variable {before : Option CpuLine} {now : CpuLine}

theorem ticksBefore_eq (before : Option CpuLine) (state : CpuState) :
    ticksBefore before state = (before.getD .zero).ticksOf state := by
  cases before with
  | none => exact (CpuLine.ticksOf_zero state).symm
  | some line => rfl

/-- What a CPU went on by is a difference of sums. -/
theorem elapsed_eq (hbefore : ∀ line ∈ before, line.Summable) (now : CpuLine) :
    elapsed before now =
      if now.Summable then
        .ok (Counter.exactSum now.counted - Counter.exactSum (before.getD .zero).counted)
      else .error .sumOverflow := by
  unfold elapsed
  rw [CpuLine.total_eq]
  by_cases hnow : now.Summable
  · rw [if_pos hnow, if_pos hnow, ok_bind]
    cases before with
    | none => rfl
    | some line =>
      show (line.total >>= fun earlier => _) = _
      rw [CpuLine.total_eq, if_pos (hbefore line rfl)]
      rfl
  · rw [if_neg hnow, if_neg hnow]
    rfl

/-- **Shares are told of a line iff the line itself can be summed up.** -/
theorem sharesSince_eq (hbefore : ∀ line ∈ before, line.Summable) (now : CpuLine) :
    sharesSince before now =
      if now.Summable then .ok (sharesBetween (before.getD .zero) now)
      else .error .sumOverflow := by
  unfold sharesSince
  rw [elapsed_eq hbefore]
  by_cases hnow : now.Summable
  · rw [if_pos hnow, if_pos hnow, ok_bind]
    simp only [ticksBefore_eq]
    rfl
  · rw [if_neg hnow, if_neg hnow]
    rfl

/-! ## Whether the shares make up the whole -/

/-- What a state went on by, nothing if it went back. -/
def advance (before : Option CpuLine) (now : CpuLine) (state : CpuState) : Nat :=
  now.ticksOf state - ticksBefore before state

/-- What a state went back by, nothing if it went on. -/
def setback (before : Option CpuLine) (now : CpuLine) (state : CpuState) : Nat :=
  ticksBefore before state - now.ticksOf state

/-- The share of a state in exact arithmetic, in percent, before it is held
between zero and a hundred. -/
def exactShare (elapsed now before : Nat) : ℚ :=
  if elapsed = 0 then 0 else ((now - before : Nat) : ℚ) / elapsed * 100

theorem sum_balance {ι : Type} (l : List ι) (f g : ι → Nat) :
    (l.map f).sum + (l.map fun i => g i - f i).sum
      = (l.map g).sum + (l.map fun i => f i - g i).sum := by
  induction l with
  | nil => rfl
  | cons i l ih =>
    simp only [List.map_cons, List.sum_cons]
    omega

theorem advance_le_sum {state : CpuState} (hstate : state ∈ CpuState.counted) :
    advance before now state ≤ (CpuState.counted.map (advance before now)).sum :=
  List.le_sum_of_mem (List.mem_map_of_mem hstate)

/-- The states went back by nothing together iff none of them went back. -/
theorem sum_setback_eq_zero_iff :
    (CpuState.counted.map (setback before now)).sum = 0
      ↔ ∀ state ∈ CpuState.counted, ticksBefore before state ≤ now.ticksOf state := by
  rw [List.sum_eq_zero_iff_forall_eq_nat, List.forall_mem_map]
  exact forall₂_congr fun state _ => Nat.sub_eq_zero_iff_le

/-- What the CPU went on by is what its states went on by, less what they
went back by. -/
theorem elapsed_eq_advance_sub_setback (hbefore : ∀ line ∈ before, line.Summable)
    (hnow : now.Summable) :
    elapsed before now =
      .ok ((CpuState.counted.map (advance before now)).sum
        - (CpuState.counted.map (setback before now)).sum) := by
  have hbalance := sum_balance CpuState.counted now.ticksOf (ticksBefore before)
  have hsum : Counter.exactSum (before.getD .zero).counted
      = (CpuState.counted.map (ticksBefore before)).sum := by
    rw [CpuLine.exactSum_counted]
    refine congrArg List.sum (List.map_congr_left fun state _ => ?_)
    exact (ticksBefore_eq before state).symm
  rw [elapsed_eq hbefore, if_pos hnow, CpuLine.exactSum_counted now, hsum]
  refine congrArg Except.ok ?_
  show _ = (CpuState.counted.map fun state => now.ticksOf state - ticksBefore before state).sum
    - (CpuState.counted.map fun state => ticksBefore before state - now.ticksOf state).sum
  omega

/-- Parts of a whole in percent add up to their sum in percent of it. -/
theorem sum_percent {ι : Type} (l : List ι) (f : ι → Nat) (whole : Nat) :
    (l.map fun i => (f i : ℚ) / whole * 100).sum = ((l.map f).sum : ℕ) / whole * 100 := by
  induction l with
  | nil => simp
  | cons i l ih =>
    rw [List.map_cons, List.sum_cons, ih, List.map_cons, List.sum_cons]
    push_cast
    ring

/-- **The exact shares make up the whole iff what the CPU went on by is what
its states went on by.** -/
theorem sum_exactShare_eq_hundred_iff {whole : Nat}
    (hadvance : 0 < (CpuState.counted.map (advance before now)).sum) :
    (CpuState.counted.map fun state =>
        exactShare whole (now.ticksOf state) (ticksBefore before state)).sum = 100
      ↔ whole = (CpuState.counted.map (advance before now)).sum := by
  by_cases hwhole : whole = 0
  · subst hwhole
    have hzero : (CpuState.counted.map fun state =>
        exactShare 0 (now.ticksOf state) (ticksBefore before state)).sum = 0 := by
      simp [exactShare]
    rw [hzero]
    constructor
    · intro h
      norm_num at h
    · intro h
      omega
  · have hpercent : (fun state => exactShare whole (now.ticksOf state) (ticksBefore before state))
        = fun state => (advance before now state : ℚ) / whole * 100 := by
      funext state
      rw [exactShare, if_neg hwhole]
      rfl
    have hne : (whole : ℚ) ≠ 0 := Nat.cast_ne_zero.mpr hwhole
    rw [hpercent, sum_percent]
    constructor
    · intro h
      have hcast : ((CpuState.counted.map (advance before now)).sum : ℚ) = whole := by
        field_simp at h
        linarith
      exact (Nat.cast_injective hcast).symm
    · intro h
      rw [← h]
      field_simp

/-- **Shares make up the whole iff no state went back.** -/
theorem elapsed_eq_sum_iff (hbefore : ∀ line ∈ before, line.Summable) (hnow : now.Summable)
    (hadvance : ∃ state ∈ CpuState.counted, ticksBefore before state < now.ticksOf state) :
    ∃ whole, elapsed before now = .ok whole
      ∧ sharesSince before now
          = .ok ⟨fun state => (now.ticks? state).map fun ticks =>
              share whole ticks (ticksBefore before state)⟩
      ∧ whole = (CpuState.counted.map (advance before now)).sum
          - (CpuState.counted.map (setback before now)).sum
      ∧ (whole = (CpuState.counted.map (advance before now)).sum
          ↔ ∀ state ∈ CpuState.counted, ticksBefore before state ≤ now.ticksOf state)
      ∧ ((CpuState.counted.map fun state =>
            exactShare whole (now.ticksOf state) (ticksBefore before state)).sum = 100
          ↔ ∀ state ∈ CpuState.counted, ticksBefore before state ≤ now.ticksOf state)
      ∧ ((∀ state ∈ CpuState.counted, ticksBefore before state ≤ now.ticksOf state) →
          ∀ state ∈ CpuState.counted,
            0 ≤ exactShare whole (now.ticksOf state) (ticksBefore before state)
            ∧ exactShare whole (now.ticksOf state) (ticksBefore before state) ≤ 100) := by
  have helapsed := elapsed_eq_advance_sub_setback hbefore hnow
  have hpos : 0 < (CpuState.counted.map (advance before now)).sum := by
    obtain ⟨state, hstate, hlt⟩ := hadvance
    have hle : advance before now state ≤ _ := advance_le_sum hstate
    have hstep : 0 < advance before now state := Nat.sub_pos_of_lt hlt
    omega
  have hwhole : (CpuState.counted.map (advance before now)).sum
        - (CpuState.counted.map (setback before now)).sum
        = (CpuState.counted.map (advance before now)).sum
      ↔ ∀ state ∈ CpuState.counted, ticksBefore before state ≤ now.ticksOf state := by
    -- an advance is made, so the truncated difference is all of it only if nothing is taken off
    rw [← sum_setback_eq_zero_iff]
    omega
  refine ⟨_, helapsed, ?_, rfl, hwhole, ?_, ?_⟩
  · unfold sharesSince
    rw [helapsed]
    rfl
  · rw [sum_exactShare_eq_hundred_iff hpos]
    exact hwhole
  · intro hforward state hstate
    rw [hwhole.mpr hforward, exactShare, if_neg hpos.ne']
    have hle : advance before now state ≤ _ := advance_le_sum hstate
    have hcast : (advance before now state : ℚ)
        ≤ (CpuState.counted.map (advance before now)).sum := Nat.cast_le.mpr hle
    have hsum : (0 : ℚ) < (CpuState.counted.map (advance before now)).sum :=
      Nat.cast_pos.mpr hpos
    have hpart := (div_le_one hsum).mpr hcast
    show 0 ≤ (advance before now state : ℚ) / _ * 100
      ∧ (advance before now state : ℚ) / _ * 100 ≤ 100
    exact ⟨by positivity, by linarith⟩

/-- A line that tells of more states than the one before it, all of which
went on: the shares make up the whole. -/
theorem elapsed_eq_sum_iff_longer_line :
    let before : CpuLine := ⟨some 0, [100, 0, 0, 100], by decide, by decide⟩
    let now : CpuLine := ⟨some 0, [160, 5, 0, 125, 7, 0, 0, 3, 9], by decide, by decide⟩
    before.Summable ∧ now.Summable
      ∧ (∃ state ∈ CpuState.counted, ticksBefore before state < now.ticksOf state)
      ∧ elapsed before now = .ok 100
      ∧ (CpuState.counted.map fun state =>
          exactShare 100 (now.ticksOf state) (ticksBefore before state)).sum = 100 := by
  intro before now
  have hbefore : ∀ line ∈ some before, line.Summable := by
    intro line hline
    obtain rfl := Option.some.inj hline
    decide
  have hnow : now.Summable := by decide
  have hadvance : ∃ state ∈ CpuState.counted, ticksBefore before state < now.ticksOf state :=
    ⟨.user, by decide, by decide⟩
  have hhundred : elapsed before now = .ok 100 := by
    rw [elapsed_eq hbefore, if_pos hnow]
    exact congrArg Except.ok (by decide)
  obtain ⟨whole, hwhole, -, -, -, hsum, -⟩ := elapsed_eq_sum_iff hbefore hnow hadvance
  obtain rfl : 100 = whole := Except.ok.inj (hhundred.symm.trans hwhole)
  exact ⟨hbefore before rfl, hnow, hadvance, hwhole, hsum.mpr (by decide)⟩

/-- **A state that went back is not counted as one that stood still.** Two
states went on by ten ticks each while waiting went back by fifteen: each of
the two is told to have had all of the time, and only because its share of
two hundred percent is cut. -/
theorem shares_exceed_whole :
    let before : CpuLine := ⟨some 0, [0, 0, 0, 0, 15], by decide, by decide⟩
    let now : CpuLine := ⟨some 0, [10, 0, 0, 10, 0], by decide, by decide⟩
    before.Summable ∧ now.Summable
      ∧ (∃ state ∈ CpuState.counted, ticksBefore before state < now.ticksOf state)
      ∧ elapsed before now = .ok 5
      ∧ (CpuState.counted.map (advance before now)).sum = 20
      ∧ (CpuState.counted.map fun state =>
          exactShare 5 (now.ticksOf state) (ticksBefore before state)).sum = 400
      ∧ exactShare 5 (now.ticksOf .user) (ticksBefore before .user) = 200
      ∧ ∃ shares, sharesSince before now = .ok shares
          ∧ shares.time? .user = some 100 ∧ shares.time? .idle = some 100
          ∧ shares.time? .iowait = some 0 := by
  intro before now
  refine ⟨by decide, by decide, ⟨.user, by decide, by decide⟩, rfl, rfl, ?_, ?_,
    sharesBetween before now, rfl, ?_, ?_, ?_⟩
  · decide +kernel
  · decide +kernel
  · decide +kernel
  · decide +kernel
  · decide +kernel

end KernelSource

end HostMetrics
