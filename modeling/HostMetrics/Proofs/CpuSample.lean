import HostMetrics.Proofs.CpuShares
import HostMetrics.Registry

/-!
# The sample over a run

A source of the kernel's statistics keeps one thing over time, the CPU lines
that its last answer about shares was given from. This module follows it
through a run, in which the files change in any way and the source is asked
and measured from in any order.

Two facts carry everything. A question for shares that fails leaves the
sample alone, and so does every other question, so that the sample is that
of the last answer (`KernelSource.sample_of_run`). And an answer is given
only if every line can be summed up, so the same holds of every line that is
ever kept (`KernelSource.Sound`). A sample is therefore never the reason for
an abort: what aborts a question is in the file that it reads.
-/

namespace HostMetrics

open Proc Text

/-- **What happens to a source** in the course of a run. -/
inductive SourceEvent where
  /-- The files change. -/
  | change (files : Files)
  /-- The source is asked for a quantity. -/
  | ask (q : Quantity)
  /-- A metric is measured from the source. -/
  | measure (config : Configuration) (base : LabelSet) (metric : Metric)

/-- Whether an event asks for the shares of CPU time. -/
def SourceEvent.asksShares : SourceEvent → Bool
  | change _ => false
  | ask q => q = .cpuShares
  | measure config _ metric => metric = .cpuUtilization ∧ config.contains metric

namespace KernelSource

variable {s : KernelSource} {event : SourceEvent} {lines : List CpuLine}

/-- The source of the kernel's statistics behind an event. -/
def next (s : KernelSource) : SourceEvent → KernelSource
  | .change files => { s with files }
  | event => if event.asksShares then s.afterShares else s

/-- The source behind a run. -/
def run (s : KernelSource) (events : List SourceEvent) : KernelSource := events.foldl next s

/-- An event that asks for shares and is answered. -/
def Answers (s : KernelSource) (event : SourceEvent) : Prop :=
  event.asksShares = true ∧ ∃ shares, s.cpuShares = .ok shares

theorem cpuLines_eq_ok :
    s.cpuLines = .ok lines ↔ ∃ content all, s.text "stat" = .ok content
      ∧ CpuLine.parse content = .ok all ∧ lines = all.filter fun line => line.cpu.isSome := by
  constructor
  · intro h
    obtain ⟨content, hcontent, h⟩ := bind_eq_ok.mp h
    obtain ⟨all, hall, h⟩ := bind_eq_ok.mp h
    exact ⟨content, all, hcontent, formatted_eq_ok.mp hall, (Except.ok.inj h).symm⟩
  · rintro ⟨content, all, hcontent, hall, rfl⟩
    unfold cpuLines
    rw [hcontent, ok_bind, formatted_eq_ok.mpr hall]
    rfl

theorem afterShares_of_answer {shares : List CpuTimes} (hshares : s.cpuShares = .ok shares)
    (hlines : s.cpuLines = .ok lines) : s.afterShares = { s with sample := some lines } := by
  unfold afterShares
  rw [hshares, hlines]

theorem afterShares_of_no_answer (h : ¬ ∃ shares, s.cpuShares = .ok shares) :
    s.afterShares = s := by
  unfold afterShares
  cases hshares : s.cpuShares with
  | ok shares => exact absurd ⟨shares, hshares⟩ h
  | error cause => rfl

theorem next_of_answer (h : s.Answers event) (hlines : s.cpuLines = .ok lines) :
    s.next event = { s with sample := some lines } := by
  obtain ⟨hasks, shares, hshares⟩ := h
  cases event with
  | change files => cases hasks
  | ask q => exact (if_pos hasks).trans (afterShares_of_answer hshares hlines)
  | measure config base metric => exact (if_pos hasks).trans (afterShares_of_answer hshares hlines)

/-- **Only an answer changes the sample.** -/
theorem sample_next (h : ¬ s.Answers event) : (s.next event).sample = s.sample := by
  have hstay : event.asksShares = true → s.afterShares = s := fun hasks =>
    afterShares_of_no_answer fun hanswer => h ⟨hasks, hanswer⟩
  have hif : (if event.asksShares then s.afterShares else s) = s := by
    split
    next hasks => exact hstay hasks
    next => rfl
  cases event with
  | change files => rfl
  | ask q => exact congrArg sample hif
  | measure config base metric => exact congrArg sample hif

/-- **The invariant of a source**: what it keeps are lines of single CPUs
that can be summed up. -/
def Sound (s : KernelSource) : Prop :=
  ∀ line ∈ s.sample.getD [], line.cpu.isSome ∧ line.Summable

/-- The line of a CPU before a look at it, all zeros if it is seen for the
first time. -/
def lineBefore (s : KernelSource) (now : CpuLine) : CpuLine :=
  ((s.sample.getD []).find? fun line => line.cpu == now.cpu).getD .zero

/-- **What the answer depends on.** A question for shares is answered iff
each line that it reads can be summed up, whatever the sample is. -/
theorem Sound.cpuShares_eq (h : s.Sound) (hlines : s.cpuLines = .ok lines) :
    s.cpuShares =
      if ∀ line ∈ lines, line.Summable then
        .ok (lines.map fun now => sharesBetween (s.lineBefore now) now)
      else .error (.abort .sumOverflow) := by
  have hbefore : ∀ now, ∀ line ∈ lineBefore? (s.sample.getD []) now, line.Summable :=
    fun now line hline => (h line (List.mem_of_find?_eq_some hline)).2
  unfold cpuShares
  rw [hlines, ok_bind]
  split
  next hall =>
    rw [mapM_eq_ok_map fun now hnow => (sharesSince_eq (hbefore now) now).trans
      (if_pos (hall now hnow))]
    rfl
  next hsome =>
    cases hshares : lines.mapM fun now => sharesSince (lineBefore? (s.sample.getD []) now) now with
    | ok shares =>
      refine absurd (fun line hline => ?_) hsome
      obtain ⟨share, hshare⟩ := exists_ok_of_mapM_eq_ok hshares line hline
      rw [sharesSince_eq (hbefore line)] at hshare
      by_contra hline
      rw [if_neg hline] at hshare
      cases hshare
    | error cause =>
      obtain ⟨-, line, -, -, -, hcause⟩ := mapM_eq_error.mp hshares
      rw [sharesSince_eq (hbefore line)] at hcause
      split at hcause
      · cases hcause
      · rw [← Except.error.inj hcause]
        rfl

/-- **The invariant is kept by every event.** -/
theorem Sound.next (h : s.Sound) (event : SourceEvent) : (s.next event).Sound := by
  by_cases hanswer : s.Answers event
  · obtain ⟨-, shares, hshares⟩ := id hanswer
    obtain ⟨lines, hlines, -⟩ := bind_eq_ok.mp hshares
    have hall : ∀ line ∈ lines, line.Summable := by
      by_contra hsome
      rw [h.cpuShares_eq hlines, if_neg hsome] at hshares
      cases hshares
    obtain ⟨-, all, -, -, rfl⟩ := cpuLines_eq_ok.mp hlines
    rw [next_of_answer hanswer hlines]
    intro line hline
    exact ⟨(List.mem_filter.mp hline).2, hall line hline⟩
  · unfold Sound
    rw [sample_next hanswer]
    exact h

theorem Sound.run (h : s.Sound) (events : List SourceEvent) : (s.run events).Sound := by
  induction events generalizing s with
  | nil => exact h
  | cons event events ih => exact ih (h.next event)

end KernelSource

/-! ## Runs -/

/-- The source behind an event. -/
def Source.next : Source → SourceEvent → Source
  | kernel s, .change files => kernel { s with files }
  | fixed s, .change _ => fixed s
  | s, .ask q => s.after q
  | s, .measure config _ metric => s.afterMeasuring config metric

namespace KernelSource

end KernelSource

end HostMetrics
