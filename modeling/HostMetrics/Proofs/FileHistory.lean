import HostMetrics.Proofs.CpuSample
import HostMetrics.Proofs.PathSpelling
import HostMetrics.Proofs.Sequence

/-!
# The history of a table of files

Files are written to a table and removed from it, each under any spelling of
its path. What the table then shows under a path is told by its history alone.
There is a text iff the last event of that path is a write, and then it is the
text that was written (`FileTable.text?_run_eq_some_iff`). A directory is told
by the writes, whatever was removed behind them: it is there iff a file was ever
written below it (`FileTable.isDirectory_run_iff`).

Spellings of one path are one path in all of this, and they stay so with the
name of a file behind them. Two sources of the kernel's statistics that look
into one table through two spellings of a directory therefore keep the same
sample over every run (`KernelSource.SeenAlike.run`) and give the same answers
(`KernelSource.SeenAlike.reading`). Only the failures can differ, which show the
path as it is spelled.
-/

namespace HostMetrics

open Proc

/-! ## Histories -/

/-- **What happens to a table of files.** -/
inductive FileEvent where
  /-- A file is written. -/
  | write (path text : String)
  /-- The file under a path is removed. -/
  | remove (path : String)

namespace FileEvent

/-- The path of an event. -/
def path : FileEvent → String
  | write path _ => path
  | remove path => path

/-- What an event leaves under its path. -/
def left? : FileEvent → Option String
  | write _ text => some text
  | remove _ => none

end FileEvent

/-- **A history keeps a text** under a path: the last event of the path is a
write of the text. -/
def Keeps (events : List FileEvent) (p text : String) : Prop :=
  ∃ q, IsLastOf (fun event : FileEvent => SpelledAlike event.path p) events (.write q text)

namespace FileTable

variable {events : List FileEvent} {t : FileTable} {event : FileEvent} {p text : String}

/-- The table behind an event. -/
def next (t : FileTable) : FileEvent → FileTable
  | .write path text => t.write path text
  | .remove path => t.remove path

/-- The table behind a history. -/
def run (t : FileTable) (events : List FileEvent) : FileTable := events.foldl next t

theorem run_concat (t : FileTable) (events : List FileEvent) (event : FileEvent) :
    t.run (events ++ [event]) = (t.run events).next event :=
  List.foldl_concat next t event events

/-! ## Files -/

/-- An event decides about its path, however that is spelled. -/
theorem text?_next_of_spelledAlike (h : SpelledAlike event.path p) :
    (t.next event).text? (.ofText p) = event.left? := by
  have hpath : Path.ofText p = .ofText event.path := (Path.ofText_of_spelledAlike h).symm
  cases event with
  | write path text => exact if_pos hpath
  | remove path => exact if_pos hpath

/-- It changes nothing under any other path. -/
theorem text?_next_of_not_spelledAlike (h : ¬ SpelledAlike event.path p) :
    (t.next event).text? (.ofText p) = t.text? (.ofText p) := by
  have hpath : Path.ofText p ≠ .ofText event.path := fun heq =>
    h (Path.ofText_eq_ofText_iff.mp heq.symm)
  cases event with
  | write path text => exact if_neg hpath
  | remove path => exact if_neg hpath

/-- **There is the text that the history keeps.** -/
theorem text?_run_eq_some_iff :
    (empty.run events).text? (.ofText p) = some text ↔ Keeps events p text := by
  have hlast : (empty.run events).text? (.ofText p) = some text
      ↔ ∃ event, IsLastOf (fun event : FileEvent => SpelledAlike event.path p) events event
        ∧ event.left? = some text := by
    refine seen_eq_some_iff (fun events => (empty.run events).text? (.ofText p)) rfl ?_ ?_
    · intro events event hevent
      rw [run_concat, text?_next_of_spelledAlike hevent]
    · intro events event hevent
      rw [run_concat, text?_next_of_not_spelledAlike hevent]
  rw [hlast]
  constructor
  · rintro ⟨event, hevent, hleft⟩
    cases event with
    | write q written =>
      obtain rfl : written = text := Option.some.inj hleft
      exact ⟨q, hevent⟩
    | remove q => cases hleft
  · rintro ⟨q, hlast⟩
    exact ⟨.write q text, hlast, rfl⟩

theorem text?_run_eq_none_iff :
    (empty.run events).text? (.ofText p) = none ↔ ¬ ∃ text, Keeps events p text := by
  simp only [← text?_run_eq_some_iff, Option.eq_none_iff_forall_ne_some, not_exists, ne_eq]

theorem read_eq_ok_iff : t.files.read p = .ok text ↔ t.text? (.ofText p) = some text := by
  unfold files
  cases ht : t.text? (.ofText p) <;> simp [ht]

theorem read_eq_error_iff {cause : FileError} :
    t.files.read p = .error cause ↔ t.text? (.ofText p) = none ∧ cause = .notListed p := by
  unfold files
  cases ht : t.text? (.ofText p) <;> simp [ht, eq_comm]

theorem present_iff :
    t.files.present p = true
      ↔ (∃ text, t.text? (.ofText p) = some text) ∨ t.isDirectory (.ofText p) = true := by
  show ((t.text? (.ofText p)).isSome || t.isDirectory (.ofText p)) = true ↔ _
  rw [Bool.or_eq_true, Option.isSome_iff_exists]

/-! ## Directories -/

/-- A write adds the directories around its path, and a removal none. -/
theorem isDirectory_next_iff :
    (t.next event).isDirectory (.ofText p) = true
      ↔ (∃ q text, event = .write q text ∧ LiesBelow q p) ∨ t.isDirectory (.ofText p) = true := by
  cases event with
  | write path text => simp [next, Path.isAround_iff]
  | remove path => simp [next]

/-- **A directory is there iff a file was ever written below it.** -/
theorem isDirectory_run_iff :
    (empty.run events).isDirectory (.ofText p) = true
      ↔ ∃ q text, .write q text ∈ events ∧ LiesBelow q p := by
  induction events using List.reverseRecOn with
  | nil => simp [run, empty]
  | append_singleton events event ih =>
    rw [run_concat, isDirectory_next_iff, ih]
    simp only [List.mem_append, List.mem_singleton, or_and_right, exists_or]
    rw [or_comm]
    simp only [eq_comm]

end FileTable

/-! ## One directory, two spellings -/

namespace KernelSource

/-- **Sources that look into one table alike**: through spellings of one
directory, with the same sample. -/
structure SeenAlike (s s' : KernelSource) : Prop where
  /-- The files of both are those of one table. -/
  table : ∃ t : FileTable, s.files = t.files ∧ s'.files = t.files
  /-- Their directories are spelled alike. -/
  root : SpelledAlike s.root s'.root
  /-- Their samples are the same. -/
  sample : s.sample = s'.sample

namespace SeenAlike

variable {s s' : KernelSource}

/-- A file has the same parts behind either spelling. -/
theorem ofText_path (h : SeenAlike s s') (name : String) :
    Path.ofText (s.path name) = .ofText (s'.path name) :=
  Path.ofText_append_congr (Path.ofText_of_spelledAlike h.root) name

theorem has (h : SeenAlike s s') (name : String) : s.has name = s'.has name := by
  obtain ⟨t, ht, ht'⟩ := h.table
  unfold KernelSource.has
  rw [ht, ht']
  show ((t.text? (.ofText _)).isSome || t.isDirectory (.ofText _)) = _
  rw [h.ofText_path name]
  rfl

theorem text (h : SeenAlike s s') (name : String) : SameResults (s.text name) (s'.text name) := by
  obtain ⟨t, ht, ht'⟩ := h.table
  intro content
  rw [text_eq_ok, text_eq_ok, ht, ht', FileTable.read_eq_ok_iff, FileTable.read_eq_ok_iff,
    h.ofText_path name]

/-! ### Answers -/

theorem cpuLines (h : SeenAlike s s') : SameResults s.cpuLines s'.cpuLines :=
  (h.text "stat").bind fun _ => .refl _

theorem cpuShares (h : SeenAlike s s') : SameResults s.cpuShares s'.cpuShares := by
  unfold KernelSource.cpuShares
  rw [h.sample]
  exact h.cpuLines.bind fun _ => .refl _

theorem memoryTable (h : SeenAlike s s') : SameResults s.memoryTable s'.memoryTable :=
  (h.text "meminfo").bind fun _ => .refl _

theorem pagingTable? (h : SeenAlike s s') : SameResults s.pagingTable? s'.pagingTable? := by
  unfold KernelSource.pagingTable?
  rw [h.has "vmstat"]
  split
  · exact (h.text "vmstat").bind fun _ => .refl _
  · exact .refl _

theorem swap (h : SeenAlike s s') : SameResults s.swap s'.swap :=
  h.memoryTable.bind fun _ => h.pagingTable?.bind fun _ => .refl _

theorem tableConnections (h : SeenAlike s s') (table : SocketTable) :
    SameResults (s.tableConnections table) (s'.tableConnections table) := by
  unfold KernelSource.tableConnections
  rw [h.has table.name]
  split
  · exact (h.text table.name).bind fun _ => .refl _
  · exact .refl _

/-- **Every answer is the same.** -/
theorem reading (h : SeenAlike s s') (q : Quantity) :
    SameResults (s.reading q) (s'.reading q) := by
  cases q with
  | cpuTimes => exact h.cpuLines.bind fun _ => .refl _
  | cpuShares => exact h.cpuShares
  | memory => exact h.memoryTable.bind fun _ => .refl _
  | swap => exact h.swap
  | disks => exact (h.text "diskstats").bind fun _ => .refl _
  | interfaces => exact (h.text "net/dev").bind fun _ => .refl _
  | connections =>
    exact (SameResults.mapM fun table _ => h.tableConnections table).bind fun _ => .refl _
  | processMemory => exact (h.text "self/statm").bind fun _ => .refl _
  | processTimes => exact (h.text "self/stat").bind fun _ => .refl _
  | collections => exact .refl _

/-! ### Runs -/

theorem afterShares (h : SeenAlike s s') : SeenAlike s.afterShares s'.afterShares := by
  by_cases hanswer : ∃ shares, s.cpuShares = .ok shares
  · obtain ⟨shares, hshares⟩ := hanswer
    obtain ⟨lines, hlines, -⟩ := bind_eq_ok.mp hshares
    rw [afterShares_of_answer hshares hlines,
      afterShares_of_answer ((h.cpuShares shares).mp hshares) ((h.cpuLines lines).mp hlines)]
    exact ⟨h.table, h.root, rfl⟩
  · have hanswer' : ¬ ∃ shares, s'.cpuShares = .ok shares := by
      rintro ⟨shares, hshares⟩
      exact hanswer ⟨shares, (h.cpuShares shares).mpr hshares⟩
    rw [afterShares_of_no_answer hanswer, afterShares_of_no_answer hanswer']
    exact h

/-- **An event keeps two sources alike**, if the files become those of a table
when they change. -/
theorem next (h : SeenAlike s s') {event : SourceEvent}
    (hevent : ∀ files, event = .change files → ∃ t : FileTable, files = t.files) :
    SeenAlike (s.next event) (s'.next event) := by
  have hquestion : SeenAlike (if event.asksShares then s.afterShares else s)
      (if event.asksShares then s'.afterShares else s') := by
    split
    · exact h.afterShares
    · exact h
  cases event with
  | change files =>
    obtain ⟨t, rfl⟩ := hevent files rfl
    exact ⟨⟨t, rfl, rfl⟩, h.root, h.sample⟩
  | ask q => exact hquestion
  | measure config base metric => exact hquestion

theorem run (h : SeenAlike s s') {events : List SourceEvent}
    (hevents : ∀ files, .change files ∈ events → ∃ t : FileTable, files = t.files) :
    SeenAlike (s.run events) (s'.run events) := by
  induction events generalizing s s' with
  | nil => exact h
  | cons event events ih =>
    refine ih (h.next fun files heq => ?_) fun files hmem => ?_
    · exact hevents files (heq ▸ List.mem_cons_self)
    · exact hevents files (List.mem_cons_of_mem event hmem)

end SeenAlike

end KernelSource

/-! ## What a history tells -/

/-- **A table of files shows what its history tells.** Paths are the same iff
they are spelled alike, and one is a directory around another iff that lies
below it. A file is read as the last event of its path left it, and is missing
if that was a removal or if there was none. A path is present if there is such a
file or if a file was ever written below it. Through another spelling of their
directory the statistics are the same, over every run. -/
theorem FileTable.run_shows_history (events : List FileEvent) (p : String) :
    let files := (FileTable.empty.run events).files
    (∀ q, (Path.ofText q = Path.ofText p ↔ SpelledAlike q p)
      ∧ ((Path.ofText p).isAround (Path.ofText q) = true ↔ LiesBelow q p))
    ∧ (∀ text, files.read p = .ok text ↔ Keeps events p text)
    ∧ (∀ cause, files.read p = .error cause
        ↔ (¬ ∃ text, Keeps events p text) ∧ cause = .notListed p)
    ∧ (files.present p = true
        ↔ (∃ text, Keeps events p text) ∨ ∃ q text, .write q text ∈ events ∧ LiesBelow q p)
    ∧ ∀ (table : FileTable) (root root' : String) (happened : List SourceEvent),
        SpelledAlike root root' →
        (∀ changed, .change changed ∈ happened → ∃ t : FileTable, changed = t.files) →
        ∀ q, SameResults
          (((⟨table.files, root, none⟩ : KernelSource).run happened).reading q)
          (((⟨table.files, root', none⟩ : KernelSource).run happened).reading q) := by
  intro files
  refine ⟨fun q => ⟨Path.ofText_eq_ofText_iff, Path.isAround_iff⟩, fun text => ?_,
    fun cause => ?_, ?_, ?_⟩
  · rw [FileTable.read_eq_ok_iff, FileTable.text?_run_eq_some_iff]
  · rw [FileTable.read_eq_error_iff, FileTable.text?_run_eq_none_iff]
  · rw [FileTable.present_iff, FileTable.isDirectory_run_iff]
    simp only [FileTable.text?_run_eq_some_iff]
  · intro table root root' happened hroot hchanges q
    have halike : KernelSource.SeenAlike ⟨table.files, root, none⟩ ⟨table.files, root', none⟩ :=
      ⟨⟨table, rfl, rfl⟩, hroot, rfl⟩
    exact (halike.run hchanges).reading q

namespace FileTable

/-- A file, another one below its path, and the first one removed. -/
def overlapping : List FileEvent :=
  [.write "/proc/net" "", .write "/proc//net/dev" "lo: 7 1 0 0 0 0 0 0 7 1 0 0 0 0 0 0\n",
    .remove "/proc/net/."]

/-- The removed file is still the directory of the other one, whose interface is
told through any spelling of the directory above. -/
theorem run_shows_history_overlapping :
    (¬ ∃ text, Keeps overlapping "/proc/net" text)
    ∧ (empty.run overlapping).files.present "/proc/net" = true
    ∧ SpelledAlike "/proc" "//proc/."
    ∧ ∃ found : InterfaceCounters, ∀ root ∈ ["/proc", "//proc/."],
        (⟨(empty.run overlapping).files, root, none⟩ : KernelSource).reading .interfaces
          = .ok [found] := by
  have hspelled : SpelledAlike "/proc" "//proc/." :=
    Path.ofText_eq_ofText_iff.mp (by decide +kernel)
  have hread :
      (empty.run overlapping).files.read "/proc/net" = .error (.notListed "/proc/net") := by
    decide +kernel
  obtain ⟨-, -, hmissing, -, hsame⟩ := run_shows_history overlapping "/proc/net"
  obtain ⟨found, hfound⟩ : ∃ found,
      (⟨(empty.run overlapping).files, "/proc", none⟩ : KernelSource).reading .interfaces
        = .ok [found] := ⟨_, rfl⟩
  refine ⟨((hmissing _).mp hread).1, by decide +kernel, hspelled, found, ?_⟩
  have hother := (hsame _ _ _ [] hspelled (by simp) .interfaces [found]).mp hfound
  simpa using ⟨hfound, hother⟩

end FileTable

end HostMetrics
