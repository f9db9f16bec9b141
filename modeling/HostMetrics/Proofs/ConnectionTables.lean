import HostMetrics.Files.Table
import HostMetrics.Proofs.ConnectionGroups
import HostMetrics.Proofs.SocketRows
import HostMetrics.Source.Kernel

/-!
# The connections are the rows of four tables

The kernel has a socket table for each of TCP and UDP in each version of the
Internet protocol, and any of them may be missing. The connections are what
the tables give, one table after the other and row by row
(`connections_table_by_table`). A table that is not there gives none. The
first one that is there and cannot be read, or has a row that is no socket,
is the outcome of the whole, whatever the tables before it gave.

Nothing of this looks at a state column of a UDP table for more than whether
it is a number: the state of its sockets is always the same word. And the
tables have the two kinds of sockets that are counted, so that from here on
nothing can go wrong: fields that connections have give a measurement for
each group, and no row is lost or counted twice on the way.
-/

namespace HostMetrics

open Proc Collect

namespace KernelSource

/-- **The connection that a socket of a table is**: of the family and the kind
of the table, in a state that has a name in the tables of TCP only, and with
neither a descriptor nor a process. -/
def SocketTable.tell (table : SocketTable) (socket : SocketLine) : Connection where
  descriptor := none
  family := table.family
  kind := table.kind
  localEnd := String.ofList socket.localEnd.text
  remoteEnd := remoteText socket.remoteEnd
  status :=
    if table.name = "net/tcp" ∨ table.name = "net/tcp6" then tcpStateName socket.state else "NONE"
  process := none

/-- **What a table gives.** -/
inductive TableGives (s : KernelSource) (table : SocketTable) : List Connection → Prop
  /-- Nothing if it is not there. -/
  | absent (h : s.has table.name = false) : TableGives s table []
  /-- The connections that its sockets are, in their order, if it is read. -/
  | present {content : String} {sockets : List SocketLine} (h : s.has table.name = true)
      (hread : s.files.read (s.path table.name) = .ok content)
      (hparse : SocketLine.parse content = .ok sockets) :
    TableGives s table (sockets.map table.tell)

/-- **Why a table that is there gives nothing.** -/
inductive TableFails (s : KernelSource) (table : SocketTable) : Failure ReadError → Prop
  /-- It cannot be read. -/
  | unreadable {cause : FileError} (h : s.has table.name = true)
      (hread : s.files.read (s.path table.name) = .error cause) :
    TableFails s table (.error (.file cause))
  /-- It is refused with a cause, or has no outcome at all. -/
  | refused {content : String} {failure : Failure FormatError} (h : s.has table.name = true)
      (hread : s.files.read (s.path table.name) = .ok content)
      (hparse : SocketLine.parse content = .error failure) :
    TableFails s table (failure.map .format)

/-- The rows of a table, if it is there and can be read. -/
def tableRows (s : KernelSource) (table : SocketTable) : List (List Char) :=
  if s.has table.name then (s.files.read (s.path table.name)).toOption.elim [] socketRows else []

/-- **The rows of all tables**, each with the table that it is of. -/
def rows (s : KernelSource) : List (SocketTable × List Char) :=
  socketTables.flatMap fun table => (s.tableRows table).map (table, ·)

/-- **The connection that a row of a table is.** -/
def IsRowOf (row : SocketTable × List Char) (c : Connection) : Prop :=
  ∃ socket, IsSocket row.2 socket ∧ c = row.1.tell socket

variable {s : KernelSource} {table : SocketTable} {part connections : List Connection}

/-! ## Table by table -/

theorem connectionOf_eq_tell (h : table ∈ socketTables) : connectionOf table = table.tell := by
  funext socket
  simp only [socketTables, List.mem_cons, List.not_mem_nil, or_false] at h
  rcases h with rfl | rfl | rfl | rfl <;> rfl

/-- **A table is decided by its file.** -/
theorem decides_tableConnections (s : KernelSource) (h : table ∈ socketTables) :
    Decides (s.TableGives table) (s.TableFails table) (s.tableConnections table) := by
  refine .of_exists (fun part hgives => ?_) (fun failure hfails => ?_) ?_
  · cases hgives with
    | absent habsent => exact if_neg (by simp [habsent])
    | present hthere hread hparse =>
      rw [tableConnections, if_pos hthere, text_eq_ok.mpr hread, ok_bind, hparse,
        connectionOf_eq_tell h]
      rfl
  · cases hfails with
    | unreadable hthere hread =>
      rw [tableConnections, if_pos hthere, text_eq_error.mpr ⟨_, hread, rfl⟩, error_bind]
    | refused hthere hread hparse =>
      rw [tableConnections, if_pos hthere, text_eq_ok.mpr hread, ok_bind, hparse]
      rfl
  · cases hthere : s.has table.name with
    | false => exact .inl ⟨[], .absent hthere⟩
    | true =>
      cases hread : s.files.read (s.path table.name) with
      | error cause => exact .inr ⟨_, .unreadable hthere hread⟩
      | ok content =>
        cases hparse : SocketLine.parse content with
        | ok sockets => exact .inl ⟨_, .present hthere hread hparse⟩
        | error failure => exact .inr ⟨_, .refused hthere hread hparse⟩

/-- The tables are decided one after the other. -/
theorem decides_connections (s : KernelSource) :
    Decides (fun connections => ∃ parts, List.Forall₂ s.TableGives socketTables parts
        ∧ connections = parts.flatten)
      (fun failure => ∃ before table after, socketTables = before ++ table :: after
        ∧ (∀ earlier ∈ before, ∃ part, s.TableGives earlier part) ∧ s.TableFails table failure)
      s.connections :=
  ((Decides.mapM fun _ h => decides_tableConnections s h).bind fun parts _ =>
    decides_pure parts.flatten).congr (fun _ => Iff.rfl) fun failure => by simp

/-! ## Row by row -/

/-- What a table gives, it gives row by row. -/
theorem TableGives.forall₂ (h : s.TableGives table part) :
    List.Forall₂ (fun row c => IsRowOf (table, row) c) (s.tableRows table) part := by
  unfold tableRows
  cases h with
  | absent habsent =>
    rw [if_neg (by simp [habsent])]
    exact .nil
  | present hthere hread hparse =>
    rw [if_pos hthere, hread, List.forall₂_map_right_iff]
    refine ((SocketLine.decides_table _).ok_iff _).mp hparse |>.imp fun row socket hsocket => ?_
    exact ⟨socket, hsocket, rfl⟩

theorem forall₂_rows (h : s.connections = .ok connections) :
    List.Forall₂ IsRowOf s.rows connections := by
  obtain ⟨parts, hparts, rfl⟩ := ((decides_connections s).ok_iff _).mp h
  refine List.rel_flatten (List.forall₂_map_left_iff.mpr (hparts.imp fun table part hgives => ?_))
  exact List.forall₂_map_left_iff.mpr hgives.forall₂

/-- The sockets of every table are of a kind that is counted. -/
theorem isCounted_of_mem (h : s.connections = .ok connections) :
    ∀ c ∈ connections, c.IsCounted := by
  obtain ⟨parts, hparts, hall⟩ := bind_eq_ok.mp h
  obtain rfl := Except.ok.inj hall
  intro c hc
  obtain ⟨part, hpart, hc⟩ := List.mem_flatten.mp hc
  obtain ⟨table, htable, hgives⟩ := exists_of_mem_mapM hparts hpart
  have hkinds : ∀ table ∈ socketTables,
      table.kind = Connection.streamKind ∨ table.kind = Connection.datagramKind := by
    decide
  cases ((decides_tableConnections s htable).ok_iff part).mp hgives with
  | absent => cases hc
  | present =>
    obtain ⟨socket, -, rfl⟩ := List.mem_map.mp hc
    exact hkinds table htable

/-- **The connections are what the socket tables give**, one table after the
other. The first table that is there and fails is the outcome, and the tables
before it are of no account then. Otherwise there is one connection for each
row, in the order of the rows. Measured by fields that connections have, these
are never refused, and the groups of them count as many as there are rows. -/
theorem connections_table_by_table (s : KernelSource) :
    socketTables = [⟨"net/tcp", 2, 1⟩, ⟨"net/tcp6", 10, 1⟩, ⟨"net/udp", 2, 2⟩, ⟨"net/udp6", 10, 2⟩]
    ∧ (∀ connections, s.connections = .ok connections ↔
        ∃ parts, List.Forall₂ s.TableGives socketTables parts ∧ connections = parts.flatten)
    ∧ (∀ failure, s.connections = .error failure ↔
        ∃ before table after, socketTables = before ++ table :: after
          ∧ (∀ earlier ∈ before, ∃ part, s.TableGives earlier part) ∧ s.TableFails table failure)
    ∧ ∀ connections, s.connections = .ok connections →
        List.Forall₂ IsRowOf s.rows connections
        ∧ ∀ (config : Configuration) (base : LabelSet) (fields : List String),
          config.fields? .networkConnections = some fields →
          (∀ field ∈ fields, field ∈ Connection.fieldNames) →
          ∃ groups : List (LabelSet × Nat),
            (∀ digest, Collect.groups digest base fields connections = .ok groups
              ∧ connectionsBy digest s.reading config base = .ok (counts groups))
            ∧ measure s.reading config base .networkConnections = .ok (counts groups)
            ∧ (groups.map Prod.snd).sum = s.rows.length := by
  have hdecides := decides_connections s
  refine ⟨rfl, hdecides.ok_iff, hdecides.error_iff, fun connections h => ⟨forall₂_rows h, ?_⟩⟩
  intro config base fields hfields hknown
  have hlabels : ∀ c ∈ connections, groupOf base fields c = .ok (groupLabels base fields c) :=
    fun c hc => groupOf_eq_ok hknown (isCounted_of_mem h c hc)
  have hread : s.reading .connections = .ok connections := h
  refine ⟨plainGroups (groupLabels base fields) connections, fun digest => ?_, ?_, ?_⟩
  · exact ⟨groups_eq_plainGroups hlabels, connectionsBy_eq_counts hfields hread hlabels⟩
  · exact connectionsBy_eq_counts hfields hread hlabels
  · rw [plainGroups_eq_occurrences, Tally.sum_occurrences, List.length_map,
      (forall₂_rows h).length_eq]

/-- A source that shows these files, and no others. -/
def showingSockets (files : List (String × String)) : KernelSource :=
  ⟨(FileTable.empty.writeAll files).files, "/proc", none⟩

/-- A table with two sockets and a line between them that is none. -/
def twoSockets : String :=
  "sl\n0: 0100007F:0050 00000000:0000 0A 1 1 1 1 1 1\n: : : 0A\n"
    ++ "1: 0100007F:0050 0100007F:1F90 01 1 1 1 1 1 1\n"

/-- What they are as sockets of TCP. -/
def twoStreams : List Connection := [
  ⟨none, 2, 1, "127.0.0.1:80", "", "LISTEN", none⟩,
  ⟨none, 2, 1, "127.0.0.1:80", "127.0.0.1:8080", "ESTABLISHED", none⟩]

/-- What they are as sockets of UDP. -/
def twoDatagrams : List Connection := [
  ⟨none, 2, 2, "127.0.0.1:80", "", "NONE", none⟩,
  ⟨none, 2, 2, "127.0.0.1:80", "127.0.0.1:8080", "NONE", none⟩]

/-- A source with that table for TCP and for UDP, and no others. -/
def shownTwice : KernelSource :=
  showingSockets [("/proc/net/tcp", twoSockets), ("/proc/net/udp", twoSockets)]

/-- A source with that table, and with a directory in the place of the next
one. -/
def blocked : KernelSource :=
  showingSockets [("/proc/net/tcp", twoSockets), ("/proc/net/tcp6/x", "")]

/-- Missing tables are passed over, and the groups count the sockets of the
others. What is in the way of a table is the outcome, although the table
before it can be read. -/
theorem connections_table_by_table_missing :
    (shownTwice.connections = .ok (twoStreams ++ twoDatagrams)
      ∧ ∃ groups : List (LabelSet × Nat),
        measure shownTwice.reading (.set .empty .networkConnections ["laddr", "pid"]) .empty
            .networkConnections = .ok (counts groups)
        ∧ (groups.map Prod.snd).sum = 4)
    ∧ blocked.connections = .error (.error (.file (.notListed "/proc/net/tcp6"))) := by
  obtain ⟨-, -, -, hcounted⟩ := connections_table_by_table shownTwice
  obtain ⟨-, -, herror, -⟩ := connections_table_by_table blocked
  constructor
  · have hconnections : shownTwice.connections = .ok (twoStreams ++ twoDatagrams) := by
      decide +kernel
    have hrows : shownTwice.rows.length = 4 := by decide +kernel
    obtain ⟨-, hgroups⟩ := hcounted _ hconnections
    obtain ⟨groups, -, hmeasure, hsum⟩ :=
      hgroups (.set .empty .networkConnections ["laddr", "pid"]) .empty _ rfl (by decide)
    exact ⟨hconnections, groups, hmeasure, hsum.trans hrows⟩
  · have hfirst : blocked.tableConnections ⟨"net/tcp", 2, 1⟩ = .ok twoStreams := by
      decide +kernel
    refine (herror _).mpr ⟨[⟨"net/tcp", 2, 1⟩], ⟨"net/tcp6", 10, 1⟩,
      [⟨"net/udp", 2, 2⟩, ⟨"net/udp6", 10, 2⟩], rfl, ?_, .unreadable ?_ ?_⟩
    · refine List.forall_mem_singleton.mpr ⟨twoStreams, ?_⟩
      exact ((decides_tableConnections _ (by decide)).ok_iff _).mp hfirst
    · decide +kernel
    · decide +kernel

end KernelSource

end HostMetrics
