import HostMetrics.Proofs.Cuts
import HostMetrics.Proofs.Numerals
import HostMetrics.Proofs.SocketTable

/-!
# Which socket tables are read

A socket table is decided row by row. Its first line and the lines of fewer
than ten columns are no rows. A row is a socket if its state, its local and
its remote endpoint are in order (`IsSocket`), and a table of such rows is
read as the sockets that they are. In any other table the first row that is
none decides, and in that row the first column that is not in order, looked
at as state, local endpoint and remote endpoint (`RowFails`).

What a column has to be is said here without the reader: numerals with the
values that they stand for, and an address as words of eight bytes each
(`AreWords`). Lengths count bytes, and that is where an abort comes from. An
address of 32 bytes that is not all ASCII may have a character across one of
the places 8, 16 and 24; once the words before that place are in order, there
is nothing to read behind them (`IsTorn`). Everything else that can be wrong
is an error with a cause, and a text of ASCII characters has no character to
be torn.
-/

namespace HostMetrics.Proc

open Text

/-! ## Addresses -/

/-- **A word of an address**: eight bytes of text, the numeral of its number. -/
def IsWord (s : List Char) (w : AddressWord) : Prop :=
  byteLength s = 8 ∧ IsNumeral 16 s w.number

/-- **Words of an address**, one after the other. -/
def AreWords : List Char → List AddressWord → Prop
  | s, [] => s = []
  | s, w :: ws => ∃ chunk rest, s = chunk ++ rest ∧ IsWord chunk w ∧ AreWords rest ws

/-- **A broken address**: behind words there are eight bytes that are no
numeral. -/
def IsBroken (s : List Char) : Prop :=
  ∃ words chunk rest ws, s = words ++ (chunk ++ rest) ∧ AreWords words ws
    ∧ byteLength chunk = 8 ∧ ¬ ∃ n, IsNumeral 16 chunk n

/-- **A torn address**: behind words the next eight bytes end inside a
character. -/
def IsTorn (s : List Char) : Prop :=
  ∃ words rest ws, s = words ++ rest ∧ AreWords words ws ∧ SplitsAt 8 rest

/-- **What is wrong with an address that is none**, as part of a column. -/
inductive AddressFails (field s : List Char) : Failure FormatError → Prop
  /-- It has the length of neither version. -/
  | badLength (h : byteLength s ≠ 8 ∧ byteLength s ≠ 32) :
    AddressFails field s (.error (.badSocketLength (String.ofList field)))
  /-- One of its words is no numeral. -/
  | badWord (hlength : byteLength s = 8 ∨ byteLength s = 32) (h : IsBroken s) :
    AddressFails field s (.error (.badSocketWord (String.ofList field)))
  /-- It cannot be cut into words. -/
  | torn (hlength : byteLength s = 32) (h : IsTorn s) :
    AddressFails field s (.abort .splitCharacter)

/-! ## Endpoints -/

/-- **A column of an address and a port**, with the first colon between them. -/
def HasPort (field address port : List Char) : Prop :=
  field = address ++ ':' :: port ∧ ':' ∉ address

/-- **An endpoint in a column**: an address of one or four words, and a port. -/
def IsEndpoint (field : List Char) (e : Endpoint) : Prop :=
  ∃ address port, HasPort field address port ∧ AreWords address e.address.words
    ∧ IsNumeral 16 port e.port.toNat

/-- **What is wrong with a column that is no endpoint**, the port looked at
before the address. -/
inductive EndpointFails (field : List Char) : Failure FormatError → Prop
  /-- It has no colon. -/
  | noPort (h : ':' ∉ field) : EndpointFails field (.error (.noSocketPort (String.ofList field)))
  /-- What stands behind the colon is no number of a port. -/
  | badPort {address port : List Char} (hfield : HasPort field address port)
      (hport : ¬ ∃ n < limit16, IsNumeral 16 port n) :
    EndpointFails field (.error (.badSocketPort (String.ofList field)))
  /-- What stands before it is no address. -/
  | badAddress {address port : List Char} {failure : Failure FormatError}
      (hfield : HasPort field address port) (hport : ∃ n < limit16, IsNumeral 16 port n)
      (h : AddressFails field address failure) :
    EndpointFails field failure

/-! ## Rows -/

/-- **The columns of a row** that describe a socket: the second, the third
and the fourth one of at least ten. -/
def HasFields (line localField remoteField state : List Char) : Prop :=
  ∃ slot further, columns line = slot :: localField :: remoteField :: state :: further
    ∧ 6 ≤ further.length

/-- **A row that is a socket.** -/
def IsSocket (line : List Char) (socket : SocketLine) : Prop :=
  ∃ localField remoteField state, HasFields line localField remoteField state
    ∧ IsNumeral 16 state socket.state.toNat
    ∧ IsEndpoint localField socket.localEnd ∧ IsEndpoint remoteField socket.remoteEnd

/-- **What is wrong with a row that is no socket**: the first of state, local
endpoint and remote endpoint that is not in order. -/
inductive RowFails (line : List Char) : Failure FormatError → Prop
  /-- The state is no number of a byte. -/
  | badState {localField remoteField state : List Char}
      (hline : HasFields line localField remoteField state)
      (hstate : ¬ ∃ n < 256, IsNumeral 16 state n) :
    RowFails line (.error (.badSocketState (String.ofList state)))
  /-- The state is in order and the local endpoint is not. -/
  | badLocal {localField remoteField state : List Char} {failure : Failure FormatError}
      (hline : HasFields line localField remoteField state)
      (hstate : ∃ n < 256, IsNumeral 16 state n) (h : EndpointFails localField failure) :
    RowFails line failure
  /-- All but the remote endpoint is in order. -/
  | badRemote {localField remoteField state : List Char} {failure : Failure FormatError}
      (hline : HasFields line localField remoteField state)
      (hstate : ∃ n < 256, IsNumeral 16 state n) (hlocal : ∃ e, IsEndpoint localField e)
      (h : EndpointFails remoteField failure) :
    RowFails line failure

/-- **A torn column**: an address that cannot be cut into words, and a port. -/
def IsTornEndpoint (field : List Char) : Prop :=
  ∃ address port, HasPort field address port ∧ (∃ n < limit16, IsNumeral 16 port n)
    ∧ byteLength address = 32 ∧ IsTorn address

/-- **A torn row**: one of its endpoints is torn, and what is looked at before
that endpoint is in order. -/
def IsTornRow (line : List Char) : Prop :=
  ∃ localField remoteField state, HasFields line localField remoteField state
    ∧ (∃ n < 256, IsNumeral 16 state n)
    ∧ (IsTornEndpoint localField
      ∨ (∃ e, IsEndpoint localField e) ∧ IsTornEndpoint remoteField)

/-- **The rows of a table**: the lines behind the first one that have at least
ten columns. -/
def socketRows (text : String) : List (List Char) :=
  ((lines text.toList).drop 1).filter fun line => 10 ≤ (columns line).length

namespace SocketLine

variable {s rest field : List Char} {w : AddressWord} {ws : List AddressWord}
  {count n : Nat} {failure : Failure FormatError}

/-! ## An address is read word by word -/

theorem number_wordOfNumber (h : n < limit32) : (wordOfNumber n).number = n := by
  unfold limit32 at h
  simp only [AddressWord.number, wordOfNumber, UInt8.toNat_ofNat']
  omega

/-- Eight bytes have no numeral of more than 32 bits. -/
theorem lt_of_isNumeral (hs : byteLength s = 8) (h : IsNumeral 16 s n) : n < limit32 :=
  calc n < 16 ^ s.length := h.lt (by decide)
    _ ≤ 16 ^ 8 := Nat.pow_le_pow_right (by decide) (hs ▸ length_le_byteLength s)

theorem isWord_wordOfNumber (hs : byteLength s = 8) (h : IsNumeral 16 s n) :
    IsWord s (wordOfNumber n) :=
  ⟨hs, (number_wordOfNumber (lt_of_isNumeral hs h)).symm ▸ h⟩

theorem unsigned?_of_isWord (h : IsWord s w) : unsigned? 16 limit32 s = some w.number :=
  (unsigned?_eq_some_iff (by decide)).mpr ⟨h.2, w.number_lt⟩

theorem unsigned?_of_not_isNumeral (h : ¬ ∃ n, IsNumeral 16 s n) :
    unsigned? 16 limit32 s = none :=
  (unsigned?_eq_none_iff (by decide)).mpr fun ⟨n, _, hn⟩ => h ⟨n, hn⟩

theorem byteLength_of_areWords (h : AreWords s ws) : byteLength s = 8 * ws.length := by
  induction ws generalizing s with
  | nil =>
    obtain rfl : s = [] := h
    rfl
  | cons w ws ih =>
    obtain ⟨chunk, rest, rfl, hword, hrest⟩ := h
    rw [byteLength_append, hword.1, ih hrest, List.length_cons]
    omega

/-- **Words in front of an address are read**, whatever stands behind them. -/
theorem addressWords_append (h : AreWords s ws) (count : Nat) (rest : List Char) :
    addressWords field (count + ws.length) (s ++ rest)
      = (addressWords field count rest).map (ws ++ ·) := by
  induction ws generalizing s with
  | nil =>
    obtain rfl : s = [] := h
    show addressWords field count rest = _
    cases addressWords field count rest with
    | ok words => rfl
    | error failure => rfl
  | cons w ws ih =>
    obtain ⟨chunk, tail, rfl, hword, htail⟩ := h
    have hcut := cutBytes_eq_some_iff.mpr ⟨List.append_assoc chunk tail rest, hword.1⟩
    rw [List.length_cons, ← Nat.add_assoc, addressWords, hcut]
    simp only [unsigned?_of_isWord hword, wordOfNumber_number, ih htail]
    cases addressWords field count rest with
    | ok words => rfl
    | error failure => rfl

theorem addressWords_of_areWords (h : AreWords s ws) :
    addressWords field ws.length s = .ok ws := by
  have hwords : addressWords field (0 + ws.length) (s ++ []) = .ok (ws ++ []) :=
    addressWords_append h 0 []
  rwa [List.append_nil, List.append_nil, Nat.zero_add] at hwords

theorem addressWords_of_isTorn (hs : byteLength s = 8 * count) (h : IsTorn s) :
    addressWords field count s = .error (.abort .splitCharacter) := by
  obtain ⟨words, rest, ws, rfl, hwords, htorn⟩ := h
  rw [byteLength_append, byteLength_of_areWords hwords] at hs
  have hlt := htorn.lt
  obtain ⟨k, rfl⟩ : ∃ k, count = k + 1 + ws.length := ⟨count - 1 - ws.length, by omega⟩
  rw [addressWords_append hwords, addressWords, (cutBytes_eq_none_iff hlt.le).mpr htorn]
  rfl

theorem addressWords_of_isBroken (hs : byteLength s = 8 * count) (h : IsBroken s) :
    addressWords field count s = .error (.error (.badSocketWord (String.ofList field))) := by
  obtain ⟨words, chunk, rest, ws, rfl, hwords, hchunk, hbad⟩ := h
  rw [byteLength_append, byteLength_append, byteLength_of_areWords hwords] at hs
  obtain ⟨k, rfl⟩ : ∃ k, count = k + 1 + ws.length := ⟨count - 1 - ws.length, by omega⟩
  rw [addressWords_append hwords, addressWords, cutBytes_eq_some_iff.mpr ⟨rfl, hchunk⟩]
  simp only [unsigned?_of_not_isNumeral hbad]
  rfl

/-- **One of three holds of an address of whole words**: it is words, it is
torn, or it is broken. -/
theorem words_torn_or_broken (hs : byteLength s = 8 * count) :
    (∃ ws, ws.length = count ∧ AreWords s ws) ∨ IsTorn s ∨ IsBroken s := by
  induction count generalizing s with
  | zero => exact .inl ⟨[], rfl, eq_nil_of_byteLength hs⟩
  | succ count ih =>
    cases hcut : cutBytes 8 s with
    | none =>
      have htorn : SplitsAt 8 s := (cutBytes_eq_none_iff (by omega)).mp hcut
      exact .inr (.inl ⟨[], s, [], rfl, rfl, htorn⟩)
    | some parts =>
      obtain ⟨chunk, rest⟩ := parts
      obtain ⟨rfl, hchunk⟩ := cutBytes_eq_some_iff.mp hcut
      by_cases hnumeral : ∃ n, IsNumeral 16 chunk n
      · obtain ⟨n, hn⟩ := hnumeral
        have hword := isWord_wordOfNumber hchunk hn
        rw [byteLength_append] at hs
        -- whatever holds of the rest holds behind the word too
        rcases ih (s := rest) (by omega) with ⟨ws, hcount, hws⟩ | htorn | hbroken
        · exact .inl ⟨_ :: ws, congrArg (· + 1) hcount, chunk, rest, rfl, hword, hws⟩
        · obtain ⟨words, tail, ws, rfl, hwords, htorn⟩ := htorn
          exact .inr (.inl ⟨chunk ++ words, tail, _ :: ws, (List.append_assoc ..).symm,
            ⟨chunk, words, rfl, hword, hwords⟩, htorn⟩)
        · obtain ⟨words, piece, tail, ws, rfl, hwords, hpiece⟩ := hbroken
          exact .inr (.inr ⟨chunk ++ words, piece, tail, _ :: ws, (List.append_assoc ..).symm,
            ⟨chunk, words, rfl, hword, hwords⟩, hpiece⟩)
      · exact .inr (.inr ⟨[], chunk, rest, [], rfl, rfl, hchunk, hnumeral⟩)

/-! ## Columns, rows and tables are decided -/

/-- A broken address of eight bytes is no numeral. -/
theorem not_isNumeral_of_isBroken (hs : byteLength s = 8) (h : IsBroken s) :
    ¬ ∃ n, IsNumeral 16 s n := by
  obtain ⟨words, chunk, rest, ws, rfl, hwords, hchunk, hbad⟩ := h
  rw [byteLength_append, byteLength_append, hchunk] at hs
  obtain rfl : words = [] := eq_nil_of_byteLength (by omega)
  obtain rfl : rest = [] := eq_nil_of_byteLength (by omega)
  rwa [List.nil_append, List.append_nil]

theorem address_of_areWords {ip : IpAddress} (h : AreWords s ip.words) :
    address field s = .ok ip := by
  unfold address
  cases ip with
  | v4 w =>
    have hlength : byteLength s = 8 := byteLength_of_areWords h
    obtain ⟨chunk, rest, rfl, hword, rfl⟩ := h
    rw [if_pos hlength, List.append_nil, unsigned?_of_isWord hword]
    exact congrArg (fun w => Except.ok (IpAddress.v4 w)) (wordOfNumber_number w)
  | v6 w₀ w₁ w₂ w₃ =>
    have hlength : byteLength s = 32 := byteLength_of_areWords h
    have hwords : addressWords field 4 s = .ok [w₀, w₁, w₂, w₃] := addressWords_of_areWords h
    rw [hlength, if_neg (by decide), if_pos rfl, hwords]

theorem address_of_addressFails (h : AddressFails field s failure) :
    address field s = .error failure := by
  unfold address
  cases h with
  | badLength h => rw [if_neg h.1, if_neg h.2]
  | badWord hlength h =>
    rcases hlength with hlength | hlength
    · rw [if_pos hlength, unsigned?_of_not_isNumeral (not_isNumeral_of_isBroken hlength h)]
    · rw [hlength, if_neg (by decide), if_pos rfl, addressWords_of_isBroken hlength h]
  | torn hlength h =>
    rw [hlength, if_neg (by decide), if_pos rfl, addressWords_of_isTorn hlength h]

theorem decides_address (field s : List Char) :
    Decides (fun ip : IpAddress => AreWords s ip.words) (AddressFails field s)
      (address field s) := by
  refine .of_exists (fun ip => address_of_areWords) (fun failure => address_of_addressFails) ?_
  by_cases h8 : byteLength s = 8
  · by_cases hnumeral : ∃ n, IsNumeral 16 s n
    · obtain ⟨n, hn⟩ := hnumeral
      exact .inl ⟨.v4 (wordOfNumber n), s, [], (List.append_nil s).symm,
        isWord_wordOfNumber h8 hn, rfl⟩
    · exact .inr ⟨_, .badWord (.inl h8) ⟨[], s, [], [], (List.append_nil s).symm, rfl, h8,
        hnumeral⟩⟩
  by_cases h32 : byteLength s = 32
  · have h4 : byteLength s = 8 * 4 := h32
    rcases words_torn_or_broken h4 with ⟨ws, hcount, hws⟩ | htorn | hbroken
    · obtain ⟨w₀, w₁, w₂, w₃, rfl⟩ : ∃ a b c d, ws = [a, b, c, d] := by
        match ws, hcount with
        | [a, b, c, d], _ => exact ⟨a, b, c, d, rfl⟩
      exact .inl ⟨.v6 w₀ w₁ w₂ w₃, hws⟩
    · exact .inr ⟨_, .torn h32 htorn⟩
    · exact .inr ⟨_, .badWord (.inr h32) hbroken⟩
  · exact .inr ⟨_, .badLength ⟨h8, h32⟩⟩

theorem decides_endpoint (field : List Char) :
    Decides (IsEndpoint field) (EndpointFails field) (endpoint field) := by
  refine .of_exists (fun e h => ?_) (fun failure h => ?_) ?_
  · obtain ⟨before, after, hfield, haddress, hport⟩ := h
    have hread := ((decides_address field before).ok_iff e.address).mpr haddress
    have hnumber : unsigned? 16 limit16 after = some e.port.toNat :=
      (unsigned?_eq_some_iff (by decide)).mpr ⟨hport, e.port.toNat_lt⟩
    simp only [endpoint, cutAt_eq_some_iff.mpr hfield, hnumber, hread, UInt16.ofNat_toNat]
    rfl
  · cases h with
    | noPort h => simp only [endpoint, cutAt_eq_none_iff.mpr h]
    | badPort hfield hport =>
      simp only [endpoint, cutAt_eq_some_iff.mpr hfield,
        (unsigned?_eq_none_iff (by decide)).mpr hport]
    | badAddress hfield hport h =>
      obtain ⟨n, hn, hport⟩ := hport
      have hnumber := (unsigned?_eq_some_iff (by decide)).mpr ⟨hport, hn⟩
      simp only [endpoint, cutAt_eq_some_iff.mpr hfield, hnumber,
        ((decides_address field _).error_iff failure).mpr h]
      rfl
  · by_cases hcolon : ':' ∈ field
    · obtain ⟨before, after, hfield, hbefore⟩ := List.eq_append_cons_of_mem hcolon
      by_cases hport : ∃ n < limit16, IsNumeral 16 after n
      · rcases (decides_address field before).exists with ⟨ip, hip⟩ | ⟨failure, hfailure⟩
        · obtain ⟨n, hn, hport⟩ := hport
          refine .inl ⟨⟨ip, .ofNat n⟩, before, after, ⟨hfield, hbefore⟩, hip, ?_⟩
          rwa [UInt16.toNat_ofNat_of_lt' hn]
        · exact .inr ⟨failure, .badAddress ⟨hfield, hbefore⟩ hport hfailure⟩
      · exact .inr ⟨_, .badPort ⟨hfield, hbefore⟩ hport⟩
    · exact .inr ⟨_, .noPort hcolon⟩

theorem fields?_eq_some_iff {line localField remoteField state : List Char} :
    fields? line = some (localField, remoteField, state)
      ↔ HasFields line localField remoteField state := by
  unfold fields? HasFields
  split
  case h_1 slot first second third rest hline =>
    constructor
    · intro h
      split at h
      · cases h
      · next hrest =>
        cases h
        exact ⟨slot, rest, hline, Nat.not_lt.mp hrest⟩
    · rintro ⟨slot', further, hcolumns, hfurther⟩
      cases hline.symm.trans hcolumns
      exact if_neg (Nat.not_lt.mpr hfurther)
  case h_2 hshort =>
    constructor
    · exact fun h => nomatch h
    · rintro ⟨slot, further, hcolumns, -⟩
      exact absurd hcolumns (hshort _ _ _ _ _)

theorem exists_hasFields_iff {line : List Char} :
    (∃ localField remoteField state, HasFields line localField remoteField state)
      ↔ 10 ≤ (columns line).length := by
  constructor
  · rintro ⟨localField, remoteField, state, slot, further, hcolumns, hfurther⟩
    rw [hcolumns]
    simp only [List.length_cons]
    omega
  · intro h
    match hcolumns : columns line with
    | slot :: localField :: remoteField :: state :: further =>
      refine ⟨localField, remoteField, state, slot, further, hcolumns, ?_⟩
      rw [hcolumns] at h
      simpa using h
    | [] | [_] | [_, _] | [_, _, _] => simp [hcolumns] at h

/-- The columns of a row, which it has if it is one. -/
def rowFields (line : List Char) : List Char × List Char × List Char :=
  (fields? line).getD ([], [], [])

theorem rowFields_eq {line localField remoteField state : List Char}
    (h : HasFields line localField remoteField state) :
    rowFields line = (localField, remoteField, state) := by
  rw [rowFields, fields?_eq_some_iff.mpr h]
  rfl

/-- A table is read as the list of its rows. -/
theorem parse_eq_mapM (text : String) :
    parse text = (socketRows text).mapM fun line =>
      ofFields (rowFields line).1 (rowFields line).2.1 (rowFields line).2.2 := by
  have hfields : ((lines text.toList).drop 1).filterMap fields?
      = (socketRows text).map rowFields := by
    rw [socketRows, ← List.filterMap_eq_map, List.filterMap_filter]
    refine List.filterMap_congr fun line _ => ?_
    by_cases hline : 10 ≤ (columns line).length
    · obtain ⟨localField, remoteField, state, hfields⟩ := exists_hasFields_iff.mpr hline
      rw [fields?_eq_some_iff.mpr hfields, if_pos (decide_eq_true hline), Function.comp,
        rowFields_eq hfields]
    · have hnone : fields? line = none := Option.eq_none_iff_forall_ne_some.mpr
        fun (_, _, _) hsome => hline (exists_hasFields_iff.mp ⟨_, _, _, fields?_eq_some_iff.mp hsome⟩)
      rw [hnone, if_neg (by simpa using hline)]
  unfold parse
  rw [hfields, List.mapM_map]
  rfl

theorem decides_row {line : List Char} (h : 10 ≤ (columns line).length) :
    Decides (IsSocket line) (RowFails line)
      (ofFields (rowFields line).1 (rowFields line).2.1 (rowFields line).2.2) := by
  refine .of_exists (fun socket hsocket => ?_) (fun failure hfailure => ?_) ?_
  · obtain ⟨localField, remoteField, state, hline, hstate, hlocal, hremote⟩ := hsocket
    have hnumber : unsigned? 16 256 state = some socket.state.toNat :=
      (unsigned?_eq_some_iff (by decide)).mpr ⟨hstate, socket.state.toNat_lt⟩
    simp only [rowFields_eq hline, ofFields, hnumber,
      ((decides_endpoint localField).ok_iff _).mpr hlocal,
      ((decides_endpoint remoteField).ok_iff _).mpr hremote, ok_bind, UInt8.ofNat_toNat]
    rfl
  · cases hfailure with
    | badState hline hstate =>
      simp only [rowFields_eq hline, ofFields, (unsigned?_eq_none_iff (by decide)).mpr hstate]
    | badLocal hline hstate hlocal =>
      obtain ⟨n, hn, hstate⟩ := hstate
      simp only [rowFields_eq hline, ofFields,
        (unsigned?_eq_some_iff (by decide)).mpr ⟨hstate, hn⟩,
        ((decides_endpoint _).error_iff _).mpr hlocal, error_bind]
    | badRemote hline hstate hlocal hremote =>
      obtain ⟨n, hn, hstate⟩ := hstate
      obtain ⟨e, hlocal⟩ := hlocal
      simp only [rowFields_eq hline, ofFields,
        (unsigned?_eq_some_iff (by decide)).mpr ⟨hstate, hn⟩,
        ((decides_endpoint _).ok_iff _).mpr hlocal,
        ((decides_endpoint _).error_iff _).mpr hremote, ok_bind, error_bind]
  · obtain ⟨localField, remoteField, state, hline⟩ := exists_hasFields_iff.mpr h
    by_cases hstate : ∃ n < 256, IsNumeral 16 state n
    · rcases (decides_endpoint localField).exists with ⟨localEnd, hlocal⟩ | ⟨failure, hlocal⟩
      · rcases (decides_endpoint remoteField).exists with ⟨remoteEnd, hremote⟩ | ⟨failure, hremote⟩
        · obtain ⟨n, hn, hstate⟩ := hstate
          refine .inl ⟨⟨localEnd, remoteEnd, .ofNat n⟩, localField, remoteField, state, hline, ?_,
            hlocal, hremote⟩
          rwa [UInt8.toNat_ofNat_of_lt' hn]
        · exact .inr ⟨failure, .badRemote hline hstate ⟨localEnd, hlocal⟩ hremote⟩
      · exact .inr ⟨failure, .badLocal hline hstate hlocal⟩
    · exact .inr ⟨_, .badState hline hstate⟩

theorem le_columns_of_mem_socketRows {text : String} {row : List Char}
    (h : row ∈ socketRows text) : 10 ≤ (columns row).length :=
  of_decide_eq_true (List.mem_filter.mp h).2

theorem decides_table (text : String) :
    Decides (List.Forall₂ IsSocket (socketRows text))
      (fun failure => ∃ before row after, socketRows text = before ++ row :: after
        ∧ (∀ other ∈ before, ∃ socket, IsSocket other socket) ∧ RowFails row failure)
      (parse text) := by
  rw [parse_eq_mapM]
  exact .mapM fun line hline => decides_row (le_columns_of_mem_socketRows hline)

/-! ## Where a table is torn -/

theorem endpointFails_abort_iff {cause : Abort} :
    EndpointFails field (.abort cause) ↔ cause = .splitCharacter ∧ IsTornEndpoint field := by
  constructor
  · intro h
    cases h with
    | badAddress hfield hport h =>
      cases h with
      | torn hlength htorn => exact ⟨rfl, _, _, hfield, hport, hlength, htorn⟩
  · rintro ⟨rfl, address, port, hfield, hport, hlength, htorn⟩
    exact .badAddress hfield hport (.torn hlength htorn)

theorem rowFails_abort_iff {line : List Char} {cause : Abort} :
    RowFails line (.abort cause) ↔ cause = .splitCharacter ∧ IsTornRow line := by
  constructor
  · intro h
    cases h with
    | badLocal hline hstate h =>
      obtain ⟨rfl, htorn⟩ := endpointFails_abort_iff.mp h
      exact ⟨rfl, _, _, _, hline, hstate, .inl htorn⟩
    | badRemote hline hstate hlocal h =>
      obtain ⟨rfl, htorn⟩ := endpointFails_abort_iff.mp h
      exact ⟨rfl, _, _, _, hline, hstate, .inr ⟨hlocal, htorn⟩⟩
  · rintro ⟨rfl, localField, remoteField, state, hline, hstate, htorn | ⟨hlocal, htorn⟩⟩
    · exact .badLocal hline hstate (endpointFails_abort_iff.mpr ⟨rfl, htorn⟩)
    · exact .badRemote hline hstate hlocal (endpointFails_abort_iff.mpr ⟨rfl, htorn⟩)

/-- What is neither a socket nor torn is an error. -/
theorem exists_rowFails_error_iff {line : List Char} (h : 10 ≤ (columns line).length) :
    (∃ cause, RowFails line (.error cause))
      ↔ (¬ ∃ socket, IsSocket line socket) ∧ ¬ IsTornRow line := by
  have hrow := decides_row h
  constructor
  · rintro ⟨cause, hcause⟩
    have hread := (hrow.error_iff _).mpr hcause
    constructor
    · rintro ⟨socket, hsocket⟩
      exact nomatch hread.symm.trans ((hrow.ok_iff socket).mpr hsocket)
    · intro htorn
      have habort := (hrow.error_iff _).mpr (rowFails_abort_iff.mpr ⟨rfl, htorn⟩)
      exact nomatch Except.error.inj (hread.symm.trans habort)
  · rintro ⟨hsocket, htorn⟩
    rcases hrow.exists with hok | ⟨failure, hfailure⟩
    · exact absurd hok hsocket
    · cases failure with
      | error cause => exact ⟨cause, hfailure⟩
      | abort cause => exact absurd (rowFails_abort_iff.mp hfailure).2 htorn

/-- A character that takes more than one byte is torn. -/
theorem exists_wide_of_isTorn (h : IsTorn s) : ∃ c ∈ s, 1 < c.utf8Size := by
  obtain ⟨words, rest, ws, rfl, -, front, c, back, rfl, hstart, hend⟩ := h
  exact ⟨c, by simp, by omega⟩

theorem mem_of_hasFields {line localField remoteField state : List Char} {c : Char}
    (hline : HasFields line localField remoteField state)
    (hc : c ∈ localField ∨ c ∈ remoteField) : c ∈ line := by
  obtain ⟨slot, further, hcolumns, -⟩ := hline
  rcases hc with hc | hc
  · exact mem_of_mem_columns (by simp [hcolumns]) hc
  · exact mem_of_mem_columns (by simp [hcolumns]) hc

theorem exists_wide_of_isTornRow {line : List Char} (h : IsTornRow line) :
    ∃ c ∈ line, 1 < c.utf8Size := by
  have hendpoint : ∀ field, IsTornEndpoint field → ∃ c ∈ field, 1 < c.utf8Size := by
    rintro field ⟨address, port, ⟨rfl, -⟩, -, -, htorn⟩
    obtain ⟨c, hc, hsize⟩ := exists_wide_of_isTorn htorn
    exact ⟨c, List.mem_append_left _ hc, hsize⟩
  obtain ⟨localField, remoteField, state, hline, -, htorn | ⟨-, htorn⟩⟩ := h
  · obtain ⟨c, hc, hsize⟩ := hendpoint localField htorn
    exact ⟨c, mem_of_hasFields hline (.inl hc), hsize⟩
  · obtain ⟨c, hc, hsize⟩ := hendpoint remoteField htorn
    exact ⟨c, mem_of_hasFields hline (.inr hc), hsize⟩

theorem mem_of_mem_socketRows {text : String} {row : List Char} {c : Char}
    (hrow : row ∈ socketRows text) (hc : c ∈ row) : c ∈ text.toList :=
  mem_of_mem_lines (List.mem_of_mem_drop (List.mem_filter.mp hrow).1) hc

/-- A character of ASCII takes one byte. -/
theorem utf8Size_of_ascii {c : Char} (h : c.toNat < 128) : c.utf8Size = 1 :=
  Char.utf8Size_eq_one_iff.mpr (by rw [UInt32.le_iff_toNat_le]; exact Nat.le_of_lt_succ h)

/-- **A socket table is decided row by row.** Its sockets are those of its
rows, if each row is one. Otherwise the first row that is none decides: the
failure is that of the row, an abort if the row is torn and an error with a
cause if it is not. Without characters beyond ASCII no row is torn. -/
theorem parse_row_by_row (text : String) :
    (∀ sockets, parse text = .ok sockets ↔ List.Forall₂ IsSocket (socketRows text) sockets)
    ∧ (∀ failure, parse text = .error failure ↔ ∃ before row after,
        socketRows text = before ++ row :: after
        ∧ (∀ other ∈ before, ∃ socket, IsSocket other socket) ∧ RowFails row failure)
    ∧ (∀ cause, parse text = .error (.abort cause) ↔ cause = .splitCharacter
        ∧ ∃ before row after, socketRows text = before ++ row :: after
          ∧ (∀ other ∈ before, ∃ socket, IsSocket other socket) ∧ IsTornRow row)
    ∧ ((∃ cause, parse text = .error (.error cause)) ↔ ∃ before row after,
        socketRows text = before ++ row :: after
        ∧ (∀ other ∈ before, ∃ socket, IsSocket other socket)
        ∧ (¬ ∃ socket, IsSocket row socket) ∧ ¬ IsTornRow row)
    ∧ ((∀ c ∈ text.toList, c.toNat < 128) → ∀ cause, parse text ≠ .error (.abort cause)) := by
  have htable := decides_table text
  have habort : ∀ cause, parse text = .error (.abort cause) ↔ cause = .splitCharacter
      ∧ ∃ before row after, socketRows text = before ++ row :: after
        ∧ (∀ other ∈ before, ∃ socket, IsSocket other socket) ∧ IsTornRow row := by
    intro cause
    rw [htable.error_iff]
    constructor
    · rintro ⟨before, row, after, hrows, hbefore, hrow⟩
      obtain ⟨hcause, htorn⟩ := rowFails_abort_iff.mp hrow
      exact ⟨hcause, before, row, after, hrows, hbefore, htorn⟩
    · rintro ⟨hcause, before, row, after, hrows, hbefore, htorn⟩
      exact ⟨before, row, after, hrows, hbefore, rowFails_abort_iff.mpr ⟨hcause, htorn⟩⟩
  refine ⟨htable.ok_iff, htable.error_iff, habort, ?_, ?_⟩
  · have hrow : ∀ {before row after}, socketRows text = before ++ row :: after →
        10 ≤ (columns row).length := fun hrows =>
      le_columns_of_mem_socketRows (hrows ▸ List.mem_append_right _ List.mem_cons_self)
    simp only [htable.error_iff]
    constructor
    · rintro ⟨cause, before, row, after, hrows, hbefore, hfails⟩
      exact ⟨before, row, after, hrows, hbefore,
        (exists_rowFails_error_iff (hrow hrows)).mp ⟨cause, hfails⟩⟩
    · rintro ⟨before, row, after, hrows, hbefore, hnone⟩
      obtain ⟨cause, hfails⟩ := (exists_rowFails_error_iff (hrow hrows)).mpr hnone
      exact ⟨cause, before, row, after, hrows, hbefore, hfails⟩
  · intro hascii cause hparse
    obtain ⟨-, before, row, after, hrows, -, htorn⟩ := (habort cause).mp hparse
    obtain ⟨c, hc, hsize⟩ := exists_wide_of_isTornRow htorn
    have hmem : row ∈ socketRows text := hrows ▸ List.mem_append_right _ List.mem_cons_self
    rw [utf8Size_of_ascii (hascii c (mem_of_mem_socketRows hmem hc))] at hsize
    exact absurd hsize (by decide)

/-- A table of one row, whose remote address has a character across its
sixteenth byte, and its first word in order. -/
def tornTable : String :=
  "sl\n0: 0100007F:0050 000000000000000é000000000000000:0050 0A 1 1 1 1 1 1\n"

/-- A table of one row, whose remote address is a digit short. -/
def shortTable : String := "sl\n0: 0100007F:0050 0000000:0050 0A 1 1 1 1 1 1\n"

/-- A row is torn at its second place as well, and a row that is not in order
and has ASCII characters only is no abort. -/
theorem parse_row_by_row_torn :
    parse tornTable = .error (.abort .splitCharacter)
    ∧ (∀ c ∈ shortTable.toList, c.toNat < 128)
    ∧ ∀ cause, parse shortTable ≠ .error (.abort cause) := by
  have hnumeral : ∀ s n, unsigned? 16 limit32 s = some n → IsNumeral 16 s n := fun s n h =>
    ((unsigned?_eq_some_iff (by decide)).mp h).1
  have hword : IsWord "00000000".toList .zero := ⟨rfl, hnumeral _ _ (by decide)⟩
  have htorn : IsTorn "000000000000000é000000000000000".toList :=
    ⟨"00000000".toList, "0000000é000000000000000".toList, [.zero], by decide +kernel,
      ⟨"00000000".toList, [], by decide +kernel, hword, rfl⟩,
      "0000000".toList, 'é', "000000000000000".toList, by decide +kernel, by decide, by decide⟩
  have hremote : IsTornEndpoint "000000000000000é000000000000000:0050".toList :=
    ⟨"000000000000000é000000000000000".toList, "0050".toList, ⟨rfl, by decide⟩,
      ⟨80, by decide, hnumeral _ _ (by decide)⟩, rfl, htorn⟩
  have hlocal : ∃ e, IsEndpoint "0100007F:0050".toList e :=
    ⟨⟨.v4 ⟨127, 0, 0, 1⟩, 80⟩, ((decides_endpoint _).ok_iff _).mp (by decide +kernel)⟩
  have hstate : ∃ n < 256, IsNumeral 16 "0A".toList n :=
    ⟨10, by decide, hnumeral _ _ (by decide)⟩
  have hrows : socketRows tornTable
      = ["0: 0100007F:0050 000000000000000é000000000000000:0050 0A 1 1 1 1 1 1".toList] := by
    decide +kernel
  have hrow : IsTornRow
      "0: 0100007F:0050 000000000000000é000000000000000:0050 0A 1 1 1 1 1 1".toList :=
    ⟨"0100007F:0050".toList, "000000000000000é000000000000000:0050".toList, "0A".toList,
      ⟨"0:".toList, List.replicate 6 ['1'], by decide +kernel, by decide⟩, hstate,
      .inr ⟨hlocal, hremote⟩⟩
  have hall : (shortTable.toList.all fun c => c.toNat < 128) = true := by decide
  have hascii : ∀ c ∈ shortTable.toList, c.toNat < 128 := fun c hc =>
    of_decide_eq_true (List.all_eq_true.mp hall c hc)
  obtain ⟨-, -, habort, -, -⟩ := parse_row_by_row tornTable
  obtain ⟨-, -, -, -, hshort⟩ := parse_row_by_row shortTable
  constructor
  · exact (habort .splitCharacter).mpr ⟨rfl, [], _, [], hrows, by simp, hrow⟩
  · exact ⟨hascii, hshort hascii⟩

end SocketLine

end HostMetrics.Proc
