import HostMetrics.Proofs.Numerals
import HostMetrics.Source.Kernel
import Mathlib.Data.List.Infix

/-!
# Endpoint texts tell endpoints apart

Connections are shown, counted and told apart by the texts of their ends, so
two ends must not share a text. This module shows that they do not
(`Endpoint.text_injective`), with one exception that is meant: the other end
of a socket that is not connected has the empty text, in both address
versions.

An address of version 4 is cut at its dots, and a number is known by its
digits. In version 6 the address is cut at its colons, and there the zeros
that are left out need an argument. A text in which zeros are left out has two
colons side by side, and so an empty piece, which no other text has. The
groups in front of the omission are the pieces up to the first empty one; the
groups behind it are those of the rest; and how many zeros were left out
follows from there being eight groups in all. Nothing depends on which zeros
are left out, so a tie between two runs and an omission at either end are no
cases of their own. An address that stands for one of version 4 has dots in
its text, and other addresses have none.
-/

namespace HostMetrics

open Text

/-! ## Parts between separators -/

/-- Parts without the separator are known by the text that they are joined
to. -/
theorem eq_of_intercalate_eq {sep : Char} {xs ys : List (List Char)} (hxs : ∀ x ∈ xs, sep ∉ x)
    (hys : ∀ y ∈ ys, sep ∉ y) (hx : xs ≠ []) (hy : ys ≠ [])
    (h : [sep].intercalate xs = [sep].intercalate ys) : xs = ys := by
  rw [← List.splitOn_intercalate sep hxs hx, h, List.splitOn_intercalate sep hys hy]

namespace AddressWord

/-- The bytes of a word, the most significant first. -/
def bytes (w : AddressWord) : List UInt8 := [w.a, w.b, w.c, w.d]

theorem dotted_eq_intercalate (w : AddressWord) :
    w.dotted = ['.'].intercalate (w.bytes.map fun byte => decimal byte.toNat) := by
  simp [dotted, bytes, List.intercalate]

theorem dotted_injective : Function.Injective dotted := by
  intro v w h
  have hplain : ∀ w : AddressWord, ∀ x ∈ w.bytes.map fun byte => decimal byte.toNat, '.' ∉ x := by
    intro w x hx
    obtain ⟨byte, -, rfl⟩ := List.mem_map.mp hx
    exact not_mem_toDigits (by decide) (by decide) rfl byte.toNat
  rw [dotted_eq_intercalate, dotted_eq_intercalate] at h
  have hbytes := eq_of_intercalate_eq (hplain v) (hplain w) (by simp [bytes]) (by simp [bytes]) h
  have hinjective : Function.Injective fun byte : UInt8 => decimal byte.toNat := fun _ _ hb =>
    UInt8.toNat_inj.mp (decimal_injective hb)
  have := List.map_injective_iff.mpr hinjective hbytes
  simp only [bytes, List.cons.injEq, and_true] at this
  obtain ⟨ha, hb, hc, hd⟩ := this
  cases v
  cases w
  simp_all

/-- Only digits and dots stand in the text of a word. -/
theorem not_mem_dotted {c : Char} (hdot : c ≠ '.') (hdigit : digit? 10 c = none)
    (w : AddressWord) : c ∉ w.dotted := by
  have hdecimal := not_mem_toDigits (by decide) (by decide) hdigit
  simp [dotted, decimal, hdot, hdecimal]

/-- Words are known by their groups. -/
theorem groups_append_inj {v w : AddressWord} {s t : List Nat}
    (h : v.groups ++ s = w.groups ++ t) : v = w ∧ s = t := by
  obtain ⟨a, b, c, d⟩ := v
  obtain ⟨a', b', c', d'⟩ := w
  simp only [groups, List.cons_append, List.nil_append, List.cons.injEq] at h
  obtain ⟨hab, hcd, hst⟩ := h
  have := b.toNat_lt
  have := b'.toNat_lt
  have := d.toNat_lt
  have := d'.toNat_lt
  have ha : a = a' := UInt8.toNat_inj.mp (by omega)
  have hb : b = b' := UInt8.toNat_inj.mp (by omega)
  have hc : c = c' := UInt8.toNat_inj.mp (by omega)
  have hd : d = d' := UInt8.toNat_inj.mp (by omega)
  exact ⟨by rw [ha, hb, hc, hd], hst⟩

end AddressWord

namespace IpAddress

/-! ## Groups with colons between them -/

theorem joinGroups_eq_intercalate (gs : List Nat) :
    joinGroups gs = [':'].intercalate (gs.map (Nat.toDigits 16)) := by
  fun_induction joinGroups gs with
  | case1 => rfl
  | case2 g => simp [List.intercalate]
  | case3 g gs hgs ih =>
    obtain ⟨first, others, rfl⟩ := List.exists_cons_of_ne_nil hgs
    simp [ih, List.intercalate]

theorem splitOn_joinGroups {gs : List Nat} (h : gs ≠ []) :
    (joinGroups gs).splitOn ':' = gs.map (Nat.toDigits 16) := by
  rw [joinGroups_eq_intercalate]
  refine List.splitOn_intercalate ':' (fun x hx => ?_) (by simpa using h)
  obtain ⟨g, -, rfl⟩ := List.mem_map.mp hx
  exact not_mem_toDigits (by decide) (by decide) rfl g

/-- No group has an empty piece. -/
theorem isEmpty_of_mem_digits {gs : List Nat} {piece : List Char}
    (h : piece ∈ gs.map (Nat.toDigits 16)) : piece.isEmpty = false := by
  obtain ⟨g, -, rfl⟩ := List.mem_map.mp h
  exact List.isEmpty_eq_false_iff.mpr (areDigits_toDigits (by decide) g).1

/-- **The groups in front of two colons** are the pieces up to the first
empty one. -/
theorem takeWhile_pieces (gs : List Nat) (rest : List (List Char)) :
    ((joinGroups gs).splitOn ':' ++ [] :: rest).takeWhile (!·.isEmpty)
      = gs.map (Nat.toDigits 16) := by
  cases gs with
  | nil => rfl
  | cons g gs =>
    rw [splitOn_joinGroups (List.cons_ne_nil g gs), List.takeWhile_append_of_pos]
    · exact List.append_nil _
    · exact fun piece h => by simp [isEmpty_of_mem_digits h]

theorem digits_map_injective : Function.Injective (List.map (Nat.toDigits 16)) :=
  List.map_injective_iff.mpr (toDigits_injective (by decide) (by decide))

theorem joinGroups_injective : Function.Injective joinGroups := by
  intro gs hs h
  refine digits_map_injective ?_
  rw [← takeWhile_pieces gs [], ← takeWhile_pieces hs [], h]

/-! ## Groups of which zeros are left out -/

/-- The text with the groups between `front` and `back` left out. -/
def omission (front back : List Nat) : List Char :=
  joinGroups front ++ ':' :: ':' :: joinGroups back

theorem splitOn_omission (front back : List Nat) :
    (omission front back).splitOn ':'
      = (joinGroups front).splitOn ':' ++ [] :: (joinGroups back).splitOn ':' := by
  have hcolon : (':' == ':') = true := rfl
  simp only [omission, List.splitOn_eq_splitOnP, splitOnP_append_sep (p := (· == ':')) hcolon]
  exact congrArg _ (splitOnP_append_sep (p := (· == ':')) hcolon [] _)

/-- The groups on either side of an omission are known by the text. -/
theorem omission_inj {front back front' back' : List Nat}
    (h : omission front back = omission front' back') : front = front' ∧ back = back' := by
  have hfront : front = front' := by
    refine digits_map_injective ?_
    rw [← takeWhile_pieces front, ← takeWhile_pieces front', ← splitOn_omission, h,
      splitOn_omission]
  subst hfront
  have hback := List.append_cancel_left h
  simp only [List.cons.injEq, true_and] at hback
  exact ⟨rfl, joinGroups_injective hback⟩

/-- Without an omission there are no two colons side by side. -/
theorem joinGroups_ne_omission {gs : List Nat} (h : gs ≠ []) (front back : List Nat) :
    joinGroups gs ≠ omission front back := by
  intro heq
  have hempty : [] ∈ gs.map (Nat.toDigits 16) := by
    rw [← splitOn_joinGroups h, heq, splitOn_omission]
    simp
  exact nomatch isEmpty_of_mem_digits hempty

/-- **The zero run is a run of zeros.** -/
theorem take_zeroRun_append (gs : List Nat) :
    gs.take (zeroRun gs).1 ++ List.replicate (zeroRun gs).2 0
      ++ gs.drop ((zeroRun gs).1 + (zeroRun gs).2) = gs := by
  induction gs with
  | nil => rfl
  | cons g gs ih =>
    unfold zeroRun
    dsimp only
    split
    · have hzeros : (g :: gs).takeWhile (· == 0)
          = List.replicate ((g :: gs).takeWhile (· == 0)).length 0 :=
        List.eq_replicate_of_mem fun z hz =>
          eq_of_beq (List.all_eq_true.mp List.all_takeWhile z hz)
      rw [List.take_zero, List.nil_append, Nat.zero_add, ← hzeros]
      exact (List.prefix_append_drop (List.takeWhile_prefix _)).symm
    · rw [Nat.add_right_comm, List.take_succ_cons, List.drop_succ_cons, List.cons_append,
        List.cons_append, ih]

theorem groupsText_eq_omission {gs : List Nat} (h : 2 ≤ (zeroRun gs).2) :
    groupsText gs = omission (gs.take (zeroRun gs).1)
      (gs.drop ((zeroRun gs).1 + (zeroRun gs).2)) :=
  if_pos h

theorem groupsText_eq_joinGroups {gs : List Nat} (h : ¬ 2 ≤ (zeroRun gs).2) :
    groupsText gs = joinGroups gs :=
  if_neg h

/-- **Groups are known by their text**, if it is known how many there are. -/
theorem groupsText_inj {gs hs : List Nat} (hgs : gs.length = 8) (hhs : hs.length = 8)
    (h : groupsText gs = groupsText hs) : gs = hs := by
  by_cases hg : 2 ≤ (zeroRun gs).2 <;> by_cases hh : 2 ≤ (zeroRun hs).2
  · rw [groupsText_eq_omission hg, groupsText_eq_omission hh] at h
    obtain ⟨hfront, hback⟩ := omission_inj h
    have hgroups := take_zeroRun_append gs
    have hothers := take_zeroRun_append hs
    rw [hfront, hback] at hgroups
    have hzeros : (zeroRun gs).2 = (zeroRun hs).2 := by
      have hsum := congrArg List.length hgroups
      have hsum' := congrArg List.length hothers
      simp only [List.length_append, List.length_replicate] at hsum hsum'
      omega
    rw [← hgroups, hzeros, hothers]
  · rw [groupsText_eq_omission hg, groupsText_eq_joinGroups hh] at h
    exact absurd h.symm (joinGroups_ne_omission (List.ne_nil_of_length_eq_add_one hhs) _ _)
  · rw [groupsText_eq_joinGroups hg, groupsText_eq_omission hh] at h
    exact absurd h (joinGroups_ne_omission (List.ne_nil_of_length_eq_add_one hgs) _ _)
  · rw [groupsText_eq_joinGroups hg, groupsText_eq_joinGroups hh] at h
    exact joinGroups_injective h

/-! ## Texts of addresses and of endpoints -/

/-- Only digits and colons stand among groups. -/
theorem not_mem_joinGroups {c : Char} (hcolon : c ≠ ':') (hdigit : digit? 16 c = none)
    (gs : List Nat) : c ∉ joinGroups gs := by
  have hdigits := not_mem_toDigits (by decide) (by decide) hdigit
  fun_induction joinGroups gs with
  | case1 => exact List.not_mem_nil
  | case2 g => exact hdigits g
  | case3 g gs _ ih => simp [hcolon, hdigits, ih]

theorem not_mem_groupsText {c : Char} (hcolon : c ≠ ':') (hdigit : digit? 16 c = none)
    (gs : List Nat) : c ∉ groupsText gs := by
  have hgroups := not_mem_joinGroups hcolon hdigit
  by_cases h : 2 ≤ (zeroRun gs).2
  · simp [groupsText_eq_omission h, omission, hcolon, hgroups]
  · rw [groupsText_eq_joinGroups h]
    exact hgroups gs

/-- Whether an address is one of version 4. -/
def isVersion4 : IpAddress → Bool
  | v4 _ => true
  | v6 .. => false

/-- **The addresses that stand for one of version 4.** -/
def mapped (w : AddressWord) : IpAddress := v6 .zero .zero ⟨0, 0, 255, 255⟩ w

theorem mem_text_mapped (w : AddressWord) : '.' ∈ (mapped w).text := by
  show '.' ∈ "::ffff:".toList ++ w.dotted
  simp [AddressWord.dotted]

/-- The eight groups of an address of version 6. -/
def groups (w₀ w₁ w₂ w₃ : AddressWord) : List Nat :=
  w₀.groups ++ (w₁.groups ++ (w₂.groups ++ w₃.groups))

theorem length_groups (w₀ w₁ w₂ w₃ : AddressWord) : (groups w₀ w₁ w₂ w₃).length = 8 := rfl

theorem groups_inj {v₀ v₁ v₂ v₃ w₀ w₁ w₂ w₃ : AddressWord}
    (h : groups v₀ v₁ v₂ v₃ = groups w₀ w₁ w₂ w₃) : v6 v₀ v₁ v₂ v₃ = v6 w₀ w₁ w₂ w₃ := by
  obtain ⟨h₀, h⟩ := AddressWord.groups_append_inj h
  obtain ⟨h₁, h⟩ := AddressWord.groups_append_inj h
  obtain ⟨h₂, h⟩ := AddressWord.groups_append_inj h
  rw [← List.append_nil v₃.groups, ← List.append_nil w₃.groups] at h
  rw [h₀, h₁, h₂, (AddressWord.groups_append_inj h).1]

/-- An address of version 6 stands for one of version 4 or is shown by its
groups. -/
theorem mapped_or_text_eq (w₀ w₁ w₂ w₃ : AddressWord) :
    v6 w₀ w₁ w₂ w₃ = mapped w₃
      ∨ (v6 w₀ w₁ w₂ w₃).text = groupsText (groups w₀ w₁ w₂ w₃) := by
  by_cases h : w₀ = .zero ∧ w₁ = .zero ∧ w₂ = ⟨0, 0, 255, 255⟩
  · obtain ⟨rfl, rfl, rfl⟩ := h
    exact .inl rfl
  · refine .inr ((if_neg h).trans ?_)
    rw [groups, List.append_assoc, List.append_assoc]

/-- **Addresses of one version are known by their texts.** -/
theorem text_inj {x y : IpAddress} (hversion : x.isVersion4 = y.isVersion4)
    (h : x.text = y.text) : x = y := by
  have hplain := not_mem_groupsText (by decide : '.' ≠ ':') rfl
  match x, y with
  | v4 v, v4 w => exact congrArg v4 (AddressWord.dotted_injective h)
  | v6 v₀ v₁ v₂ v₃, v6 w₀ w₁ w₂ w₃ =>
    rcases mapped_or_text_eq v₀ v₁ v₂ v₃ with hx | hx
      <;> rcases mapped_or_text_eq w₀ w₁ w₂ w₃ with hy | hy
    · rw [hx, hy] at h ⊢
      exact congrArg mapped (AddressWord.dotted_injective (List.append_cancel_left h))
    · rw [hx, hy] at h
      exact absurd (h ▸ mem_text_mapped v₃) (hplain _)
    · rw [hx, hy] at h
      exact absurd (h ▸ mem_text_mapped w₃) (hplain _)
    · rw [hx, hy] at h
      exact groups_inj (groupsText_inj (length_groups ..) (length_groups ..) h)

theorem not_mem_text_v6 (w₀ w₁ w₂ w₃ : AddressWord) : ']' ∉ (v6 w₀ w₁ w₂ w₃).text := by
  rcases mapped_or_text_eq w₀ w₁ w₂ w₃ with h | h
  · rw [h]
    show ']' ∉ "::ffff:".toList ++ w₃.dotted
    simp [AddressWord.not_mem_dotted (by decide : ']' ≠ '.') rfl]
  · rw [h]
    exact not_mem_groupsText (by decide) rfl _

end IpAddress

namespace Endpoint

/-- The texts of endpoints of version 6, and only these, have an opening
bracket. -/
theorem mem_text_iff (e : Endpoint) : '[' ∈ e.text ↔ e.address.isVersion4 = false := by
  obtain ⟨w | ⟨w₀, w₁, w₂, w₃⟩, port⟩ := e
  · have haddress := AddressWord.not_mem_dotted (by decide : '[' ≠ '.') rfl w
    have hport := not_mem_toDigits (by decide) (by decide) (rfl : digit? 10 '[' = none) port.toNat
    show '[' ∈ w.dotted ++ ':' :: decimal port.toNat ↔ true = false
    simp [decimal, haddress, hport]
  · show '[' ∈ '[' :: _ ↔ false = false
    simp

/-- **Endpoints are known by their texts.** -/
theorem text_injective : Function.Injective text := by
  rintro ⟨x, p⟩ ⟨y, q⟩ h
  have hversion : x.isVersion4 = y.isVersion4 := by
    have hx := mem_text_iff ⟨x, p⟩
    rw [h, mem_text_iff] at hx
    exact Bool.eq_iff_iff.mpr (by simpa using hx.symm)
  have hport : ∀ c, digit? 10 c = none → c ∉ decimal p.toNat := fun c hc =>
    not_mem_toDigits (by decide) (by decide) hc _
  have hparts : x.text = y.text ∧ decimal p.toNat = decimal q.toNat := by
    match x, y with
    | .v4 v, .v4 w =>
      have hcolon := AddressWord.not_mem_dotted (by decide : ':' ≠ '.') rfl v
      obtain ⟨haddress, -, hnumber⟩ :=
        (List.append_cons_inj_of_notMem hcolon (hport ':' rfl)).mp h
      exact ⟨haddress, hnumber⟩
    | .v6 v₀ v₁ v₂ v₃, .v6 w₀ w₁ w₂ w₃ =>
      have hbracket := IpAddress.not_mem_text_v6 v₀ v₁ v₂ v₃
      obtain ⟨haddress, -, hnumber⟩ :=
        (List.append_cons_inj_of_notMem (by simpa using hbracket)
          (by simpa using hport ']' rfl)).mp h
      exact ⟨(List.cons.inj haddress).2, (List.cons.inj hnumber).2⟩
  rw [IpAddress.text_inj hversion hparts.1, UInt16.toNat_inj.mp (decimal_injective hparts.2)]

end Endpoint

/-! ## Texts of connections -/

theorem IpAddress.isUnspecified_iff (x : IpAddress) :
    x.isUnspecified = true ↔ x = .v4 .zero ∨ x = .v6 .zero .zero .zero .zero := by
  cases x <;> simp [isUnspecified, and_assoc]

theorem Endpoint.ofList_text_ne_empty (e : Endpoint) : String.ofList e.text ≠ "" := by
  have hcolon : ':' ∈ e.text := by
    obtain ⟨w | ⟨w₀, w₁, w₂, w₃⟩, port⟩ := e
    · show ':' ∈ w.dotted ++ ':' :: decimal port.toNat
      simp
    · show ':' ∈ '[' :: (IpAddress.v6 w₀ w₁ w₂ w₃).text ++ ']' :: ':' :: decimal port.toNat
      simp
  exact fun h => List.ne_nil_of_mem hcolon (String.ofList_injective h)

namespace KernelSource

open Proc

/-- **The other end of a socket that is not connected**: no address and no
port. -/
def NotConnected (e : Endpoint) : Prop :=
  (e.address = .v4 .zero ∨ e.address = .v6 .zero .zero .zero .zero) ∧ e.port = 0

theorem isUnspecified_and_port_iff (e : Endpoint) :
    (e.address.isUnspecified && e.port == 0) = true ↔ NotConnected e := by
  rw [Bool.and_eq_true, IpAddress.isUnspecified_iff, beq_iff_eq]
  rfl

theorem remoteText_of_notConnected {e : Endpoint} (h : NotConnected e) : remoteText e = "" :=
  if_pos ((isUnspecified_and_port_iff e).mpr h)

theorem remoteText_of_connected {e : Endpoint} (h : ¬ NotConnected e) :
    remoteText e = String.ofList e.text :=
  if_neg ((isUnspecified_and_port_iff e).not.mpr h)

theorem remoteText_eq_empty_iff (e : Endpoint) : remoteText e = "" ↔ NotConnected e := by
  refine ⟨fun h => ?_, remoteText_of_notConnected⟩
  by_contra hconnected
  exact e.ofList_text_ne_empty ((remoteText_of_connected hconnected).symm.trans h)

/-- In one address version there is one end that is not connected. -/
theorem NotConnected.eq {e f : Endpoint} (he : NotConnected e) (hf : NotConnected f)
    (hversion : e.address.isVersion4 = f.address.isVersion4) : e = f := by
  obtain ⟨x, p⟩ := e
  obtain ⟨y, q⟩ := f
  obtain ⟨rfl | rfl, rfl⟩ := he <;> obtain ⟨rfl | rfl, rfl⟩ := hf
  all_goals first | rfl | cases hversion

theorem remoteText_inj {e f : Endpoint} (hversion : e.address.isVersion4 = f.address.isVersion4)
    (h : remoteText e = remoteText f) : e = f := by
  by_cases he : NotConnected e
  · have hf : NotConnected f := by
      rw [← remoteText_eq_empty_iff, ← h]
      exact remoteText_of_notConnected he
    exact he.eq hf hversion
  · have hf : ¬ NotConnected f := by
      rwa [← remoteText_eq_empty_iff, ← h, remoteText_eq_empty_iff]
    rw [remoteText_of_connected he, remoteText_of_connected hf] at h
    exact Endpoint.text_injective (String.ofList_injective h)

/-- The ends of the connection that a line tells, each with its text. -/
def shownEnds (table : SocketTable) (line : SocketLine) : List (Endpoint × String) :=
  [(line.localEnd, (connectionOf table line).localEnd),
    (line.remoteEnd, (connectionOf table line).remoteEnd)]

/-- An end is shown by its text if it is shown. -/
theorem eq_ofList_text_of_mem_shownEnds {table : SocketTable} {line : SocketLine}
    {e : Endpoint} {shown : String} (h : (e, shown) ∈ shownEnds table line) (hshown : shown ≠ "") :
    shown = String.ofList e.text := by
  rcases List.mem_pair.mp h with heq | heq
  · cases heq
    rfl
  · cases heq
    exact remoteText_of_connected fun hnone => hshown (remoteText_of_notConnected hnone)

/-- **The texts of its ends tell the ends of a connection.** Two connections
have the same text for their ends on this side iff these are the same, and
the same holds for the other ends of one address version. The other end is
shown as nothing iff the socket is not connected. Two ends of different
versions never share a text, other than that. -/
theorem ends_known_by_texts (s t : SocketTable) (a b : SocketLine) :
    ((connectionOf s a).localEnd = (connectionOf t b).localEnd ↔ a.localEnd = b.localEnd)
      ∧ (a.remoteEnd.address.isVersion4 = b.remoteEnd.address.isVersion4 →
        ((connectionOf s a).remoteEnd = (connectionOf t b).remoteEnd
          ↔ a.remoteEnd = b.remoteEnd))
      ∧ ((connectionOf s a).remoteEnd = "" ↔ NotConnected a.remoteEnd)
      ∧ ∀ e shown f other, (e, shown) ∈ shownEnds s a → (f, other) ∈ shownEnds t b →
        e.address.isVersion4 ≠ f.address.isVersion4 → shown ≠ "" → shown ≠ other := by
  refine ⟨⟨fun h => ?_, congrArg fun e : Endpoint => String.ofList e.text⟩,
    fun hversion => ⟨remoteText_inj hversion, congrArg remoteText⟩,
    remoteText_eq_empty_iff a.remoteEnd, ?_⟩
  · exact Endpoint.text_injective (String.ofList_injective h)
  · rintro e shown f other he hf hversion hshown rfl
    have htext : String.ofList e.text = String.ofList f.text :=
      (eq_ofList_text_of_mem_shownEnds he hshown).symm.trans
        (eq_ofList_text_of_mem_shownEnds hf hshown)
    exact hversion (congrArg (fun e => e.address.isVersion4)
      (Endpoint.text_injective (String.ofList_injective htext)))

/-- A line with an end of version 4 on this side. -/
def plainLine : SocketLine where
  localEnd := ⟨.v4 ⟨10, 0, 0, 1⟩, 80⟩
  remoteEnd := ⟨.v6 ⟨32, 1, 0, 0⟩ ⟨0, 0, 0, 0⟩ ⟨0, 1, 0, 0⟩ ⟨0, 0, 0, 1⟩, 443⟩
  state := 1

/-- A line with the same end in version 6, and with zeros elsewhere in the
other end. -/
def mappedLine : SocketLine where
  localEnd := ⟨IpAddress.mapped ⟨10, 0, 0, 1⟩, 80⟩
  remoteEnd := ⟨.v6 ⟨32, 1, 0, 0⟩ ⟨0, 0, 0, 1⟩ ⟨0, 0, 0, 0⟩ ⟨0, 0, 0, 1⟩, 443⟩
  state := 1

/-- The table that the two lines stand in. -/
def mixedTable : SocketTable := ⟨"net/tcp6", Connection.familyV6, Connection.streamKind⟩

-- of two runs of zeros the longer one is left out
example : (connectionOf mixedTable mappedLine).remoteEnd = "[2001:0:0:1::1]:443" := by decide

/-- The two lines differ in the texts of both ends. -/
theorem plainLine_mappedLine_known_by_texts :
    (connectionOf mixedTable plainLine).localEnd ≠ (connectionOf mixedTable mappedLine).localEnd
      ∧ (connectionOf mixedTable plainLine).remoteEnd
        ≠ (connectionOf mixedTable mappedLine).remoteEnd := by
  obtain ⟨-, hremote, -, hversions⟩ :=
    ends_known_by_texts mixedTable mixedTable plainLine mappedLine
  constructor
  · refine hversions plainLine.localEnd _ mappedLine.localEnd _ ?_ ?_ (by decide) ?_
    · exact List.mem_cons_self
    · exact List.mem_cons_self
    · exact plainLine.localEnd.ofList_text_ne_empty
  · exact (hremote rfl).not.mpr (by decide)

end KernelSource

end HostMetrics
