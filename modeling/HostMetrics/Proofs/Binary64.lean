import Mathlib

/-!
# Division by one

The counters of disks are told in units of a divisor, which is one for all
of them but the times. That such a division changes nothing holds of every
number of 64 bits, the infinities and the number that is none included, and
it rests on two facts about them.

* `pack_unpack` – the sign, mantissa and exponent of a number determine all
  of its bits;
* `canonical_unpack` – the exponent of a number is the one that rounding a
  result of its size would choose, so rounding an exact result that is a
  number already leaves it alone.
-/

namespace HostMetrics.Binary64

open Float.Model UnpackedFloat

/-! ## The bits of a number -/

theorem toBitVec_ofBitVec (b : BitVec 1) : (Sign.ofBitVec b).toBitVec = b := by
  unfold Sign.ofBitVec
  split
  · next h => exact h.symm
  · next h =>
    show 1#1 = b
    revert b
    decide

/-- The three fields of a number are all of its bits. -/
theorem packComponents_unpack (b : BitVec 64) :
    packComponents Format.binary64 (Sign.ofBitVec (@unpackSign Format.binary64 b))
      (@unpackExponent Format.binary64 b) (@unpackMantissa Format.binary64 b)
      = b := by
  unfold packComponents
  rw [toBitVec_ofBitVec]
  apply BitVec.eq_of_toNat_eq
  simp only [BitVec.toNat_append]
  simp [unpackSign, unpackExponent, unpackMantissa, BitVec.extractLsb]
  have hexponent : b.toNat >>> 52 % 2048 < 2 ^ 11 := Nat.mod_lt _ (by decide)
  have hmantissa : b.toNat % 4503599627370496 < 2 ^ 52 := Nat.mod_lt _ (by decide)
  rw [← Nat.shiftLeft_add_eq_or_of_lt hexponent, ← Nat.shiftLeft_add_eq_or_of_lt hmantissa]
  simp only [Nat.shiftLeft_eq, Nat.shiftRight_eq_div_pow]
  have hb := b.isLt
  omega

theorem log2_eq {n k : Nat} (h : 2 ^ k ≤ n) (h' : n < 2 ^ (k + 1)) : n.log2 = k := by
  have hn : n ≠ 0 := by
    have := Nat.two_pow_pos k
    omega
  exact (Nat.log2_eq_iff hn).mpr ⟨h, h'⟩

/-- A mantissa stands behind a leading one that is not stored. -/
theorem toNat_leading (m : BitVec 52) : (1#1 ++ m).toNat = 2 ^ 52 + m.toNat := by
  rw [BitVec.toNat_append, ← Nat.shiftLeft_add_eq_or_of_lt m.isLt]
  rfl

theorem log2_leading (m : BitVec 52) : (1#1 ++ m).toNat.log2 = 52 := by
  have hm := m.isLt
  rw [toNat_leading]
  exact log2_eq (by omega) (by omega)

theorem pack_subnormal (sign : Sign) {m : BitVec 52} (hm : m ≠ 0#52) (h : 0 < m.toNat) :
    UnpackedFloat.pack Format.binary64 (.finite sign m.toNat (-1074) h)
      = packComponents Format.binary64 sign (0#11) m := by
  have hne : m.toNat ≠ 0 := fun h => hm (BitVec.eq_of_toNat_eq h)
  have hlog : m.toNat.log2 < 52 := (Nat.log2_lt hne).mpr m.isLt
  have hbits : ¬ m.toNat.log2 + 1 = Format.binary64.mantissaBits := by
    show ¬ m.toNat.log2 + 1 = 53
    omega
  unfold UnpackedFloat.pack
  dsimp only
  rw [if_neg (by decide), if_neg hbits, BitVec.ofNat_toNat]
  simp

theorem pack_normal (sign : Sign) {e : BitVec 11} {m : BitVec 52} (he : e ≠ -1#11)
    (h : 0 < (1#1 ++ m).toNat) :
    UnpackedFloat.pack Format.binary64 (.finite sign (1#1 ++ m).toNat (e.toNat - 1075) h)
      = packComponents Format.binary64 sign e m := by
  have hlog := log2_leading m
  have hlt : e.toNat < 2 ^ 11 := e.isLt
  have hne : e.toNat ≠ 2047 := fun h => he (BitVec.eq_of_toNat_eq h)
  have hbias : ((e.toNat : Int) - 1075 + Format.binary64.exponentBias + 52).toNat = e.toNat := by
    show ((e.toNat : Int) - 1075 + 1023 + 52).toNat = e.toNat
    omega
  have hmantissa : BitVec.ofNat 52 (2 ^ 52 + m.toNat) = m := by
    apply BitVec.eq_of_toNat_eq
    rw [BitVec.toNat_ofNat]
    have := m.isLt
    omega
  unfold UnpackedFloat.pack
  -- the widths of the format are numerals only up to unfolding it
  show (if 2 ^ 11 ≤ ((e.toNat : Int) - 1075 + Format.binary64.exponentBias + 52).toNat + 1 then _
    else if (1#1 ++ m).toNat.log2 + 1 = 53 then
      packComponents Format.binary64 sign
        (BitVec.ofNat 11 ((e.toNat : Int) - 1075 + Format.binary64.exponentBias + 52).toNat)
        (BitVec.ofNat 52 (1#1 ++ m).toNat)
    else _) = _
  rw [hbias, if_neg (by omega), if_pos (by omega), toNat_leading, hmantissa, BitVec.ofNat_toNat]
  simp

/-- The exponent of a number whose exponent field is zero. -/
theorem exponent_subnormal {e : BitVec 11} (he : e = 0#11) :
    (e.toNat : Int) - (Format.binary64.exponentBias + (52 : Nat)) + 1 = -1074 := by
  rw [he]
  rfl

/-- **Packing undoes unpacking.** -/
theorem pack_unpack (f : Float.Model) : Float.Model.pack f.unpack = f := by
  obtain ⟨bits, hvalid⟩ := f
  have hbits := packComponents_unpack bits.toBitVec
  unfold Float.Model.pack Float.Model.unpack UnpackedFloat.unpack
  congr 1
  refine UInt64.toBitVec_inj.mp ?_
  show UnpackedFloat.pack Format.binary64 _ = bits.toBitVec
  dsimp only
  split
  next hexponent =>
    split
    next hmantissa =>
      rw [hexponent, hmantissa] at hbits
      exact hbits
    next hmantissa => exact (hvalid.eq_packedNaN hexponent hmantissa).symm
  next hordinary =>
    split
    next hexponent =>
      split
      next hmantissa =>
        rw [hexponent, hmantissa] at hbits
        exact hbits
      next hmantissa =>
        rw [hexponent] at hbits
        rw [exponent_subnormal hexponent]
        exact (pack_subnormal _ hmantissa _).trans hbits
    next => exact (pack_normal _ hordinary _).trans hbits

/-! ## Rounding a result that is exact -/

/-- Rounding a result of the size of this number chooses the exponent that
the number has. -/
def Canonical (m : Nat) (e : Int) : Prop :=
  Format.binary64.targetExponent (totalExponent m e) = e

theorem targetExponent_eq (t : Int) :
    Format.binary64.targetExponent t = max (t - 53) (-1074) := rfl

theorem canonical_unpack {f : Float.Model} {s : Sign} {m : Nat} {e : Int} {hm : 0 < m}
    (h : f.unpack = .finite s m e hm) : Canonical m e := by
  unfold Canonical
  rw [targetExponent_eq]
  unfold Float.Model.unpack UnpackedFloat.unpack at h
  dsimp only at h
  split at h
  · -- an infinity or no number at all
    split at h <;> cases h
  split at h
  next hexponent =>
    split at h
    · cases h
    next =>
      -- no leading one: the exponent is the least there is
      have hlt : (@unpackMantissa Format.binary64 f.toBits.toBitVec).toNat < 2 ^ 52 :=
        BitVec.isLt _
      rw [exponent_subnormal hexponent] at h
      cases h
      have hlog := (Nat.log2_lt hm.ne').mpr hlt
      unfold totalExponent
      omega
  next hexponent =>
    -- behind a leading one the mantissa has all of its 53 bits
    have hpos : (@unpackExponent Format.binary64 f.toBits.toBitVec).toNat ≠ 0 :=
      fun hzero => hexponent (BitVec.eq_of_toNat_eq hzero)
    have hlog := log2_leading (@unpackMantissa Format.binary64 f.toBits.toBitVec)
    have hbias : (Format.binary64.exponentBias : Int) = 1023 := rfl
    cases h
    unfold totalExponent
    rw [hlog, hbias]
    omega

variable {m : Nat} {e : Int}

theorem shift_canonical (h : Canonical m e) :
    shiftToTargetExponent Format.binary64 m e .exact = (⟨m, false, false⟩, e) := by
  unfold shiftToTargetExponent shiftToExponent
  dsimp only
  rw [h, Int.sub_self]
  exact Prod.ext rfl (Int.add_zero e)

theorem log2_mul_two (hm : 0 < m) : (m * 2).log2 = m.log2 + 1 := by
  have hlow := Nat.log2_self_le hm.ne'
  have hhigh : m < 2 ^ (m.log2 + 1) := Nat.lt_log2_self
  refine log2_eq ?_ ?_
  · rw [Nat.pow_succ]
    exact Nat.mul_le_mul_right 2 hlow
  · rw [Nat.pow_succ 2 (m.log2 + 1)]
    exact Nat.mul_lt_mul_of_pos_right hhigh (by decide)

/-- A mantissa that is one bit too long loses that bit, which is zero. -/
theorem shift_double (hm : 0 < m) (h : Canonical m e) :
    shiftToTargetExponent Format.binary64 (m * 2) (e - 1) .exact = (⟨m, false, false⟩, e) := by
  have htotal : totalExponent (m * 2) (e - 1) = totalExponent m e := by
    unfold totalExponent
    rw [log2_mul_two hm]
    omega
  have hshift : (e - (e - 1)).toNat = 1 := by omega
  have hone : ExtendedMantissa.ofMantissaAndAccuracy (m * 2) .exact >>> 1
      = ⟨m, false, false⟩ := by
    show ExtendedMantissa.shiftRightOne ⟨m * 2, false, false⟩ = _
    simp [ExtendedMantissa.shiftRightOne]
  unfold shiftToTargetExponent shiftToExponent
  dsimp only
  rw [htotal, h, hshift, hone]
  simp

theorem round_of_shift {m' : Nat} {e' : Int} (hm : 0 < m) (h : Canonical m e) (s : Sign)
    (hshift : shiftToTargetExponent Format.binary64 m' e' .exact = (⟨m, false, false⟩, e)) :
    roundWithAccuracy Format.binary64 s m' e' .exact = .finite s m e hm := by
  have hrounded : (⟨m, false, false⟩ : ExtendedMantissa).roundedMantissa = m := rfl
  unfold roundWithAccuracy
  simp only [hshift, hrounded, shift_canonical h]
  rw [dif_neg hm.ne']

/-! ## The quotient -/

theorem unpack_one :
    (1 : Float).toModel.unpack = .finite .positive (2 ^ 52) (-52) (by decide) := by
  rfl

/-- The quotient of a number by one, before rounding, has the mantissa of
the number or twice that: its exponent is chosen for the smallest quotient
of two numbers of these sizes. -/
theorem divCore_one (h : Canonical m e) :
    divCore Format.binary64 m e (2 ^ 52) (-52) = (m, e, .exact)
      ∨ divCore Format.binary64 m e (2 ^ 52) (-52) = (m * 2, e - 1, .exact) := by
  have htarget : max (totalExponent m e - 53) (-1074) = e := h
  have hone : totalExponent (2 ^ 52) (-52) = 1 := by decide
  have hexponent : max (totalExponent m e - 1 - 53) (-1074) = e
      ∨ max (totalExponent m e - 1 - 53) (-1074) = e - 1 := by omega
  unfold divCore
  dsimp only
  rw [hone, targetExponent_eq]
  rcases hexponent with hsame | hless
  · left
    have hmin : min (e - -52) e = e := by omega
    have hshift : (e - -52 - e).toNat = 52 := by omega
    rw [hsame, hmin, hshift, Nat.shiftLeft_eq, Nat.mul_div_cancel _ (by decide),
      Nat.mul_mod_left]
    rfl
  · right
    have hmin : min (e - -52) (e - 1) = e - 1 := by omega
    have hshift : (e - -52 - (e - 1)).toNat = 53 := by omega
    have hdouble : m * 2 ^ 53 = m * 2 * 2 ^ 52 := by omega
    rw [hless, hmin, hshift, Nat.shiftLeft_eq, hdouble, Nat.mul_div_cancel _ (by decide),
      Nat.mul_mod_left]
    rfl

theorem div_unpack_one (f : Float.Model) :
    UnpackedFloat.div Format.binary64 f.unpack (1 : Float).toModel.unpack = f.unpack := by
  rw [unpack_one]
  cases hf : f.unpack with
  | infinity s => cases s <;> rfl
  | notANumber => rfl
  | zero s => cases s <;> rfl
  | finite s m e hm =>
    have h := canonical_unpack hf
    have hs : s / Sign.positive = s := by cases s <;> rfl
    unfold UnpackedFloat.div
    dsimp only
    rw [hs]
    rcases divCore_one h with hq | hq
    · rw [hq]
      exact round_of_shift hm h s (shift_canonical h)
    · rw [hq]
      exact round_of_shift hm h s (shift_double hm h)

/-- **Division by one changes no number.** -/
theorem div_one (x : Float) : x / 1 = x := by
  show Float.ofModel (Float.Model.pack
    (UnpackedFloat.div Format.binary64 x.toModel.unpack (1 : Float).toModel.unpack)) = x
  rw [div_unpack_one, pack_unpack]

end HostMetrics.Binary64
