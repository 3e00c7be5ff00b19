import Mathlib.Tactic.Lemma
import Retrace.Scene.Precision

/-!
Finite numbers stay finite in double precision.

A finite number of single precision has fewer digits than one of double precision and lies well
within its exponents, so nothing of it is rounded away and it does not become infinite.

* `Precision.round_eq`: a number that has digits to spare is written with more of them, not rounded;
* `Precision.unpack_of_ne`: the digits and the exponent that bits stand for;
  `Precision.isFinite_unpack`: which bits stand for a finite number;
* `Precision.Short`, `Precision.short_unpack`: the digits and the exponents of single precision;
* `Precision.isFinite_widen`: finite numbers widened;
* `Precision.zero_mul_eq`: zero times a finite number is a zero, of one sign or the other.
-/

namespace Retrace

namespace Precision

open Float.Model UnpackedFloat

variable {format : Format} {m : Nat} {e : Int}

/-! ### Digits to spare -/

/-- Zeros behind the mantissa do not move its first digit. -/
lemma totalExponent_shiftLeft (hm : m ≠ 0) (e : Int) (k : Nat) :
    totalExponent (m <<< k) (e - k) = totalExponent m e := by
  have hlog : (m <<< k).log2 = m.log2 + k := by
    induction k with
    | zero => rfl
    | succ k ih =>
        rw [Nat.shiftLeft_succ, Nat.log2_two_mul (by simpa using hm), ih, Nat.add_assoc]
  rw [totalExponent, totalExponent, hlog]
  omega

/-- A mantissa that has the exponent of its format keeps it. -/
lemma shiftToTargetExponent_eq (h : format.targetExponent (totalExponent m e) = e) :
    shiftToTargetExponent format m e .exact = (⟨m, false, false⟩, e) := by
  simp only [shiftToTargetExponent, h, shiftToExponent, Int.sub_self, Int.toNat_zero,
    Int.natCast_zero, Int.add_zero]
  rfl

/-- A mantissa that has the exponent of its format is not rounded. -/
lemma roundWithAccuracy_eq (sign : Sign) (hm : m ≠ 0)
    (h : format.targetExponent (totalExponent m e) = e) :
    roundWithAccuracy format sign m e .exact = .finite sign m e (Nat.pos_of_ne_zero hm) := by
  -- both shifts, before and after the rounding, find the exponent that they look for
  have hkept := shiftToTargetExponent_eq h
  rw [roundWithAccuracy, hkept]
  dsimp only [ExtendedMantissa.roundedMantissa, ExtendedMantissa.accuracy,
    Accuracy.roundToNearestEven]
  rw [hkept]
  exact dif_neg hm

/-- Where the format has an exponent that is no greater, only zeros are put behind the mantissa. -/
lemma round_eq (sign : Sign) (hm : m ≠ 0)
    (h : format.targetExponent (totalExponent m e) ≤ e) :
    ∃ mantissa pos, UnpackedFloat.round format sign m e
      = .finite sign mantissa (format.targetExponent (totalExponent m e)) pos := by
  generalize ht : format.targetExponent (totalExponent m e) = t at h
  have hexponent : e - (e - t).toNat = t := by omega
  have htotal := totalExponent_shiftLeft hm e (e - t).toNat
  rw [hexponent] at htotal
  have hne : m <<< (e - t).toNat ≠ 0 := by simpa using hm
  refine ⟨m <<< (e - t).toNat, Nat.pos_of_ne_zero hne, ?_⟩
  rw [UnpackedFloat.round, ht, decreaseExponent]
  dsimp only
  rw [hexponent]
  exact roundWithAccuracy_eq sign hne (htotal ▸ ht)

/-! ### What bits stand for -/

section

variable {b : BitVec format.numBits}

lemma log2_toNat_lt {width : Nat} {b : BitVec width} (hpos : 0 < b.toNat) :
    b.toNat.log2 < width :=
  (Nat.log2_lt (Nat.ne_of_gt hpos)).2 b.isLt

/-- No number is finite with all bits of its exponent set. -/
lemma isFinite_unpack_of_eq (h : unpackExponent b = -1#_) :
    (UnpackedFloat.unpack format b).isFinite = false := by
  unfold UnpackedFloat.unpack
  dsimp only
  rw [if_pos h]
  split <;> rfl

/-- With any other exponent a number is a zero, or it has the digits of its format and the exponent
that its bits name, or the next one if they name the least. -/
lemma unpack_of_ne (h : unpackExponent b ≠ -1#_) :
    (∃ sign, UnpackedFloat.unpack format b = .zero sign) ∨
    ∃ sign mantissa exponent pos,
      UnpackedFloat.unpack format b = .finite sign mantissa exponent pos ∧
      mantissa.log2 ≤ format.mantissaBitsWithoutImplicit ∧
      ∃ n : Nat, 0 < n ∧ (n = 1 ∨ n = (unpackExponent b).toNat) ∧
        exponent = n - (format.exponentBias + format.mantissaBitsWithoutImplicit) := by
  unfold UnpackedFloat.unpack
  dsimp only
  rw [if_neg h]
  by_cases hleast : unpackExponent b = 0#_
  · have hzero : (unpackExponent b).toNat = 0 := congrArg BitVec.toNat hleast
    rw [if_pos hleast]
    by_cases hmantissa : unpackMantissa b = 0#_
    · exact .inl ⟨_, dif_pos hmantissa⟩
    · have hpos : 0 < (unpackMantissa b).toNat :=
        Nat.pos_of_ne_zero fun hm => hmantissa (BitVec.eq_of_toNat_eq hm)
      rw [dif_neg hmantissa]
      exact .inr ⟨_, _, _, hpos, rfl, Nat.le_of_lt (log2_toNat_lt hpos), 1, Nat.one_pos, .inl rfl,
        by omega⟩
  · have hne : (unpackExponent b).toNat ≠ 0 := fun hn => hleast (BitVec.eq_of_toNat_eq hn)
    have hpos : 0 < (1#1 ++ unpackMantissa b).toNat := by
      rw [BitVec.toNat_append, BitVec.toNat_one Nat.one_pos, Nat.one_shiftLeft]
      exact Nat.lt_of_lt_of_le (Nat.two_pow_pos _) Nat.left_le_or
    have hdigits := log2_toNat_lt hpos
    rw [if_neg hleast]
    exact .inr ⟨_, _, _, hpos, rfl, by omega, _, Nat.pos_of_ne_zero hne, .inr rfl, rfl⟩

/-- A number is finite unless all bits of its exponent are set. -/
lemma isFinite_unpack :
    (UnpackedFloat.unpack format b).isFinite = true ↔
      unpackExponent b ≠ -1#_ := by
  constructor
  · intro hfinite h
    rw [isFinite_unpack_of_eq h] at hfinite
    cases hfinite
  · intro h
    obtain ⟨sign, hb⟩ | ⟨sign, mantissa, exponent, pos, hb, -⟩ := unpack_of_ne h <;>
      rw [hb] <;> rfl

end

/-! ### From single to double precision -/

/-- The number has at most as many digits as one of single precision, and an exponent of it. -/
def Short : UnpackedFloat → Prop
  | .finite _ mantissa exponent _ => mantissa.log2 < 24 ∧ -149 ≤ exponent ∧ exponent ≤ 104
  | _ => True

lemma short_unpack {b : BitVec 32} (h : (UnpackedFloat.unpack .binary32 b).isFinite = true) :
    Short (UnpackedFloat.unpack .binary32 b) := by
  have hbias : Format.binary32.exponentBias = 127 := rfl
  have hbits : Format.binary32.mantissaBitsWithoutImplicit = 23 := rfl
  have hexponent : (@unpackExponent .binary32 b).toNat < 256 := BitVec.isLt _
  have hspecial : @unpackExponent .binary32 b ≠ -1#_ :=
    isFinite_unpack.1 h
  have hlt : (@unpackExponent .binary32 b).toNat ≠ 255 := fun h =>
    hspecial (BitVec.eq_of_toNat_eq h)
  obtain ⟨sign, hb⟩ | ⟨sign, mantissa, exponent, pos, hb, hdigits, n, hpos, hn, he⟩ :=
    unpack_of_ne hspecial
  · rw [hb]
    trivial
  · rw [hb]
    rw [hbits] at hdigits
    rw [hbias, hbits] at he
    refine ⟨Nat.lt_succ_of_le hdigits, ?_, ?_⟩ <;> omega

lemma isFinite_pack (sign : Sign) (pos : 0 < m) (h : e ≤ 971) :
    (Float.Model.pack (.finite sign m e pos)).unpack.isFinite = true := by
  have hbias : Format.binary64.exponentBias = 1023 := rfl
  refine isFinite_unpack.2 ?_
  unfold Float.Model.pack UnpackedFloat.pack
  dsimp only
  rw [hbias]
  split
  · case isTrue hgreat =>
      have hbits : 2048 ≤ (e + 1023 + 52).toNat + 1 := hgreat
      omega
  · split
    · rw [unpackExponent_packComponents]
      intro heq
      have hbits : (e + 1023 + 52).toNat % 2048 = 2047 := congrArg BitVec.toNat heq
      omega
    · rw [unpackExponent_packComponents]
      decide

lemma isFinite_widen {x : Float32} (hx : x.isFinite) : (widen x).isFinite := by
  have hunpacked : x.toModel.unpack.isFinite = true := hx
  have hshort : Short x.toModel.unpack := short_unpack hunpacked
  rw [widen]
  cases hu : x.toModel.unpack with
  | infinity | notANumber =>
      rw [hu] at hunpacked
      cases hunpacked
  | zero sign => cases sign <;> decide
  | finite sign m e pos =>
      rw [hu] at hshort
      obtain ⟨hdigits, hlow, hhigh⟩ := hshort
      have htarget : Format.binary64.targetExponent (totalExponent m e)
          = max (m.log2 + 1 + e - 53) (-1074) := rfl
      obtain ⟨mantissa, hpos, hround⟩ :=
        @round_eq .binary64 m e sign (Nat.ne_of_gt pos) (by omega)
      have hnearest : nearest .binary64 (.finite sign m e pos) = .round .binary64 sign m e := rfl
      rw [hnearest, hround]
      exact isFinite_pack sign hpos (by omega)

/-! ### Zero -/

/-- A number that is not finite has no such product: zero times infinity is not a number. -/
lemma zero_mul_eq {x : Float} (hx : x.isFinite) : 0 * x = 0 ∨ 0 * x = -0 := by
  have hunpacked : x.toModel.unpack.isFinite = true := hx
  have hmul : 0 * x = ⟨Float.Model.pack
      (UnpackedFloat.mul .binary64 (.zero .positive) x.toModel.unpack)⟩ := rfl
  rw [hmul]
  cases hu : x.toModel.unpack with
  | infinity | notANumber =>
      rw [hu] at hunpacked
      cases hunpacked
  | zero sign | finite sign =>
      cases sign
      · exact .inr rfl
      · exact .inl rfl

end Precision

end Retrace
