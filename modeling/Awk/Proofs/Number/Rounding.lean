import Awk.Proofs.Number.Comparing

/-! Doubles as positions. The exact number that the bits of a double hold is the one that its
arithmetic takes it for; so a double that stands for an integer rounds to it, and a text that is an
integer of up to fifty-three bits is taken for that integer wherever it is rounded. -/

namespace Awk

open Float.Model Float.Model.UnpackedFloat

/-! What the bits hold. -/

namespace Binary64

def isNegative : Sign → Bool
  | .negative => true
  | .positive => false

/-- What arithmetic takes a double for, as an exact number. -/
def ofUnpacked : UnpackedFloat → Binary64
  | .notANumber => nan
  | .infinity s => infinite (isNegative s)
  | .zero s => finite ⟨isNegative s, 0, -1074⟩
  | .finite s m e _ => finite ⟨isNegative s, m, e⟩

variable (b : BitVec 64)

theorem toNat_unpackExponent :
    (@unpackExponent .binary64 b).toNat = b.toNat / 2 ^ 52 % 2048 := by
  show (b.toNat >>> 52) % 2 ^ 11 = _
  rw [Nat.shiftRight_eq_div_pow]

theorem toNat_unpackMantissa :
    (@unpackMantissa .binary64 b).toNat = b.toNat % 2 ^ 52 := by
  show (b.toNat >>> 0) % 2 ^ 52 = _
  rw [Nat.shiftRight_zero]

theorem isNegative_unpackSign :
    isNegative (Sign.ofBitVec (@unpackSign .binary64 b)) = (b.toNat / 2 ^ 63 == 1) := by
  have hsign : (@unpackSign .binary64 b).toNat = b.toNat / 2 ^ 63 := by
    have hlt := b.isLt
    show (b.toNat >>> 63) % 2 ^ 1 = _
    rw [Nat.shiftRight_eq_div_pow]
    omega
  unfold Sign.ofBitVec
  split
  · rename_i hzero
    rw [← hsign, hzero]
    rfl
  · rename_i hone
    have hone : @unpackSign .binary64 b = 1#1 :=
      (BitVec.eq_zero_or_eq_one _).resolve_left hone
    rw [← hsign, hone]
    rfl

/-- The bits of a double hold what its arithmetic takes it for. -/
theorem ofBits_eq (bits : UInt64) :
    ofBits bits = ofUnpacked (UnpackedFloat.unpack .binary64 bits.toBitVec) := by
  have hexponent := toNat_unpackExponent bits.toBitVec
  have hmantissa := toNat_unpackMantissa bits.toBitVec
  have hsign := isNegative_unpackSign bits.toBitVec
  have hones : @unpackExponent .binary64 bits.toBitVec = -1#11 ↔
      bits.toNat / 2 ^ 52 % 2048 = 2047 := by
    rw [← BitVec.toNat_inj, hexponent]
    rfl
  have hzeros : @unpackExponent .binary64 bits.toBitVec = 0#11 ↔
      bits.toNat / 2 ^ 52 % 2048 = 0 := by
    rw [← BitVec.toNat_inj, hexponent]
    rfl
  have hfraction : @unpackMantissa .binary64 bits.toBitVec = 0#52 ↔
      bits.toNat % 2 ^ 52 = 0 := by
    rw [← BitVec.toNat_inj, hmantissa]
    rfl
  unfold UnpackedFloat.unpack ofBits
  simp only [Nat.pow_eq, hones, hzeros]
  by_cases hall : bits.toNat / 2 ^ 52 % 2048 = 2047
  · by_cases hf : bits.toNat % 2 ^ 52 = 0
    · rw [if_pos hall, if_pos hf, if_pos hall, if_pos (hfraction.mpr hf)]
      exact congrArg infinite hsign.symm
    · rw [if_pos hall, if_neg hf, if_pos hall, if_neg (hfraction.not.mpr hf)]
      rfl
  · rw [if_neg hall, if_neg hall]
    by_cases hnone : bits.toNat / 2 ^ 52 % 2048 = 0
    · rw [if_pos hnone, if_pos hnone]
      by_cases hf : bits.toNat % 2 ^ 52 = 0
      · rw [dif_pos (hfraction.mpr hf), hf]
        exact congrArg (fun negative => finite ⟨negative, 0, -1074⟩) hsign.symm
      · rw [dif_neg (hfraction.not.mpr hf)]
        simp only [ofUnpacked, hsign, hmantissa, hexponent]
        rw [show bits.toBitVec.toNat / 2 ^ 52 % 2048 = 0 from hnone]
        rfl
    · rw [if_neg hnone, if_neg hnone]
      have hbits : (1#1 ++ @unpackMantissa .binary64 bits.toBitVec).toNat =
          2 ^ 52 + bits.toNat % 2 ^ 52 := by
        rw [BitVec.toNat_append, ← Nat.shiftLeft_add_eq_or_of_lt (BitVec.isLt _), hmantissa]
        rfl
      simp only [ofUnpacked, hsign, hexponent, hbits]
      rfl

theorem ofFloat_eq (x : Float) : ofFloat x = ofUnpacked x.toModel.unpack := ofBits_eq _

end Binary64

/-! Rounding. -/

namespace Dyadic

/-- A number that is an integer is rounded to it. -/
theorem round_of_ratio {d : Dyadic} {a : Nat} (h : d.ratio.1 = a * d.ratio.2) :
    d.round = if d.negative then -(a : Int) else a := by
  have hpos := d.ratio_den_pos
  have hquotient : (2 * d.ratio.1 + d.ratio.2) / (2 * d.ratio.2) = a := by
    rw [h, Nat.mul_left_comm, Nat.add_comm, Nat.add_mul_div_right _ _ (by omega),
      Nat.div_eq_of_lt (by omega), Nat.zero_add]
  rw [round, hquotient]
  rfl

theorem round_zero (negative : Bool) (e : Int) : round ⟨negative, 0, e⟩ = 0 := by
  have hratio : (ratio ⟨negative, 0, e⟩).1 = 0 * (ratio ⟨negative, 0, e⟩).2 := by
    rw [Nat.zero_mul]
    unfold ratio
    split
    · exact Nat.zero_mul _
    · rfl
  rw [round_of_ratio hratio]
  cases negative <;> rfl

/-- A number whose magnitude is an integer is that many times its denominator. -/
theorem ratio_scaled {negative : Bool} {m k a : Nat} (h : m * 2 ^ k = a * 2 ^ 52) :
    (ratio ⟨negative, m, k - 52⟩).1 = a * (ratio ⟨negative, m, k - 52⟩).2 := by
  have hpow : (1 : Nat) ≤ 2 ^ 52 := by decide
  unfold ratio
  simp only [Nat.pow_eq]
  split
  · have hsplit : 2 ^ k = 2 ^ ((k : Int) - 52).toNat * 2 ^ 52 := by
      rw [← Nat.pow_add]
      congr 1
      omega
    rw [hsplit, ← Nat.mul_assoc] at h
    rw [Nat.eq_of_mul_eq_mul_right hpow h, Nat.mul_one]
  · have hsplit : 2 ^ 52 = 2 ^ (-((k : Int) - 52)).toNat * 2 ^ k := by
      rw [← Nat.pow_add]
      congr 1
      omega
    rw [hsplit, ← Nat.mul_assoc] at h
    exact Nat.eq_of_mul_eq_mul_right (Nat.two_pow_pos k) h

end Dyadic

/-- A double that stands for an integer is rounded to it. -/
theorem StandsFor.rounded {x : Float} {i : Int} (h : StandsFor x.toModel.unpack i) :
    Float.rounded x = .int i := by
  unfold Float.rounded
  rw [Binary64.ofFloat_eq]
  generalize x.toModel.unpack = f at h ⊢
  cases h with
  | zero s => exact congrArg Rounded.int (Dyadic.round_zero _ _)
  | @finite s m k _ hpos hlow hhigh hk hi =>
    have hround (negative : Bool) {a : Nat} (ha : ((m * 2 ^ k : Nat) : Int) = a * 2 ^ 52) :
        Dyadic.round ⟨negative, m, k - 52⟩ = if negative then -(a : Int) else a :=
      Dyadic.round_of_ratio (Dyadic.ratio_scaled (by exact_mod_cast ha))
    -- The magnitude is that of the integer, whose sign is the double's.
    have hmagnitude : ((m * 2 ^ k : Nat) : Int) = i.natAbs * 2 ^ 52 := by
      cases s <;> simp only [Sign.apply] at hi <;> omega
    have hpositive := Nat.mul_pos hpos (Nat.two_pow_pos k)
    refine congrArg Rounded.int ((hround _ hmagnitude).trans ?_)
    cases s with
    | negative =>
      show -(i.natAbs : Int) = i
      simp only [Sign.apply] at hi
      omega
    | positive =>
      show (i.natAbs : Int) = i
      simp only [Sign.apply] at hi
      omega

/-- An integer of up to fifty-three bits is rounded to itself. -/
theorem Value.rounded_toReal {v : Value} {i : Int} (h : readInteger v.text = some i)
    (hi : i.natAbs ≤ 2 ^ 53) : Float.rounded v.toReal = .int i := by
  have hstands := (standsFor_toReal h).2
  rw [nearest_of_le hi] at hstands
  exact hstands.rounded

end Awk
