import Mathlib
import Awk.Number.Decimal
import Awk.Value

/-! The doubles of integers. A double keeps fifty-three bits of an integer: the double nearest to it
is the integer with the bits past these rounded off, a half going to the even neighbour. -/

namespace Awk

open Float.Model Float.Model.UnpackedFloat

/-- The bits of a number past the fifty-three that a double keeps. -/
def excessBits (n : Nat) : Nat := n.log2 - 52

/-- The natural number of fifty-three bits, with zeros behind them, that is nearest to one; halfway
between two it is the one that is even in the last of the bits. -/
def nearestNat (n : Nat) : Nat := Decimal.roundDiv n (2 ^ excessBits n) .toEven * 2 ^ excessBits n

/-- The integer that the double nearest to one stands for. -/
def nearest (i : Int) : Int := if i < 0 then -(nearestNat i.natAbs : Int) else nearestNat i.natAbs

variable {m n k d : Nat} {s : Sign}

/-! Dropping bits. -/

/-- A mantissa from which bits have been dropped: what is left, whether they come to half of its
last bit, and whether to more than nothing or half of it. -/
structure Dropped (m d : Nat) (em : ExtendedMantissa) : Prop where
  mantissa : em.mantissa = m / 2 ^ d
  roundBit : em.roundBit = decide (2 ^ d ≤ 2 * (m % 2 ^ d))
  stickyBit : em.stickyBit = decide (2 * (m % 2 ^ d) % 2 ^ d ≠ 0)

theorem Dropped.shiftRightOne {em : ExtendedMantissa} (h : Dropped m d em) :
    Dropped m (d + 1) em.shiftRightOne := by
  have hlt : m % 2 ^ d < 2 ^ d := Nat.mod_lt _ (Nat.two_pow_pos d)
  have hmod : m % 2 ^ (d + 1) = m % 2 ^ d + 2 ^ d * (m / 2 ^ d % 2) := Nat.mod_pow_succ
  have hpow : 2 ^ (d + 1) = 2 * 2 ^ d := Nat.pow_succ'
  have hsticky : 2 * (m % 2 ^ (d + 1)) % 2 ^ (d + 1) = 2 * (m % 2 ^ d) := by
    rw [hmod, hpow, Nat.mul_mod_mul_left, Nat.add_mul_mod_self_left, Nat.mod_mod]
  refine ⟨?_, ?_, ?_⟩
  · rw [ExtendedMantissa.shiftRightOne, h.mantissa, Nat.div_div_eq_div_mul, ← Nat.pow_succ]
  · rw [ExtendedMantissa.shiftRightOne, h.mantissa, hmod, hpow]
    obtain hbit | hbit := Nat.mod_two_eq_zero_or_one (m / 2 ^ d)
    · rw [hbit, eq_comm, bne_self_eq_false, decide_eq_false_iff_not]
      omega
    · rw [hbit, eq_comm]
      exact decide_eq_true (by omega)
  · rw [ExtendedMantissa.shiftRightOne, h.roundBit, h.stickyBit, hsticky, ← Bool.decide_or,
      decide_eq_decide]
    by_cases hhalf : 2 ^ d ≤ 2 * (m % 2 ^ d)
    · have hpos := Nat.two_pow_pos d
      exact iff_of_true (.inl hhalf) (by omega)
    · have hsmall : 2 * (m % 2 ^ d) % 2 ^ d = 2 * (m % 2 ^ d) := Nat.mod_eq_of_lt (by omega)
      rw [hsmall, or_iff_right hhalf]

theorem dropped_shiftRight (m d : Nat) :
    Dropped m d (ExtendedMantissa.ofMantissaAndAccuracy m .exact >>> d) := by
  induction d with
  | zero =>
    show Dropped m 0 ⟨m, false, false⟩
    exact ⟨(Nat.div_one m).symm, by simp [Nat.mod_one], by simp [Nat.mod_one]⟩
  | succ d ih => exact ih.shiftRightOne

/-- Bits are dropped by rounding to the nearest. -/
theorem Dropped.roundedMantissa {em : ExtendedMantissa} (h : Dropped m d em) :
    em.roundedMantissa = Decimal.roundDiv m (2 ^ d) .toEven := by
  have hlt : m % 2 ^ d < 2 ^ d := Nat.mod_lt _ (Nat.two_pow_pos d)
  obtain ⟨q, round, sticky⟩ := em
  obtain ⟨rfl, rfl, rfl⟩ := h
  unfold Decimal.roundDiv
  obtain hless | heq | hmore := Nat.lt_trichotomy (2 * (m % 2 ^ d)) (2 ^ d)
  · simp only [hless, if_true, decide_eq_false (Nat.not_le.mpr hless)]
    cases decide (2 * (m % 2 ^ d) % 2 ^ d ≠ 0) <;> rfl
  · simp only [heq, lt_irrefl, if_false, le_refl, decide_true, Nat.mod_self, ne_eq,
      not_true_eq_false, decide_false]
    show m / 2 ^ d + m / 2 ^ d % 2 = _
    split <;> omega
  · have hsticky : 2 * (m % 2 ^ d) % 2 ^ d ≠ 0 := by
      rw [Nat.mod_eq_sub_mod hmore.le, Nat.mod_eq_of_lt (by omega)]
      omega
    simp only [hmore, hmore.le, hmore.not_gt, if_true, if_false, decide_true,
      decide_eq_true hsticky]
    rfl

/-! Rounding a quotient. -/

namespace Decimal

variable {a b den : Nat} {t : Tie}

theorem roundDiv_mul_right (a den : Nat) (t : Tie) (h : 0 < b) :
    roundDiv (a * b) (den * b) t = roundDiv a den t := by
  have hless (x y : Nat) : 2 * (x * b) < y * b ↔ 2 * x < y := by
    rw [← Nat.mul_assoc, Nat.mul_lt_mul_right h]
  have hmore (x y : Nat) : y * b < 2 * (x * b) ↔ y < 2 * x := by
    rw [← Nat.mul_assoc, Nat.mul_lt_mul_right h]
  simp only [roundDiv, Nat.mul_div_mul_right _ _ h, Nat.mul_mod_mul_right, hless, hmore]

theorem roundDiv_one (a : Nat) (t : Tie) : roundDiv a 1 t = a := by
  simp [roundDiv, Nat.mod_one]

theorem roundDiv_mul_self (a : Nat) (t : Tie) (h : 0 < b) : roundDiv (a * b) b t = a := by
  have hmul := roundDiv_mul_right a 1 t h
  rwa [Nat.one_mul, roundDiv_one] at hmul

theorem div_le_roundDiv (a den : Nat) (t : Tie) : a / den ≤ roundDiv a den t := by
  unfold roundDiv
  cases t <;> dsimp only <;> split_ifs <;> omega

theorem roundDiv_le (a den : Nat) (t : Tie) : roundDiv a den t ≤ a / den + 1 := by
  unfold roundDiv
  cases t <;> dsimp only <;> split_ifs <;> omega

theorem roundDiv_mono (h : a ≤ b) (den : Nat) (t : Tie) : roundDiv a den t ≤ roundDiv b den t := by
  obtain hlt | heq := Nat.lt_or_eq_of_le (Nat.div_le_div_right (c := den) h)
  · exact (roundDiv_le a den t).trans ((Nat.succ_le_of_lt hlt).trans (div_le_roundDiv b den t))
  · have hmod : a % den ≤ b % den := by
      have ha := Nat.div_add_mod a den
      have hb := Nat.div_add_mod b den
      rw [← heq] at hb
      omega
    unfold roundDiv
    rw [heq]
    cases t <;> dsimp only <;> split_ifs <;> omega

end Decimal

/-! Rounding an integer to a double. -/

theorem log2_mul_two_pow (hn : n ≠ 0) (c : Nat) : (n * 2 ^ c).log2 = n.log2 + c := by
  have hpow := Nat.two_pow_pos c
  rw [Nat.log2_eq_iff (Nat.mul_ne_zero hn hpow.ne'), Nat.pow_add, Nat.add_right_comm, Nat.pow_add]
  exact ⟨Nat.mul_le_mul_right _ (Nat.log2_self_le hn),
    Nat.mul_lt_mul_of_pos_right Nat.lt_log2_self hpow⟩

/-- A double that stands for an integer: a zero, or fifty-three bits with an exponent. -/
inductive StandsFor : UnpackedFloat → Int → Prop
  | zero (s : Sign) : StandsFor (.zero s) 0
  | finite {s : Sign} {m k : Nat} {i : Int} (hpos : 0 < m) : 2 ^ 52 ≤ m → m < 2 ^ 53 → k ≤ 1023 →
      s.apply (m * 2 ^ k : Nat) = i * 2 ^ 52 → StandsFor (.finite s m (k - 52) hpos) i

theorem targetExponent_eq {e : Int} (h : 52 ≤ m.log2) (he : -1074 ≤ e) :
    Format.binary64.targetExponent (totalExponent m e) = m.log2 + e - 52 := by
  simp only [Format.targetExponent, totalExponent, Format.mantissaBits, Format.minExponent]
  omega

theorem shiftToTargetExponent_normal {e : Int} (h : m.log2 = 52) (he : -1074 ≤ e) :
    shiftToTargetExponent .binary64 m e .exact = (⟨m, false, false⟩, e) := by
  rw [shiftToTargetExponent, targetExponent_eq h.ge he, shiftToExponent, h,
    show ((52 : Nat) + e - 52 - e).toNat = 0 by omega]
  exact Prod.ext rfl (by simp)

/-- Rounding up may carry into a fifty-fourth bit, which is dropped again. -/
theorem shiftToTargetExponent_carry {e : Int} (he : -1074 ≤ e) :
    shiftToTargetExponent .binary64 (2 ^ 53) e .exact = (⟨2 ^ 52, false, false⟩, e + 1) := by
  have hlog : (2 ^ 53 : Nat).log2 = 53 := Nat.log2_two_pow
  rw [shiftToTargetExponent, targetExponent_eq (hlog ▸ by decide) he, shiftToExponent, hlog,
    show ((53 : Nat) + e - 52 - e).toNat = 1 by omega]
  rfl

theorem log2_normal (hlow : 2 ^ 52 ≤ m) (hhigh : m < 2 ^ 53) : m.log2 = 52 :=
  (Nat.log2_eq_iff (by omega)).mpr ⟨hlow, hhigh⟩

theorem roundWithAccuracy_normal {e : Int} (hpos : 0 < m) (h : m.log2 = 52) (he : -1074 ≤ e) :
    roundWithAccuracy .binary64 s m e .exact = .finite s m e hpos := by
  have hrounded : (ExtendedMantissa.mk m false false).roundedMantissa = m := rfl
  rw [roundWithAccuracy]
  simp only [shiftToTargetExponent_normal h he, hrounded, hpos.ne', dite_false]

/-- The mantissa of fifty-three bits of a number that is written with enough zeros behind it. -/
theorem roundDiv_bounds (h : 52 ≤ m.log2) :
    2 ^ 52 ≤ Decimal.roundDiv m (2 ^ (m.log2 - 52)) .toEven ∧
      Decimal.roundDiv m (2 ^ (m.log2 - 52)) .toEven ≤ 2 ^ 53 := by
  have hne : m ≠ 0 := by
    rintro rfl
    exact absurd h (by decide)
  have hpow := Nat.two_pow_pos (m.log2 - 52)
  have hlow : 2 ^ 52 ≤ m / 2 ^ (m.log2 - 52) := by
    rw [Nat.le_div_iff_mul_le hpow, ← Nat.pow_add, Nat.add_sub_cancel' h]
    exact Nat.log2_self_le hne
  have hhigh : m / 2 ^ (m.log2 - 52) < 2 ^ 53 := by
    rw [Nat.div_lt_iff_lt_mul hpow, ← Nat.pow_add, show 53 + (m.log2 - 52) = m.log2 + 1 by omega]
    exact Nat.lt_log2_self
  have hdown := Decimal.div_le_roundDiv m (2 ^ (m.log2 - 52)) .toEven
  have hup := Decimal.roundDiv_le m (2 ^ (m.log2 - 52)) .toEven
  omega

theorem nearestNat_of_lt (h : n < 2 ^ 53) : nearestNat n = n := by
  have hexcess : excessBits n = 0 := by
    unfold excessBits
    by_cases hn : n = 0
    · rw [hn]
      rfl
    · have hlog := (Nat.log2_lt hn).mpr h
      omega
  rw [nearestNat, hexcess, Nat.pow_zero, Nat.mul_one, Decimal.roundDiv_one]

/-- That mantissa makes up the nearest of the numbers of fifty-three bits. -/
theorem roundDiv_eq_nearestNat {c : Nat} (hn : n ≠ 0) (hc : 52 ≤ n.log2 + c) :
    Decimal.roundDiv (n * 2 ^ c) (2 ^ (n.log2 + c - 52)) .toEven * 2 ^ n.log2 =
      nearestNat n * 2 ^ 52 := by
  -- A number of fewer bits is not rounded: its mantissa ends in zeros that are dropped again.
  by_cases hlog : 52 ≤ n.log2
  · rw [show n.log2 + c - 52 = excessBits n + c by unfold excessBits; omega, Nat.pow_add,
      Decimal.roundDiv_mul_right _ _ _ (Nat.two_pow_pos c), nearestNat, Nat.mul_assoc,
      ← Nat.pow_add, show excessBits n + 52 = n.log2 by unfold excessBits; omega]
  · have hsplit : n * 2 ^ c = n * 2 ^ (52 - n.log2) * 2 ^ (n.log2 + c - 52) := by
      rw [Nat.mul_assoc, ← Nat.pow_add]
      congr 2
      omega
    have hlt : n < 2 ^ 53 := (Nat.log2_lt hn).mp (by omega)
    rw [hsplit, Decimal.roundDiv_mul_self _ _ (Nat.two_pow_pos _), nearestNat_of_lt hlt,
      Nat.mul_assoc, ← Nat.pow_add, show 52 - n.log2 + n.log2 = 52 by omega]

/-- What is made of a rounded mantissa, with or without a carry. -/
theorem standsFor_carry {r : Nat} {i : Int} (hlow : 2 ^ 52 ≤ r) (hhigh : r ≤ 2 ^ 53)
    (hk : k ≤ 1022) (hvalue : s.apply (r * 2 ^ k : Nat) = i * 2 ^ 52) :
    StandsFor
      (let (em, e) := shiftToTargetExponent .binary64 r ((k : Int) - 52) .exact
      if h : em.mantissa = 0 then .zero s
      else .finite s em.mantissa e (Nat.pos_of_ne_zero h)) i := by
  -- Only a mantissa of all ones carries, and what it carries into is a power of two.
  obtain hlt | rfl := Nat.lt_or_eq_of_le hhigh
  · have hpos : 0 < r := by omega
    simp only [shiftToTargetExponent_normal (log2_normal hlow hlt) (e := (k : Int) - 52) (by omega),
      hpos.ne', dite_false]
    exact .finite hpos hlow hlt (by omega) hvalue
  · have hexponent : (k : Int) - 52 + 1 = ((k + 1 : Nat) : Int) - 52 := by omega
    have hcarry : 2 ^ 52 * 2 ^ (k + 1) = 2 ^ 53 * 2 ^ k := by ring
    simp only [shiftToTargetExponent_carry (e := (k : Int) - 52) (by omega), hexponent]
    exact .finite (by decide) le_rfl (by decide) (by omega) (hcarry ▸ hvalue)

theorem standsFor_round {c : Nat} (hn : n ≠ 0) (hmax : n.log2 ≤ 1022) (hc : 52 ≤ n.log2 + c)
    (hc' : c ≤ 1074) :
    StandsFor (roundWithAccuracy .binary64 .positive (n * 2 ^ c) (-c) .exact) (nearestNat n) := by
  have hlog : (n * 2 ^ c).log2 = n.log2 + c := log2_mul_two_pow hn c
  have htarget : Format.binary64.targetExponent (totalExponent (n * 2 ^ c) (-c)) =
      (n.log2 : Int) - 52 := by
    rw [targetExponent_eq (hlog ▸ hc) (by omega), hlog]
    omega
  have hshift : ((n.log2 : Int) - 52 - -c).toNat = n.log2 + c - 52 := by omega
  have hfirst : shiftToTargetExponent .binary64 (n * 2 ^ c) (-c) .exact =
      (ExtendedMantissa.ofMantissaAndAccuracy (n * 2 ^ c) .exact >>> (n.log2 + c - 52),
        (n.log2 : Int) - 52) := by
    rw [shiftToTargetExponent, htarget, shiftToExponent, hshift]
    exact Prod.ext rfl (by dsimp only; omega)
  obtain ⟨hlow, hhigh⟩ := roundDiv_bounds (hlog ▸ hc)
  rw [hlog] at hlow hhigh
  rw [roundWithAccuracy]
  simp only [hfirst, (dropped_shiftRight _ _).roundedMantissa]
  refine standsFor_carry hlow hhigh hmax ?_
  show ((_ : Nat) : Int) = _
  exact_mod_cast roundDiv_eq_nearestNat hn hc

/-! The bits of such a double hold it. -/

theorem unpackSign_packComponents (spec : Format) (s : Sign) (e : BitVec spec.exponentBits)
    (m : BitVec spec.mantissaBitsWithoutImplicit) :
    unpackSign (packComponents spec s e m) = s.toBitVec := by
  ext i hi
  obtain rfl : i = 0 := by omega
  simp [unpackSign, packComponents, BitVec.getLsbD_append, BitVec.getElem_append]

theorem ofBitVec_toBitVec (s : Sign) : Sign.ofBitVec s.toBitVec = s := by
  cases s <;> rfl

/-- The bits of a double with an exponent of its own give its mantissa a leading one. -/
theorem unpack_packComponents {e : BitVec 11} (hzero : e ≠ 0#11) (hones : e ≠ -1#11)
    {b : BitVec 52} (hpos : 0 < m) (hm : (1#1 ++ b).toNat = m) :
    UnpackedFloat.unpack .binary64 (packComponents .binary64 s e b) =
      .finite s m (e.toNat - 1075) hpos := by
  subst hm
  simp only [UnpackedFloat.unpack, unpackMantissa_packComponents, unpackExponent_packComponents,
    unpackSign_packComponents, ofBitVec_toBitVec, hzero, hones, if_false]
  rfl

theorem pack_finite (hpos : 0 < m) (hlow : 2 ^ 52 ≤ m) (hhigh : m < 2 ^ 53) (hk : k ≤ 1023) :
    UnpackedFloat.pack .binary64 (.finite s m (k - 52) hpos) =
      packComponents .binary64 s (BitVec.ofNat 11 (k + 1023)) (BitVec.ofNat 52 m) := by
  have hbiased : ((k : Int) - 52 + Format.binary64.exponentBias + (52 : Nat)).toNat = k + 1023 := by
    simp only [Format.exponentBias]
    omega
  have hmantissa : (52 + 1 : Nat) = Format.binary64.mantissaBits := rfl
  simp only [UnpackedFloat.pack, hbiased, log2_normal hlow hhigh, hmantissa, if_true]
  exact if_neg (by omega)

/-- The bits of a double of fifty-three bits give it back. -/
theorem unpack_pack_finite (hpos : 0 < m) (hlow : 2 ^ 52 ≤ m) (hhigh : m < 2 ^ 53)
    (hk : k ≤ 1023) :
    (Float.Model.pack (.finite s m (k - 52) hpos)).unpack = .finite s m (k - 52) hpos := by
  have hexponent : (BitVec.ofNat 11 (k + 1023)).toNat = k + 1023 := by
    rw [BitVec.toNat_ofNat]
    omega
  have hnormal : BitVec.ofNat 11 (k + 1023) ≠ 0#11 := by
    intro h
    have hzero := congrArg BitVec.toNat h
    rw [hexponent] at hzero
    simp at hzero
  have hnumber : BitVec.ofNat 11 (k + 1023) ≠ -1#11 := by
    intro h
    have hones := congrArg BitVec.toNat h
    rw [hexponent] at hones
    simp at hones
    omega
  have hmantissa : (1#1 ++ BitVec.ofNat 52 m).toNat = m := by
    rw [BitVec.toNat_append, ← Nat.shiftLeft_add_eq_or_of_lt (BitVec.isLt _), BitVec.toNat_ofNat,
      Nat.shiftLeft_eq]
    simp
    omega
  show UnpackedFloat.unpack .binary64 (UnpackedFloat.pack .binary64 _) = _
  rw [pack_finite hpos hlow hhigh hk, unpack_packComponents hnormal hnumber hpos hmantissa,
    hexponent, show ((k + 1023 : Nat) : Int) - 1075 = k - 52 by omega]

theorem StandsFor.unpack_pack {f : UnpackedFloat} {i : Int} (h : StandsFor f i) :
    (Float.Model.pack f).unpack = f := by
  cases h with
  | zero s => cases s <;> rfl
  | finite hpos hlow hhigh hk => exact unpack_pack_finite hpos hlow hhigh hk

/-! What negation and comparison make of what doubles stand for. -/

theorem compare_scaled {a b : Nat} {i j : Int} (ha : (a : Int) = i * 2 ^ 52)
    (hb : (b : Int) = j * 2 ^ 52) : compare a b = compare i j := by
  obtain h | h | h := Nat.lt_trichotomy a b
  · rw [compare_lt_iff_lt.mpr h, eq_comm, compare_lt_iff_lt]
    omega
  · rw [compare_eq_iff_eq.mpr h, eq_comm, compare_eq_iff_eq]
    omega
  · rw [compare_gt_iff_gt.mpr h, eq_comm, compare_gt_iff_gt]
    omega

theorem swap_compare_neg (i j : Int) : (compare (-i) (-j)).swap = compare i j := by
  obtain h | rfl | h := Int.lt_trichotomy i j
  · rw [compare_lt_iff_lt.mpr h, compare_gt_iff_gt.mpr (Int.neg_lt_neg h)]
    rfl
  · rw [compare_eq_iff_eq.mpr rfl, compare_eq_iff_eq.mpr rfl]
    rfl
  · rw [compare_gt_iff_gt.mpr h, compare_lt_iff_lt.mpr (Int.neg_lt_neg h)]
    rfl

/-- Of two mantissas of fifty-three bits the one with the greater exponent is greater. -/
theorem compare_magnitude {m' k' : Nat} (hlow : 2 ^ 52 ≤ m) (hhigh : m < 2 ^ 53)
    (hlow' : 2 ^ 52 ≤ m') (hhigh' : m' < 2 ^ 53) :
    (compare ((k : Int) - 52) (k' - 52)).then (compare m m') =
      compare (m * 2 ^ k) (m' * 2 ^ k') := by
  have hless {m k m' k' : Nat} (hhigh : m < 2 ^ 53) (hlow' : 2 ^ 52 ≤ m') (hk : k < k') :
      m * 2 ^ k < m' * 2 ^ k' :=
    calc m * 2 ^ k < 2 ^ 53 * 2 ^ k := Nat.mul_lt_mul_of_pos_right hhigh (Nat.two_pow_pos k)
      _ = 2 ^ 52 * 2 ^ (k + 1) := by ring
      _ ≤ m' * 2 ^ k' := Nat.mul_le_mul hlow' (Nat.pow_le_pow_right (by decide) hk)
  obtain h | rfl | h := Nat.lt_trichotomy k k'
  · rw [compare_lt_iff_lt.mpr (show (k : Int) - 52 < k' - 52 by omega),
      compare_lt_iff_lt.mpr (hless hhigh hlow' h)]
    rfl
  · have hpow := Nat.two_pow_pos k
    rw [compare_eq_iff_eq.mpr rfl, Ordering.then]
    obtain h | rfl | h := Nat.lt_trichotomy m m'
    · rw [compare_lt_iff_lt.mpr h, compare_lt_iff_lt.mpr (Nat.mul_lt_mul_of_pos_right h hpow)]
    · rw [compare_eq_iff_eq.mpr rfl, compare_eq_iff_eq.mpr rfl]
    · rw [compare_gt_iff_gt.mpr h, compare_gt_iff_gt.mpr (Nat.mul_lt_mul_of_pos_right h hpow)]
  · rw [compare_gt_iff_gt.mpr (show (k' : Int) - 52 < k - 52 by omega),
      compare_gt_iff_gt.mpr (hless hhigh' hlow h)]
    rfl

namespace StandsFor

variable {f g : UnpackedFloat} {i j : Int}

theorem neg (h : StandsFor f i) : StandsFor f.neg (-i) := by
  cases h with
  | zero s => exact .zero (-s)
  | @finite s m k _ hpos hlow hhigh hk hi =>
    refine .finite hpos hlow hhigh hk ?_
    rw [Int.neg_mul, ← hi]
    cases s with
    | negative => exact (Int.neg_neg _).symm
    | positive => rfl

theorem compare (hf : StandsFor f i) (hg : StandsFor g j) : f.compare g = some (compare i j) := by
  have hmagnitude {m k : Nat} (hpos : 0 < m) : 0 < m * 2 ^ k :=
    Nat.mul_pos hpos (Nat.two_pow_pos k)
  cases hf with
  | zero s =>
    cases hg with
    | zero s' => rfl
    | @finite s' m' k' _ hpos' _ _ _ hj =>
      have hpos' := hmagnitude hpos' (k := k')
      cases s' with
      | negative =>
        rw [compare_gt_iff_gt.mpr (by simp only [Sign.apply] at hj; omega)]
        rfl
      | positive =>
        rw [compare_lt_iff_lt.mpr (by simp only [Sign.apply] at hj; omega)]
        rfl
  | @finite s m k _ hpos hlow hhigh _ hi =>
    have hpos := hmagnitude hpos (k := k)
    cases hg with
    | zero s' =>
      cases s with
      | negative =>
        rw [compare_lt_iff_lt.mpr (by simp only [Sign.apply] at hi; omega)]
        rfl
      | positive =>
        rw [compare_gt_iff_gt.mpr (by simp only [Sign.apply] at hi; omega)]
        rfl
    | @finite s' m' k' _ hpos' hlow' hhigh' _ hj =>
      have hpos' := hmagnitude hpos' (k := k')
      have hcompare := @compare_magnitude m k m' k' hlow hhigh hlow' hhigh'
      cases s <;> cases s' <;> simp only [Sign.apply] at hi hj
      · have hi' : ((m * 2 ^ k : Nat) : Int) = -i * 2 ^ 52 := by omega
        have hj' : ((m' * 2 ^ k' : Nat) : Int) = -j * 2 ^ 52 := by omega
        rw [← swap_compare_neg, ← compare_scaled hi' hj', ← hcompare]
        rfl
      · rw [compare_lt_iff_lt.mpr (by omega)]
        rfl
      · rw [compare_gt_iff_gt.mpr (by omega)]
        rfl
      · rw [← compare_scaled hi hj, ← hcompare]
        rfl

variable {x y : Float}

theorem lt_iff (hx : StandsFor x.toModel.unpack i) (hy : StandsFor y.toModel.unpack j) :
    x < y ↔ i < j := by
  have hmodel : x < y ↔ x.toModel.unpack.compare y.toModel.unpack = some .lt :=
    decide_eq_true_iff.trans beq_iff_eq
  rw [hmodel, hx.compare hy, Option.some_inj, compare_lt_iff_lt]

theorem beq_iff (hx : StandsFor x.toModel.unpack i) (hy : StandsFor y.toModel.unpack j) :
    (x == y) = true ↔ i = j := by
  show (x.toModel.unpack.compare y.toModel.unpack == some .eq) = true ↔ _
  rw [hx.compare hy, beq_iff_eq, Option.some_inj, compare_eq_iff_eq]

theorem neg_float (h : StandsFor x.toModel.unpack i) : StandsFor (-x).toModel.unpack (-i) := by
  show StandsFor (Float.Model.pack x.toModel.unpack.neg).unpack _
  rw [h.neg.unpack_pack]
  exact h.neg

end StandsFor

/-! The doubles that integers become. -/

theorem ofNat_eq (hn : n ≠ 0) (h : n < 2 ^ 53) :
    UnpackedFloat.ofNat .binary64 n =
      .finite .positive (n * 2 ^ (52 - n.log2)) ((n.log2 : Nat) - 52)
        (Nat.mul_pos (Nat.pos_of_ne_zero hn) (Nat.two_pow_pos _)) := by
  have hlog : n.log2 < 53 := (Nat.log2_lt hn).mpr h
  have hpositive : compare (n : Int) 0 = .gt := compare_gt_iff_gt.mpr (by omega)
  have htarget : Format.binary64.targetExponent (totalExponent n 0) = (n.log2 : Int) - 52 := by
    simp only [Format.targetExponent, totalExponent, Format.mantissaBits, Format.minExponent]
    omega
  have hshift : ((0 : Int) - ((n.log2 : Int) - 52)).toNat = 52 - n.log2 := by omega
  have hmantissa : (n * 2 ^ (52 - n.log2)).log2 = 52 := by
    rw [log2_mul_two_pow hn]
    omega
  rw [UnpackedFloat.ofNat, UnpackedFloat.ofInt, UnpackedFloat.normalize, hpositive]
  simp only [Int.toNat_natCast, UnpackedFloat.round, htarget, decreaseExponent, hshift,
    Nat.shiftLeft_eq]
  rw [show (0 : Int) - (52 - n.log2 : Nat) = (n.log2 : Nat) - 52 by omega,
    roundWithAccuracy_normal _ hmantissa (by omega)]

theorem unpack_one : (Float.ofBits 0x3FF0000000000000).toModel.unpack =
    .finite .positive (2 ^ 52) (-52) (by decide) := by rfl

theorem unpack_toFloat (hn : n ≠ 0) (h : n < 2 ^ 53) :
    n.toUInt64.toFloat.toModel.unpack =
      .finite .positive (n * 2 ^ (52 - n.log2)) ((n.log2 : Nat) - 52)
        (Nat.mul_pos (Nat.pos_of_ne_zero hn) (Nat.two_pow_pos _)) := by
  have hlog : n.log2 < 53 := (Nat.log2_lt hn).mpr h
  have htoNat : n.toUInt64.toNat = n := UInt64.toNat_ofNat_of_lt' (by simp [UInt64.size]; omega)
  have hmantissa : (n * 2 ^ (52 - n.log2)).log2 = 52 := by
    rw [log2_mul_two_pow hn]
    omega
  have hpos := Nat.mul_pos (Nat.pos_of_ne_zero hn) (Nat.two_pow_pos (52 - n.log2))
  obtain ⟨hlow, hhigh⟩ := (Nat.log2_eq_iff hpos.ne').mp hmantissa
  show (Float.Model.pack (UnpackedFloat.ofNat .binary64 n.toUInt64.toNat)).unpack = _
  rw [htoNat, ofNat_eq hn h, unpack_pack_finite hpos hlow hhigh (by omega)]

theorem mul_finite {m' : Nat} {e e' : Int} (hpos : 0 < m) (hpos' : 0 < m') :
    UnpackedFloat.mul .binary64 (.finite .positive m e hpos) (.finite .positive m' e' hpos') =
      roundWithAccuracy .binary64 .positive (m * m') (e + e') .exact := rfl

/-- A small integer is a double as it is, and is multiplied by one. -/
theorem standsFor_small (hn : n ≠ 0) (h : n < 2 ^ 53) :
    StandsFor (Float.ofScientific n false 0).toModel.unpack (nearestNat n) := by
  have hlog : n.log2 < 53 := (Nat.log2_lt hn).mpr h
  rw [Float.ofScientific, dif_pos ⟨h, by decide⟩]
  show StandsFor (Float.Model.pack (UnpackedFloat.mul .binary64 n.toUInt64.toFloat.toModel.unpack
    (Float.ofBits 0x3FF0000000000000).toModel.unpack)).unpack _
  have hround : UnpackedFloat.mul .binary64 n.toUInt64.toFloat.toModel.unpack
      (Float.ofBits 0x3FF0000000000000).toModel.unpack =
        roundWithAccuracy .binary64 .positive (n * 2 ^ (104 - n.log2)) (-(104 - n.log2 : Nat))
          .exact := by
    rw [unpack_toFloat hn h, unpack_one, mul_finite, Nat.mul_assoc, ← Nat.pow_add,
      show 52 - n.log2 + 52 = 104 - n.log2 by omega,
      show ((n.log2 : Nat) : Int) - 52 + -52 = -(104 - n.log2 : Nat) by omega]
  have hstands := standsFor_round hn (c := 104 - n.log2) (by omega) (by omega) (by omega)
  rw [hround, hstands.unpack_pack]
  exact hstands

/-- Writing an integer as a double rounds it to the nearest. -/
theorem standsFor_ofScientific (h : n.log2 ≤ 1022) :
    StandsFor (Float.ofScientific n false 0).toModel.unpack (nearestNat n) := by
  by_cases hn : n = 0
  · subst hn
    have hzero : (Float.ofScientific 0 false 0).toModel.unpack = .zero .positive := by rfl
    rw [hzero]
    exact .zero _
  obtain hsmall | hlarge := Nat.lt_or_ge n (2 ^ 53)
  · exact standsFor_small hn hsmall
  · rw [Float.ofScientific, dif_neg (by omega)]
    show StandsFor (Float.Model.pack (UnpackedFloat.ofScientific .binary64 n 0)).unpack _
    have hround : UnpackedFloat.ofScientific .binary64 n 0 =
        roundWithAccuracy .binary64 .positive (n * 2 ^ 53) (-(53 : Nat)) .exact := by
      have hnonneg : ¬(0 : Int) < -((2 ^ Format.binary64.exponentBits : Int) + n.log2) := by
        show ¬(0 : Int) < -((2 ^ 11 : Int) + n.log2)
        omega
      rw [UnpackedFloat.ofScientific, dif_neg hn, if_neg (by decide), if_neg hnonneg,
        if_pos le_rfl, mul_finite, Nat.shiftLeft_eq, Int.toNat_zero, Nat.pow_zero, Nat.mul_one,
        Int.add_zero]
      rfl
    have hstands := standsFor_round hn h (c := 53) (by omega) (by decide)
    rw [hround, hstands.unpack_pack]
    exact hstands

/-- An integer in range is far below the greatest double. -/
theorem log2_of_inRange {i : Int} (h : inRange i) : i.natAbs.log2 ≤ 1022 := by
  rw [inRange_iff, minInteger, maxInteger] at h
  by_cases hi : i.natAbs = 0
  · rw [hi]
    decide
  · have hlt : i.natAbs < 2 ^ 64 := by omega
    have hlog := (Nat.log2_lt hi).mpr hlt
    omega

/-- The double of an integer in range stands for the nearest one. -/
theorem Value.standsFor_floatOfInt {i : Int} (h : inRange i) :
    StandsFor (floatOfInt i).toModel.unpack (nearest i) := by
  have hlog := log2_of_inRange h
  cases i with
  | ofNat n => exact standsFor_ofScientific hlog
  | negSucc n =>
    have hstands := (standsFor_ofScientific hlog).neg_float
    rw [nearest, if_pos (Int.negSucc_lt_zero n)]
    exact hstands

/-! The order of the nearest integers. -/

theorem nearestNat_bounds (hn : n ≠ 0) :
    2 ^ n.log2 ≤ nearestNat n ∧ nearestNat n ≤ 2 ^ (n.log2 + 1) := by
  have hlog : (n * 2 ^ 52).log2 = n.log2 + 52 := log2_mul_two_pow hn 52
  have hrounded := roundDiv_eq_nearestNat hn (c := 52) (Nat.le_add_left ..)
  obtain ⟨hlow, hhigh⟩ := roundDiv_bounds (hlog ▸ Nat.le_add_left .. : 52 ≤ (n * 2 ^ 52).log2)
  rw [hlog] at hlow hhigh
  constructor
  · refine Nat.le_of_mul_le_mul_right ?_ (Nat.two_pow_pos 52)
    rw [← hrounded, Nat.mul_comm]
    exact Nat.mul_le_mul_right _ hlow
  · refine Nat.le_of_mul_le_mul_right ?_ (Nat.two_pow_pos 52)
    rw [← hrounded, ← Nat.pow_add, show n.log2 + 1 + 52 = 53 + n.log2 by omega, Nat.pow_add]
    exact Nat.mul_le_mul_right _ hhigh

theorem nearestNat_mono (h : m ≤ n) : nearestNat m ≤ nearestNat n := by
  obtain rfl | hm := Nat.eq_zero_or_pos m
  · exact Nat.zero_le _
  have hle : m.log2 ≤ n.log2 := (Nat.le_log2 (by omega)).mpr ((Nat.log2_self_le hm.ne').trans h)
  -- Numbers of different lengths are kept apart by the power of two between them.
  obtain hlt | heq := Nat.lt_or_eq_of_le hle
  · calc nearestNat m ≤ 2 ^ (m.log2 + 1) := (nearestNat_bounds hm.ne').2
      _ ≤ 2 ^ n.log2 := Nat.pow_le_pow_right (by decide) hlt
      _ ≤ nearestNat n := (nearestNat_bounds (by omega)).1
  · unfold nearestNat excessBits
    rw [heq]
    exact Nat.mul_le_mul_right _ (Decimal.roundDiv_mono h _ _)

theorem nearestNat_eq_zero : nearestNat n = 0 ↔ n = 0 := by
  refine ⟨fun h => ?_, fun h => (nearestNat_of_lt (by omega)).trans h⟩
  by_contra hn
  have hlow := (nearestNat_bounds hn).1
  have hpow := Nat.two_pow_pos n.log2
  omega

theorem nearestNat_of_le (h : n ≤ 2 ^ 53) : nearestNat n = n := by
  obtain hlt | rfl := Nat.lt_or_eq_of_le h
  · exact nearestNat_of_lt hlt
  · decide

variable {i j : Int}

theorem nearest_mono (h : i ≤ j) : nearest i ≤ nearest j := by
  have hnonneg := nearestNat_mono (m := i.natAbs) (n := j.natAbs)
  have hneg := nearestNat_mono (m := j.natAbs) (n := i.natAbs)
  unfold nearest
  split_ifs <;> omega

theorem nearest_eq_zero : nearest i = 0 ↔ i = 0 := by
  have hzero := nearestNat_eq_zero (n := i.natAbs)
  unfold nearest
  split_ifs <;> omega

theorem nearest_neg (i : Int) : nearest (-i) = -nearest i := by
  have hzero := nearestNat_eq_zero (n := i.natAbs)
  rw [nearest, nearest, Int.natAbs_neg]
  split_ifs <;> omega

/-- Up to `2 ^ 53` an integer is a double. -/
theorem nearest_of_le (h : i.natAbs ≤ 2 ^ 53) : nearest i = i := by
  rw [nearest, nearestNat_of_le h]
  split_ifs <;> omega

/-- The doubles of two integers are in their order unless they are one and the same. -/
theorem compare_nearest :
    compare (nearest i) (nearest j) = compare i j ↔ (nearest i = nearest j → i = j) := by
  obtain h | rfl | h := Int.lt_trichotomy i j
  · have hle := nearest_mono h.le
    rw [compare_lt_iff_lt.mpr h, compare_lt_iff_lt]
    omega
  · simp
  · have hle := nearest_mono h.le
    rw [compare_gt_iff_gt.mpr h, compare_gt_iff_gt]
    omega

end Awk
