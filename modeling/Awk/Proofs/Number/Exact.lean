import Awk.Eval.Machine
import Awk.Proofs.Number.Comparing
import Awk.Proofs.Number.Radix

/-! Exact arithmetic. Two texts that are integers are computed with as integers: where the result is
in the range it is written out in full, and where it is not the same operation on doubles stands in
for it. -/

namespace Awk

variable {a b c v : Value} {i j n : Int} {o : Operator}

/-! What a text that is an integer is to an operation. -/

theorem inRange_of_readInteger {text : String} (h : readInteger text = some i) : inRange i := by
  obtain ⟨_, _, _, _, _, _, hrange⟩ := readInteger_eq_some.mp h
  exact hrange

theorem Value.toNumber?_of_readInteger (h : readInteger v.text = some i) :
    v.toNumber? = some (.integer i) := by
  simp only [toNumber?, h]

/-- The text of an integer is its decimal text. -/
theorem Value.text_ofInt (i : Int) : (ofInt i).text = toString i := by
  cases i with
  | ofNat n => rfl
  | negSucc n =>
    show String.ofList ('-' :: Nat.toDigits 10 (n + 1)) =
      "-" ++ String.ofList (Nat.toDigits 10 (n + 1))
    rw [String.ofList_cons]
    rfl

namespace Arithmetic

open Value

theorem classify_integers (ha : readInteger a.text = some i) (hb : readInteger b.text = some j) :
    classify a b = .integers i j := by
  simp only [classify, toNumber?_of_readInteger ha, toNumber?_of_readInteger hb]

/-- Beside an integer there are two integers or two doubles. -/
theorem classify_right (hb : readInteger b.text = some j) (c : Value) :
    (∃ i, classify c b = .integers i j) ∨ ∃ x, classify c b = .reals x (floatOfInt j) := by
  unfold classify
  rw [toNumber?_of_readInteger hb]
  cases c.toNumber? with
  | none => exact .inr ⟨_, rfl⟩
  | some number =>
    cases number with
    | integer i => exact .inl ⟨i, rfl⟩
    | real x => exact .inr ⟨x, rfl⟩

/-! Powers and remainders. -/

/-- A magnitude of two or more leaves the range within sixty-four steps. -/
theorem not_inRange_pow {base : Int} {exponent : Nat} (hbase : 2 ≤ base.natAbs)
    (h : 64 ≤ exponent) : ¬inRange (base ^ exponent) := by
  have hpow : 2 ^ 64 ≤ (base ^ exponent).natAbs :=
    calc 2 ^ 64 ≤ 2 ^ exponent := Nat.pow_le_pow_right (by decide) h
      _ ≤ base.natAbs ^ exponent := Nat.pow_le_pow_left hbase exponent
      _ = (base ^ exponent).natAbs := (Int.natAbs_pow base exponent).symm
  rw [inRange_iff, minInteger, maxInteger]
  omega

theorem integerPower?_eq (base : Int) (exponent : Nat) :
    integerPower? base exponent =
      if inRange (base ^ exponent) then some (base ^ exponent) else none := by
  unfold integerPower?
  by_cases hzero : base = 0
  · subst hzero
    cases exponent with
    | zero => rfl
    | succ e =>
      rw [zero_pow e.succ_ne_zero]
      rfl
  by_cases hone : base = 1
  · subst hone
    rw [one_pow]
    rfl
  by_cases hminus : base = -1
  · subst hminus
    obtain heven | hodd := Nat.even_or_odd exponent
    · rw [heven.neg_one_pow, if_pos (Nat.even_iff.mp heven)]
      rfl
    · have hne : exponent % 2 ≠ 0 := Nat.odd_iff.mp hodd ▸ Nat.one_ne_zero
      rw [hodd.neg_one_pow, if_neg hne]
      rfl
  rw [if_neg hzero, if_neg hone, if_neg hminus]
  by_cases hless : exponent < 64
  · rw [if_pos hless]
    rfl
  · rw [if_neg hless, if_neg (not_inRange_pow (by omega) (by omega))]

theorem power_eq (h : 0 ≤ j ∧ j < 2 ^ 32) :
    power i j = exactOr (i ^ j.toNat) (Float.pow (floatOfInt i) (floatOfInt j)) := by
  have hword : 0 ≤ j ∧ j < 4294967296 := h
  unfold power exactOr
  simp only [hword, and_self, if_true, integerPower?_eq]
  split_ifs <;> rfl

/-- Only the quotient of the least integer and -1 leaves the range. -/
theorem inRange_tdiv (hi : inRange i) (h : ¬(i = minInteger ∧ j = -1)) : inRange (i.tdiv j) := by
  have hquotient : (i.tdiv j).natAbs = i.natAbs / j.natAbs := Int.natAbs_tdiv i j
  rw [inRange_iff] at hi ⊢
  simp only [minInteger, maxInteger] at hi h ⊢
  by_cases hunit : j.natAbs = 1
  · obtain rfl | rfl := Int.natAbs_eq_iff.mp hunit
    · rwa [Nat.cast_one, Int.tdiv_one]
    · rw [Nat.cast_one, Int.tdiv_neg, Int.tdiv_one]
      omega
  · have hhalf : i.natAbs / j.natAbs ≤ i.natAbs / 2 := by
      obtain hzero | htwo : j.natAbs = 0 ∨ 2 ≤ j.natAbs := by omega
      · rw [hzero, Nat.div_zero]
        exact Nat.zero_le _
      · exact Nat.div_le_div_left htwo Nat.two_pos
    omega

/-- There the doubles leave a zero with a sign, which is written like any other. -/
theorem ofFloat_remainder_least :
    Value.ofFloat (Float.remainder (floatOfInt minInteger) (floatOfInt (-1))) = .ofInt 0 := by
  decide +kernel

/-- However it is computed, the remainder is the exact one. -/
theorem remainder_eq (hi : inRange i) (j : Int) : remainder i j = .ofInt (i.tmod j) := by
  unfold remainder
  split
  · rfl
  · rename_i hout
    obtain ⟨rfl, rfl⟩ : i = minInteger ∧ j = -1 := by
      by_contra hother
      exact hout (inRange_tdiv hi hother)
    exact ofFloat_remainder_least

/-- A remainder is no larger than the dividend, and has its sign. -/
theorem inRange_tmod (hi : inRange i) (j : Int) : inRange (i.tmod j) := by
  have hle : (i.tmod j).natAbs ≤ i.natAbs := Int.natAbs_tmod i j ▸ Nat.mod_le _ _
  have hnonneg := Int.tmod_nonneg (a := i) j
  have hnonpos := Int.tmod_nonneg (a := -i) j
  rw [Int.neg_tmod] at hnonpos
  rw [inRange_iff, minInteger, maxInteger] at hi ⊢
  omega

/-! The operators. -/

/-- The integer that an operation on integers comes to; `none` where it has none. -/
def exactResult? (o : Operator) (i j : Int) : Option Int :=
  match o with
  | .add => some (i + j)
  | .sub => some (i - j)
  | .mul => some (i * j)
  | .mod => if j = 0 then none else some (i.tmod j)
  | .pow => if 0 ≤ j ∧ j < 2 ^ 32 then some (i ^ j.toNat) else none
  | _ => none

/-- The operation on doubles. -/
def realResult (o : Operator) (x y : Float) : Float :=
  match o with
  | .add => x + y
  | .sub => x - y
  | .mul => x * y
  | .mod => Float.remainder x y
  | .pow => Float.pow x y
  | _ => 0.0

theorem apply_integers (ha : readInteger a.text = some i) (hb : readInteger b.text = some j)
    (hn : exactResult? (o.compoundBase?.getD o) i j = some n) :
    apply o a b = some (exactOr n
      (realResult (o.compoundBase?.getD o) (floatOfInt i) (floatOfInt j))) := by
  unfold apply
  rw [classify_integers ha hb]
  generalize o.compoundBase?.getD o = base at hn ⊢
  cases base <;> simp only [exactResult?, reduceCtorEq, Option.some_inj,
    Option.ite_none_left_eq_some, Option.ite_none_right_eq_some] at hn
  case add => rw [← hn]; rfl
  case sub => rw [← hn]; rfl
  case mul => rw [← hn]; rfl
  case mod =>
    obtain ⟨hne, rfl⟩ := hn
    have hi := inRange_of_readInteger ha
    simp only [hne, if_false, remainder_eq hi j, exactOr, inRange_tmod hi j, if_true]
  case pow =>
    obtain ⟨hword, rfl⟩ := hn
    simp only [power_eq hword, realResult]

theorem numeric_integer (ha : readInteger a.text = some i) : numeric a = .ofInt i := by
  simp only [numeric, toNumber?_of_readInteger ha]

theorem negate_integer (ha : readInteger a.text = some i) :
    negate a = exactOr (-i) (-floatOfInt i) := by
  simp only [negate, toNumber?_of_readInteger ha]

theorem step_integer (ha : readInteger a.text = some i) (hj : inRange j) :
    step a j = exactOr (i + j) (floatOfInt i + floatOfInt j) := by
  have hi := readInteger_ofInt (inRange_of_readInteger ha)
  rw [step, numeric_integer ha, apply_integers (o := .add) hi (readInteger_ofInt hj) rfl]
  rfl

/-- A divisor that is an integer is refused if and only if it is zero. -/
theorem apply_eq_none (hb : readInteger b.text = some j)
    (ho : o.compoundBase?.getD o = .mod ∨ o.compoundBase?.getD o = .div) :
    apply o c b = none ↔ j = 0 := by
  have hzero : StandsFor (0.0 : Float).toModel.unpack 0 :=
    standsFor_ofScientific (n := 0) (by decide)
  have hreal := (standsFor_floatOfInt (inRange_of_readInteger hb)).beq_iff hzero
  rw [nearest_eq_zero] at hreal
  unfold apply divide
  obtain ⟨i, hclassify⟩ | ⟨x, hclassify⟩ := classify_right hb c <;>
    obtain ho | ho := ho <;>
      simp only [hclassify, ho, hreal, ite_eq_left_iff, reduceCtorEq, imp_false, not_not]

/-- Arithmetic on integers is exact and never wraps. An operation that comes to an integer gives its
decimal text where it is in the range, and the operation on doubles otherwise; so do the signs and
the steps. A divisor that spells zero, and of the integers no other, is a division by zero. -/
theorem integers_exact (ha : readInteger a.text = some i) (hb : readInteger b.text = some j) :
    (∀ o n, exactResult? (o.compoundBase?.getD o) i j = some n →
      (inRange n → apply o a b = some (.ofInt n)) ∧
      (¬inRange n → apply o a b = some (.ofFloat
        (realResult (o.compoundBase?.getD o) (floatOfInt i) (floatOfInt j))))) ∧
      numeric a = .ofInt i ∧
      negate a = (if inRange (-i) then .ofInt (-i) else .ofFloat (-floatOfInt i)) ∧
      (∀ d, inRange d → step a d = if inRange (i + d) then .ofInt (i + d)
        else .ofFloat (floatOfInt i + floatOfInt d)) ∧
      (∀ n, inRange n → (ofInt n).text = toString n ∧ readInteger (ofInt n).text = some n) ∧
      ∀ o c, o.compoundBase?.getD o = .mod ∨ o.compoundBase?.getD o = .div →
        (apply o c b = none ↔ j = 0) ∧
        (j = 0 → Machine.arithmetic o c b = do
          Machine.report .divisionByZero
          return .ofInt 0) := by
  refine ⟨fun o n hn => ?_, numeric_integer ha, negate_integer ha, fun d hd => step_integer ha hd,
    fun n hn => ⟨text_ofInt n, readInteger_ofInt hn⟩, fun o c ho => ?_⟩
  · have happly := apply_integers ha hb hn
    refine ⟨fun hrange => ?_, fun hrange => ?_⟩
    · rw [happly, exactOr, if_pos hrange]
    · rw [happly, exactOr, if_neg hrange]
  · have hnone := apply_eq_none hb ho (c := c)
    refine ⟨hnone, fun hzero => ?_⟩
    rw [Machine.arithmetic, hnone.mpr hzero]

/-- The least integer leaves the range when its sign is turned, by whatever operator, and its
remainder does not; any spelling of zero is refused as a divisor. -/
theorem integers_exact_least :
    readInteger " -9223372036854775808" = some (-9223372036854775808) ∧
      readInteger "-01" = some (-1) ∧ readInteger "-00 " = some 0 ∧
      apply .mod ⟨" -9223372036854775808"⟩ ⟨"-01"⟩ = some (.ofInt 0) ∧
      apply .mulAssign ⟨" -9223372036854775808"⟩ ⟨"-01"⟩ =
        some (.ofFloat (floatOfInt (-9223372036854775808) * floatOfInt (-1))) ∧
      negate ⟨" -9223372036854775808"⟩ = .ofFloat (-floatOfInt (-9223372036854775808)) ∧
      apply .div ⟨" -9223372036854775808"⟩ ⟨"-00 "⟩ = none := by
  have hleast : readInteger " -9223372036854775808" = some (-9223372036854775808) := by decide
  have hone : readInteger "-01" = some (-1) := by decide
  have hzero : readInteger "-00 " = some 0 := by decide
  obtain ⟨happly, -, hnegate, -⟩ := integers_exact (a := ⟨" -9223372036854775808"⟩) (b := ⟨"-01"⟩)
    hleast hone
  obtain ⟨-, -, -, -, -, hrefused⟩ := integers_exact (a := ⟨" -9223372036854775808"⟩)
    (b := ⟨"-00 "⟩) hleast hzero
  exact ⟨hleast, hone, hzero, (happly .mod 0 (by decide)).1 (by decide),
    (happly .mulAssign 9223372036854775808 (by decide)).2 (by decide), hnegate,
    (hrefused .div _ (.inr rfl)).1.mpr rfl⟩

end Arithmetic

end Awk
