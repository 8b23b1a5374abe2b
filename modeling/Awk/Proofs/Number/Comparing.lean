import Mathlib.Data.List.TakeWhile
import Awk.Proofs.Number.Nearest
import Awk.Arithmetic

/-! Comparing integers. A text that is an integer is a real as well, and two reals are compared as
doubles: the order of two integers is that of the integers nearest to them, and their own unless
two different ones have the same double. -/

namespace Awk

variable {a b v : Value} {i j : Int}

/-! An integer as a real. -/

/-- The integer of a sign and digits. -/
def signedValue (negative : Bool) (ds : List Char) : Int :=
  if negative then -(digitsValue ds : Int) else digitsValue ds

/-- A text that is an integer is a sign and digits, with blanks around them. -/
theorem readInteger_eq_some {text : String} :
    readInteger text = some i ↔
      ∃ negative ds, Numeral.sign (Numeral.trim text.toList) = (negative, ds) ∧ ds ≠ [] ∧
        (∀ d ∈ ds, d.isDigit) ∧ signedValue negative ds = i ∧ inRange i := by
  unfold readInteger
  obtain ⟨negative, ds⟩ := Numeral.sign (Numeral.trim text.toList)
  simp only [Option.ite_none_left_eq_some, Option.ite_none_right_eq_some, Option.some_inj,
    Bool.or_eq_true, not_or, Bool.not_eq_true, List.isEmpty_eq_false_iff, Bool.not_eq_false',
    List.all_eq_true, Prod.mk.injEq]
  constructor
  · rintro ⟨⟨hne, hdigits⟩, hrange, rfl⟩
    exact ⟨negative, ds, ⟨rfl, rfl⟩, hne, hdigits, rfl, hrange⟩
  · rintro ⟨_, _, ⟨rfl, rfl⟩, hne, hdigits, rfl, hrange⟩
    exact ⟨⟨hne, hdigits⟩, hrange, rfl⟩

theorem Numeral.ofChars?_digits {s ds : List Char} {negative : Bool}
    (hsign : sign s = (negative, ds)) (hne : ds ≠ []) (hdigits : ∀ d ∈ ds, d.isDigit) :
    ofChars? s = some ⟨negative, ds, [], 0⟩ := by
  have hrest : ds.dropWhile Char.isDigit = [] := List.dropWhile_eq_nil_iff.mpr hdigits
  unfold ofChars?
  simp only [hsign, hrest, List.takeWhile_eq_self_iff.mpr hdigits, fractionOf,
    List.isEmpty_eq_false_iff.mpr hne, exponentOf]
  rfl

theorem Numeral.toFloat_digits (negative : Bool) (ds : List Char) :
    toFloat ⟨negative, ds, [], 0⟩ =
      let x := if digitsValue ds = 0 then 0.0 else Float.ofScientific (digitsValue ds) false 0
      if negative then -x else x := by
  have hsmall : ¬(400 : Int) < 0 := by decide
  have hlarge : ¬(ds.length : Int) < -400 := by omega
  simp only [toFloat, List.append_nil, List.length_nil, Int.natCast_zero, Int.sub_zero,
    Int.zero_add, hsmall, hlarge, if_false, le_refl, if_true, Int.toNat_zero]

/-- Digits alone are the double nearest to their integer. -/
theorem Numeral.standsFor_toFloat {negative : Bool} {ds : List Char}
    (h : inRange (signedValue negative ds)) :
    StandsFor (toFloat ⟨negative, ds, [], 0⟩).toModel.unpack
      (nearest (signedValue negative ds)) := by
  have habs : (signedValue negative ds).natAbs = digitsValue ds := by
    cases negative <;> simp [signedValue]
  have hlog := log2_of_inRange h
  rw [habs] at hlog
  have hmagnitude : StandsFor (if digitsValue ds = 0 then (0.0 : Float)
      else Float.ofScientific (digitsValue ds) false 0).toModel.unpack
        (nearest (digitsValue ds : Int)) := by
    split
    · rename_i hzero
      rw [hzero]
      exact standsFor_ofScientific (n := 0) (by decide)
    · exact standsFor_ofScientific hlog
  rw [toFloat_digits]
  cases negative with
  | false => exact hmagnitude
  | true =>
    have hneg := hmagnitude.neg_float
    rw [← nearest_neg] at hneg
    exact hneg

/-- A text that is an integer is a real, the double nearest to it. -/
theorem Value.standsFor_toReal (h : readInteger v.text = some i) :
    v.isReal ∧ StandsFor v.toReal.toModel.unpack (nearest i) := by
  obtain ⟨negative, ds, hsign, hne, hdigits, rfl, hrange⟩ := readInteger_eq_some.mp h
  have hread : readReal v.text = some (Numeral.toFloat ⟨negative, ds, [], 0⟩) := by
    rw [readReal, Numeral.ofChars?_digits hsign hne hdigits, Option.map_some]
  refine ⟨Option.isSome_of_eq_some hread, ?_⟩
  rw [toReal, hread]
  exact Numeral.standsFor_toFloat hrange

theorem Value.compareReal_of_standsFor {x y : Float} (hx : StandsFor x.toModel.unpack i)
    (hy : StandsFor y.toModel.unpack j) : compareReal x y = Ord.compare i j := by
  unfold compareReal
  simp only [hx.lt_iff hy, hy.lt_iff hx]
  obtain h | rfl | h := Int.lt_trichotomy i j
  · rw [if_pos h, compare_lt_iff_lt.mpr h]
  · rw [if_neg (lt_irrefl i), if_neg (lt_irrefl i), compare_eq_iff_eq.mpr rfl]
  · rw [if_neg h.not_gt, if_pos h, compare_gt_iff_gt.mpr h]

theorem Value.compare_of_readInteger (ha : readInteger a.text = some i)
    (hb : readInteger b.text = some j) : a.compare b = Ord.compare (nearest i) (nearest j) := by
  obtain ⟨hreal, ha⟩ := standsFor_toReal ha
  obtain ⟨hreal', hb⟩ := standsFor_toReal hb
  rw [Value.compare, hreal, hreal']
  exact compareReal_of_standsFor ha hb

namespace Arithmetic

/-- What a relational operator says of two integers. -/
def integerRelation (o : Operator) (i j : Int) : Bool :=
  match o with
  | .less => i < j
  | .lessEq => i ≤ j
  | .equal => i = j
  | .notEqual => i ≠ j
  | .greaterEq => j ≤ i
  | .greater => j < i
  | _ => false

/-- The relational operators go by the order of their operands. -/
theorem relation_of_compare (h : a.compare b = compare i j) (o : Operator) :
    relation o a b = integerRelation o i j := by
  unfold relation integerRelation
  cases o <;> simp only [h, ne_eq, compare_lt_iff_lt, compare_eq_iff_eq, compare_gt_iff_gt, not_lt]

/-- Integers are compared by the doubles nearest to them: their order and the six relational
operators are those of the integers if and only if no other integer has the same double, and so
they are up to `2 ^ 53`. -/
theorem relation_integers (ha : readInteger a.text = some i) (hb : readInteger b.text = some j) :
    a.compare b = compare (nearest i) (nearest j) ∧
      ((a.compare b = compare i j ∧ ∀ o, relation o a b = integerRelation o i j) ↔
        (nearest i = nearest j → i = j)) ∧
      (i.natAbs ≤ 2 ^ 53 → j.natAbs ≤ 2 ^ 53 → a.compare b = compare i j) := by
  have hcompare := Value.compare_of_readInteger ha hb
  refine ⟨hcompare, ?_, fun hi hj => ?_⟩
  · rw [hcompare, compare_nearest, and_iff_left_iff_imp]
    intro h
    exact relation_of_compare (hcompare.trans (compare_nearest.mpr h))
  · rw [hcompare, nearest_of_le hi, nearest_of_le hj]

/-- `2 ^ 53 + 1` has the double of `2 ^ 53`, so that the two are equal; `2 ^ 53 + 3` has the double
of `2 ^ 53 + 4`. -/
theorem relation_integers_odd :
    readInteger " 9007199254740993" = some 9007199254740993 ∧
      readInteger "+9007199254740992" = some 9007199254740992 ∧
      Value.compare ⟨" 9007199254740993"⟩ ⟨"+9007199254740992"⟩ = .eq ∧
      readInteger "9007199254740995" = some 9007199254740995 ∧
      ∀ o, relation o ⟨" 9007199254740993"⟩ ⟨"9007199254740995"⟩ =
        integerRelation o 9007199254740993 9007199254740995 := by
  have hodd : readInteger " 9007199254740993" = some 9007199254740993 := by decide
  have heven : readInteger "+9007199254740992" = some 9007199254740992 := by decide
  have hnext : readInteger "9007199254740995" = some 9007199254740995 := by decide
  have hequal := (relation_integers (a := ⟨" 9007199254740993"⟩) (b := ⟨"+9007199254740992"⟩)
    hodd heven).1
  have hless := (relation_integers (a := ⟨" 9007199254740993"⟩) (b := ⟨"9007199254740995"⟩)
    hodd hnext).2.1
  exact ⟨hodd, heven, hequal.trans (by decide), hnext, (hless.mpr (by decide)).2⟩

end Arithmetic

end Awk
