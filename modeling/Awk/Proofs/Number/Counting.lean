import Std.Data.String.ToNat
import Awk.Arithmetic

/-! Counting. The decimal text of an integer in the range reads as that integer, so that a counter
which is advanced goes from each number to the next. -/

namespace Awk

theorem digitsValue_toDigits (n : Nat) : digitsValue (Nat.toDigits 10 n) = n := by
  have hfold := Nat.ofDigitChars_ten_toDigits (n := n)
  rw [Nat.ofDigitChars_eq_foldl] at hfold
  exact hfold

namespace Numeral

theorem isBlank_of_isDigit {d : Char} (h : d.isDigit) : isBlank d = false := by
  refine Bool.or_eq_false_iff.mpr ⟨Bool.or_eq_false_iff.mpr ⟨?_, ?_⟩, ?_⟩ <;>
  · refine decide_eq_false ?_
    rintro rfl
    exact absurd h (by decide)

/-- Digits have no blanks around them. -/
theorem trim_of_digits {ds : List Char} (h : ∀ d ∈ ds, d.isDigit) : trim ds = ds := by
  have hblank (ds : List Char) (h : ∀ d ∈ ds, d.isDigit) : ds.dropWhile isBlank = ds := by
    cases ds with
    | nil => rfl
    | cons d ds =>
      have hd := isBlank_of_isDigit (h d List.mem_cons_self)
      exact List.dropWhile_cons_of_neg (hd ▸ Bool.false_ne_true)
  unfold trim
  rw [hblank ds h, hblank ds.reverse fun d hd => h d (List.mem_reverse.mp hd), List.reverse_reverse]

theorem sign_digit {d : Char} (hd : d.isDigit) (s : List Char) :
    sign (d :: s) = (false, d :: s) := by
  unfold sign
  split
  · rename_i hplus
    cases hplus
    exact absurd hd (by decide)
  · rename_i hminus
    cases hminus
    exact absurd hd (by decide)
  · rfl

/-- Digits have no sign. -/
theorem sign_of_digits {ds : List Char} (h : ∀ d ∈ ds, d.isDigit) : sign ds = (false, ds) := by
  cases ds with
  | nil => rfl
  | cons d ds => exact sign_digit (h d List.mem_cons_self) ds

end Numeral

theorem readInteger_ofNat {n : Nat} (h : inRange n) :
    readInteger (Value.ofNat n).text = some (n : Int) := by
  have hdigits : ∀ d ∈ Nat.toDigits 10 n, d.isDigit := fun d hd =>
    Nat.isDigit_of_mem_toDigits (by decide) (by decide) hd
  have htext : (Value.ofNat n).text.toList = Nat.toDigits 10 n := String.toList_ofList
  have hnil : (Nat.toDigits 10 n).isEmpty = false :=
    List.isEmpty_eq_false_iff.mpr Nat.toDigits_ne_nil
  unfold readInteger
  rw [htext, Numeral.trim_of_digits hdigits, Numeral.sign_of_digits hdigits]
  dsimp only
  rw [hnil, List.all_eq_true.mpr hdigits, digitsValue_toDigits]
  exact if_pos h

namespace Value

theorem toInteger_ofNat {n : Nat} (h : inRange n) : (ofNat n).toInteger = n := by
  simp only [toInteger, readInteger_ofNat h]

theorem toNumber?_ofNat {n : Nat} (h : inRange n) :
    (ofNat n).toNumber? = some (.integer n) := by
  simp only [toNumber?, readInteger_ofNat h]

end Value

/-- A counter goes on to the next number as long as that is in the range. -/
theorem Arithmetic.step_ofNat {n : Nat} (h : inRange (n + 1 : Nat)) :
    step (.ofNat n) 1 = .ofNat (n + 1) := by
  have hn : inRange n := by
    rw [inRange_iff] at h ⊢
    simp only [minInteger, maxInteger] at h ⊢
    omega
  have hnumeric : numeric (.ofNat n) = .ofNat n := by
    simp only [numeric, Value.toNumber?_ofNat hn]
    rfl
  have hclassify : classify (.ofNat n) (.ofInt 1) = .integers n 1 := by
    have hone : (Value.ofInt 1).toNumber? = some (.integer 1) :=
      Value.toNumber?_ofNat (n := 1) (by decide)
    simp only [classify, Value.toNumber?_ofNat hn, hone]
  have hcast : (n : Int) + 1 = (n + 1 : Nat) := by omega
  simp only [step, hnumeric, apply, hclassify, Operator.compoundBase?, Option.getD, exactOr, hcast,
    h, if_true]
  rfl

end Awk
