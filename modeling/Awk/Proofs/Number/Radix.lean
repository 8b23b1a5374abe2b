import Mathlib.Tactic.IntervalCases
import Awk.Proofs.Number.Counting

/-! Reading numbers back. Blanks around a number and zeros in front of its digits make no difference
to what it is read as, and the digits of a number in any base up to sixteen are read as that
number. -/

namespace Awk

namespace Numeral

/-- Blanks around a text without any are taken off. -/
theorem trim_blanks (a b : Nat) {s : List Char} (hs : s ≠ []) (h : ∀ c ∈ s, isBlank c = false) :
    trim (List.replicate a ' ' ++ s ++ List.replicate b ' ') = s := by
  have hfront (n : Nat) {t : List Char} (ht : t ≠ []) (h : ∀ c ∈ t, isBlank c = false)
      (r : List Char) : (List.replicate n ' ' ++ (t ++ r)).dropWhile isBlank = t ++ r := by
    have hblanks : ∀ c ∈ List.replicate n ' ', isBlank c = true := by
      intro c hc
      rw [List.eq_of_mem_replicate hc]
      rfl
    rw [List.dropWhile_append_of_pos hblanks]
    obtain ⟨c, t, rfl⟩ := List.exists_cons_of_ne_nil ht
    have hc := h c List.mem_cons_self
    exact List.dropWhile_cons_of_neg (by rw [hc]; exact Bool.false_ne_true)
  unfold trim
  rw [List.append_assoc, hfront a hs h, List.reverse_append, List.reverse_replicate,
    ← List.append_nil s.reverse,
    hfront b (by simpa using hs) (fun c hc => h c (List.mem_reverse.mp hc)) [], List.append_nil,
    List.reverse_reverse]

/-- So are those around what stands in front of digits and the digits. -/
theorem trim_number (a b : Nat) {front ds : List Char} (hne : ds ≠ [])
    (hfront : ∀ c ∈ front, isBlank c = false) (hds : ∀ c ∈ ds, isBlank c = false) :
    trim (List.replicate a ' ' ++ (front ++ ds) ++ List.replicate b ' ') = front ++ ds :=
  trim_blanks a b (List.append_ne_nil_of_right_ne_nil front hne)
    (List.forall_mem_append.mpr ⟨hfront, hds⟩)

end Numeral

theorem digitsValue_zeros (n : Nat) (ds : List Char) :
    digitsValue (List.replicate n '0' ++ ds) = digitsValue ds := by
  have hzeros : (List.replicate n '0').foldl (fun n d => 10 * n + (d.toNat - '0'.toNat)) 0 = 0 := by
    induction n with
    | zero => rfl
    | succ n ih =>
      rw [List.replicate_succ, List.foldl_cons]
      exact ih
  rw [digitsValue, List.foldl_append, hzeros]
  rfl

/-- What may stand in front of the digits of an integer. -/
inductive Signed : Int → List Char → Prop
  | minus {i : Int} : i < 0 → Signed i ['-']
  | plus {i : Int} : 0 ≤ i → Signed i ['+']
  | bare {i : Int} : 0 ≤ i → Signed i []

theorem Signed.not_blank {i : Int} {front : List Char} (h : Signed i front) :
    ∀ c ∈ front, Numeral.isBlank c = false := by
  cases h <;> simp [Numeral.isBlank]

theorem Signed.sign_append {i : Int} {front ds : List Char} (h : Signed i front)
    (hds : ∀ d ∈ ds, d.isDigit) : Numeral.sign (front ++ ds) = (decide (i < 0), ds) := by
  cases h with
  | minus h => simp [Numeral.sign, h]
  | plus h => simp [Numeral.sign, h]
  | bare h => rw [List.nil_append, Numeral.sign_of_digits hds, decide_eq_false (not_lt.mpr h)]

/-- A sign, zeros and the digits of an integer, with blanks around them, are read as the integer. -/
theorem readInteger_digits (a zeros b : Nat) {i : Int} (hi : inRange i) {front : List Char}
    (hfront : Signed i front) :
    readInteger (String.ofList (List.replicate a ' ' ++
      (front ++ (List.replicate zeros '0' ++ Nat.toDigits 10 i.natAbs)) ++
        List.replicate b ' ')) = some i := by
  generalize hds : List.replicate zeros '0' ++ Nat.toDigits 10 i.natAbs = ds
  have hdigits : ∀ d ∈ ds, d.isDigit := by
    intro d hd
    rw [← hds, List.mem_append] at hd
    obtain hzero | hdigit := hd
    · rw [List.eq_of_mem_replicate hzero]
      rfl
    · exact Nat.isDigit_of_mem_toDigits (by decide) (by decide) hdigit
  have hne : ds ≠ [] := by
    rw [← hds]
    exact List.append_ne_nil_of_right_ne_nil _ Nat.toDigits_ne_nil
  have hvalue : digitsValue ds = i.natAbs := by
    rw [← hds, digitsValue_zeros, digitsValue_toDigits]
  have hsigned : (if decide (i < 0) = true then -(i.natAbs : Int) else i.natAbs) = i := by
    by_cases h : i < 0
    · rw [decide_eq_true h, if_pos rfl]
      omega
    · rw [decide_eq_false h, if_neg Bool.false_ne_true]
      omega
  unfold readInteger
  rw [String.toList_ofList,
    Numeral.trim_number a b hne hfront.not_blank fun c hc =>
      Numeral.isBlank_of_isDigit (hdigits c hc), hfront.sign_append hdigits]
  dsimp only
  rw [List.isEmpty_eq_false_iff.mpr hne, List.all_eq_true.mpr hdigits, hvalue, hsigned]
  exact if_pos hi

theorem readInteger_ofInt {i : Int} (hi : inRange i) :
    readInteger (Value.ofInt i).text = some i := by
  cases i with
  | ofNat n => exact readInteger_ofNat hi
  | negSucc n =>
    have hread := readInteger_digits 0 0 0 hi (.minus (Int.negSucc_lt_zero n))
    rw [List.replicate_zero, List.append_nil] at hread
    exact hread

theorem Value.toInteger_ofInt {i : Int} (hi : inRange i) : (Value.ofInt i).toInteger = i := by
  simp only [toInteger, readInteger_ofInt hi]

/-! Any base. -/

/-- The value of a digit, which may be a letter of either case. -/
def digit? (c : Char) : Option Nat :=
  if c.isDigit then some (c.toNat - '0'.toNat)
  else if 'a' ≤ c && c ≤ 'f' then some (c.toNat - 'a'.toNat + 10)
  else if 'A' ≤ c && c ≤ 'F' then some (c.toNat - 'A'.toNat + 10)
  else none

/-- One more digit behind a number. -/
def appendDigit (base n : Nat) (c : Char) : Option Nat :=
  (digit? c).bind fun d => if d < base then some (base * n + d) else none

/-- The number that digits in a base spell. -/
def readDigits (base : Nat) (ds : List Char) : Option Nat :=
  if ds.isEmpty then none else ds.foldlM (appendDigit base) 0

/-- The text without the mark of base sixteen. -/
def unmarked : List Char → List Char
  | '0' :: 'x' :: ds | '0' :: 'X' :: ds => ds
  | ds => ds

/-- The number that a text spells in a base: digits, with blanks around them and a mark of base
sixteen in front of them or not. -/
def readRadix (base : Nat) (text : String) : Option Nat :=
  readDigits base (unmarked (Numeral.trim text.toList))

/-- The digit characters of a way to write digits have their values. -/
def Spells (write : Char → Char) : Prop := ∀ d < 16, digit? (write d.digitChar) = some d

theorem spells_lower : Spells id := by
  intro d hd
  interval_cases d <;> rfl

theorem spells_upper : Spells Char.toUpper := by
  intro d hd
  interval_cases d <;> rfl

section

variable {base : Nat} {write : Char → Char}

theorem foldlM_zeros (hbase : 0 < base) (zeros : Nat) (ds : List Char) :
    (List.replicate zeros '0' ++ ds).foldlM (appendDigit base) 0 =
      ds.foldlM (appendDigit base) 0 := by
  have hzero : appendDigit base 0 '0' = some 0 := if_pos hbase
  induction zeros with
  | zero => rfl
  | succ zeros ih =>
    rw [List.replicate_succ, List.cons_append, List.foldlM_cons, hzero]
    exact ih

theorem foldlM_toDigits (h : Spells write) (hbase : 1 < base) (hle : base ≤ 16) (n : Nat) :
    ((Nat.toDigits base n).map write).foldlM (appendDigit base) 0 = some n := by
  have hdigit (m d : Nat) (hd : d < base) :
      appendDigit base m (write d.digitChar) = some (base * m + d) := by
    rw [appendDigit, h d (hd.trans_le hle)]
    exact if_pos hd
  induction n using Nat.strong_induction_on with
  | _ n ih =>
    by_cases hn : n < base
    · rw [Nat.toDigits_of_lt_base hn, List.map_singleton, List.foldlM_cons, hdigit 0 n hn,
        Nat.mul_zero, Nat.zero_add]
      rfl
    · have hle' := Nat.le_of_not_lt hn
      have hlt : n / base < n := Nat.div_lt_self (by omega) hbase
      rw [Nat.toDigits_of_base_le hbase hle', List.map_append, List.foldlM_append, ih _ hlt,
        List.map_singleton]
      show ([write (n % base).digitChar].foldlM (appendDigit base) (n / base)) = some n
      rw [List.foldlM_cons, hdigit _ _ (Nat.mod_lt n (by omega)), Nat.div_add_mod]
      rfl

/-- Zeros and the digits of a number are digits, in lower case or in upper case. -/
theorem isSome_digit? (h : Spells write) (hbase : 1 < base) (hle : base ≤ 16) {zeros n : Nat} :
    ∀ c ∈ List.replicate zeros '0' ++ (Nat.toDigits base n).map write, (digit? c).isSome := by
  intro c hc
  obtain hzero | hdigit := List.mem_append.mp hc
  · rw [List.eq_of_mem_replicate hzero]
    rfl
  · induction n using Nat.strong_induction_on with
    | _ n ih =>
      by_cases hn : n < base
      · rw [Nat.toDigits_of_lt_base hn, List.map_singleton, List.mem_singleton] at hdigit
        rw [hdigit, h n (hn.trans_le hle)]
        rfl
      · have hle' := Nat.le_of_not_lt hn
        have hlt : n / base < n := Nat.div_lt_self (by omega) hbase
        rw [Nat.toDigits_of_base_le hbase hle', List.map_append, List.mem_append,
          List.map_singleton, List.mem_singleton] at hdigit
        obtain hfront | hlast := hdigit
        · exact ih _ hlt (List.mem_append_right _ hfront) hfront
        · rw [hlast, h _ ((Nat.mod_lt n (by omega)).trans_le hle)]
          rfl

/-- The mark of base sixteen, or none. -/
inductive Mark : List Char → Prop
  | none : Mark []
  | lower : Mark ['0', 'x']
  | upper : Mark ['0', 'X']

theorem Mark.not_blank {front : List Char} (h : Mark front) :
    ∀ c ∈ front, Numeral.isBlank c = false := by
  cases h <;> simp [Numeral.isBlank]

theorem unmarked_append {front ds : List Char} (hfront : Mark front)
    (h : ∀ c ∈ ds, (digit? c).isSome) : unmarked (front ++ ds) = ds := by
  cases hfront with
  | none =>
    rw [List.nil_append]
    unfold unmarked
    split
    · exact absurd (h 'x' (by simp)) (by decide)
    · exact absurd (h 'X' (by simp)) (by decide)
    · rfl
  | lower => rfl
  | upper => rfl

theorem isBlank_of_digit? {c : Char} (h : (digit? c).isSome) : Numeral.isBlank c = false := by
  by_contra hblank
  rw [Bool.not_eq_false, Numeral.isBlank, Bool.or_eq_true, Bool.or_eq_true, decide_eq_true_eq,
    decide_eq_true_eq, decide_eq_true_eq] at hblank
  obtain (rfl | rfl) | rfl := hblank <;> exact absurd h (by decide)

/-- A mark, zeros and the digits of a number in a base, with blanks around them, are read as the
number. -/
theorem readRadix_digits (hwrite : Spells write) (hbase : 1 < base) (hle : base ≤ 16)
    (a zeros b n : Nat) {front : List Char} (hfront : Mark front) :
    readRadix base (String.ofList (List.replicate a ' ' ++
      (front ++ (List.replicate zeros '0' ++ (Nat.toDigits base n).map write)) ++
        List.replicate b ' ')) = some n := by
  generalize hds : List.replicate zeros '0' ++ (Nat.toDigits base n).map write = ds
  have hdigits : ∀ c ∈ ds, (digit? c).isSome := hds ▸ isSome_digit? hwrite hbase hle
  have hne : ds ≠ [] := by
    rw [← hds]
    exact List.append_ne_nil_of_right_ne_nil _ (by simp)
  rw [readRadix, String.toList_ofList,
    Numeral.trim_number a b hne hfront.not_blank fun c hc => isBlank_of_digit? (hdigits c hc),
    unmarked_append hfront hdigits, readDigits, List.isEmpty_eq_false_iff.mpr hne,
    if_neg Bool.false_ne_true, ← hds, foldlM_zeros (Nat.zero_lt_of_lt hbase),
    foldlM_toDigits hwrite hbase hle]

end

end Awk
