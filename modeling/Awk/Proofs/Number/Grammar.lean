import Mathlib.Computability.RegularExpressions
import Mathlib.Tactic.IntervalCases
import Awk.Proofs.Number.Comparing
import Awk.Proofs.Number.Counting

/-! The grammar of the texts that are numbers, as regular expressions, and that the two readers of
numbers accept its words. A reader takes the longest run of digits it can; the grammar leaves it no
other choice, since what may stand behind a run never starts with a digit. -/

namespace Awk

namespace Numeral

open RegularExpression

variable {s t w front body back ds fs m x : List Char} {p q r : RegularExpression Char}

/-! The grammar. -/

/-- One of some characters. -/
def oneOf (cs : List Char) : RegularExpression Char := (cs.map char).sum

/-- `r?` -/
def optional (r : RegularExpression Char) : RegularExpression Char := 1 + r

def digit : RegularExpression Char := oneOf ['0', '1', '2', '3', '4', '5', '6', '7', '8', '9']

/-- `digit+` -/
def digits : RegularExpression Char := digit * star digit

/-- `[+-]? r` -/
def signed (r : RegularExpression Char) : RegularExpression Char := optional (oneOf ['+', '-']) * r

/-- `[+-]? digits` -/
def integerForm : RegularExpression Char := signed digits

/-- `digits (. digit*)? | . digits` -/
def mantissaForm : RegularExpression Char :=
  digits * optional (char '.' * star digit) + char '.' * digits

/-- `([eE] [+-]? digits)?` -/
def exponentForm : RegularExpression Char := optional (oneOf ['e', 'E'] * integerForm)

/-- `[+-]? (digits (. digit*)? | . digits) ([eE] [+-]? digits)?` -/
def realForm : RegularExpression Char := signed (mantissaForm * exponentForm)

/-- The integer that a word of `integerForm` spells. -/
def valueOf : List Char → Int
  | '-' :: ds => -(Nat.ofDigitChars 10 ds 0 : Int)
  | '+' :: ds => Nat.ofDigitChars 10 ds 0
  | ds => Nat.ofDigitChars 10 ds 0

/-- `body` is `s` without the blanks at its ends. -/
structure Trimmed (s body : List Char) : Prop where
  around : ∃ front back, s = front ++ body ++ back ∧
    (∀ c ∈ front, c = ' ' ∨ c = '\t' ∨ c = '\n') ∧ ∀ c ∈ back, c = ' ' ∨ c = '\t' ∨ c = '\n'
  first : ∀ c ∈ body.head?, ¬ (c = ' ' ∨ c = '\t' ∨ c = '\n')
  last : ∀ c ∈ body.getLast?, ¬ (c = ' ' ∨ c = '\t' ∨ c = '\n')

/-! The words of its parts. -/

theorem mem_mul : w ∈ (p * q).matches' ↔ ∃ s ∈ p.matches', ∃ t ∈ q.matches', s ++ t = w := Iff.rfl

theorem mem_add : w ∈ (p + q).matches' ↔ w ∈ p.matches' ∨ w ∈ q.matches' := Iff.rfl

theorem mem_optional : w ∈ (optional r).matches' ↔ w = [] ∨ w ∈ r.matches' := Iff.rfl

theorem mem_oneOf {cs : List Char} : w ∈ (oneOf cs).matches' ↔ ∃ c ∈ cs, w = [c] := by
  induction cs with
  | nil => exact ⟨nofun, nofun⟩
  | cons c cs ih =>
    have hcons : w ∈ (oneOf (c :: cs)).matches' ↔ w = [c] ∨ w ∈ (oneOf cs).matches' := Iff.rfl
    rw [hcons, ih, List.exists_mem_cons_iff]

theorem mem_char_mul {c : Char} : w ∈ (char c * r).matches' ↔ ∃ t ∈ r.matches', w = c :: t := by
  rw [mem_mul]
  constructor
  · rintro ⟨_, rfl, t, ht, rfl⟩
    exact ⟨t, ht, rfl⟩
  · rintro ⟨t, ht, rfl⟩
    exact ⟨[c], rfl, t, ht, rfl⟩

theorem mem_oneOf_mul {cs : List Char} :
    w ∈ (oneOf cs * r).matches' ↔ ∃ c ∈ cs, ∃ t ∈ r.matches', w = c :: t := by
  rw [mem_mul]
  constructor
  · rintro ⟨s, hs, t, ht, rfl⟩
    obtain ⟨c, hc, rfl⟩ := mem_oneOf.mp hs
    exact ⟨c, hc, t, ht, rfl⟩
  · rintro ⟨c, hc, t, ht, rfl⟩
    exact ⟨[c], mem_oneOf.mpr ⟨c, hc, rfl⟩, t, ht, rfl⟩

theorem mem_digit : w ∈ digit.matches' ↔ ∃ d : Char, d.isDigit ∧ w = [d] := by
  rw [digit, mem_oneOf]
  refine exists_congr fun d => and_congr_left fun _ => ⟨fun hd => ?_, fun hd => ?_⟩
  · simp only [List.mem_cons, List.not_mem_nil, or_false] at hd
    obtain rfl | rfl | rfl | rfl | rfl | rfl | rfl | rfl | rfl | rfl := hd <;> rfl
  · obtain ⟨hlow, hhigh⟩ := Char.isDigit_iff_toNat.mp hd
    rw [← Char.ofNat_toNat d]
    generalize d.toNat = k at hlow hhigh
    have hlow : 48 ≤ k := hlow
    have hhigh : k ≤ 57 := hhigh
    interval_cases k <;> simp

theorem mem_star_digit : w ∈ (star digit).matches' ↔ ∀ d ∈ w, d.isDigit := by
  rw [matches'_star, Language.mem_kstar]
  constructor
  · rintro ⟨ws, rfl, hws⟩ d hd
    obtain ⟨v, hv, hd⟩ := List.mem_flatten.mp hd
    obtain ⟨c, hc, rfl⟩ := mem_digit.mp (hws v hv)
    rw [List.mem_singleton.mp hd]
    exact hc
  · intro hw
    refine ⟨w.map ([·]), (List.flatMap_singleton' w).symm, fun v hv => ?_⟩
    obtain ⟨d, hd, rfl⟩ := List.mem_map.mp hv
    exact mem_digit.mpr ⟨d, hw d hd, rfl⟩

theorem mem_digits : w ∈ digits.matches' ↔ w ≠ [] ∧ ∀ d ∈ w, d.isDigit := by
  rw [digits, mem_mul]
  constructor
  · rintro ⟨s, hs, t, ht, rfl⟩
    obtain ⟨d, hd, rfl⟩ := mem_digit.mp hs
    exact ⟨nofun, List.forall_mem_cons.mpr ⟨hd, mem_star_digit.mp ht⟩⟩
  · rintro ⟨hne, hw⟩
    obtain ⟨d, t, rfl⟩ := List.exists_cons_of_ne_nil hne
    obtain ⟨hd, ht⟩ := List.forall_mem_cons.mp hw
    exact ⟨[d], mem_digit.mpr ⟨d, hd, rfl⟩, t, mem_star_digit.mpr ht, rfl⟩

/-- A sign before a form whose words have none is the one that `sign` takes. -/
theorem mem_signed (hr : ∀ t ∈ r.matches', sign t = (false, t)) :
    w ∈ (signed r).matches' ↔ (sign w).2 ∈ r.matches' := by
  rw [signed, mem_mul]
  constructor
  · rintro ⟨s, hs, t, ht, rfl⟩
    obtain rfl | hs := mem_optional.mp hs
    · rw [List.nil_append, hr t ht]
      exact ht
    obtain ⟨c, hc, rfl⟩ := mem_oneOf.mp hs
    simp only [List.mem_cons, List.not_mem_nil, or_false] at hc
    obtain rfl | rfl := hc <;> exact ht
  · fun_cases sign w with
    | case1 t => exact fun ht => ⟨['+'], .inr (mem_oneOf.mpr ⟨'+', by decide, rfl⟩), t, ht, rfl⟩
    | case2 t => exact fun ht => ⟨['-'], .inr (mem_oneOf.mpr ⟨'-', by decide, rfl⟩), t, ht, rfl⟩
    | case3 => exact fun hw => ⟨[], .inl rfl, w, hw, rfl⟩

theorem mem_integerForm :
    w ∈ integerForm.matches' ↔ (sign w).2 ≠ [] ∧ ∀ d ∈ (sign w).2, d.isDigit := by
  rw [integerForm, mem_signed fun t ht => sign_of_digits (mem_digits.mp ht).2, mem_digits]

/-- Digits with a point among them, or without one. -/
theorem mem_mantissaForm : m ∈ mantissaForm.matches' ↔
    (m ≠ [] ∧ ∀ d ∈ m, d.isDigit) ∨
      ∃ ds fs, m = ds ++ '.' :: fs ∧ (∀ d ∈ ds, d.isDigit) ∧ (∀ d ∈ fs, d.isDigit) ∧
        (ds ≠ [] ∨ fs ≠ []) := by
  rw [mantissaForm, mem_add, mem_char_mul, mem_mul]
  constructor
  · rintro (⟨ds, hds, t, ht, rfl⟩ | ⟨fs, hfs, rfl⟩)
    · obtain ⟨hne, hds⟩ := mem_digits.mp hds
      obtain rfl | ht := mem_optional.mp ht
      · rw [List.append_nil]
        exact .inl ⟨hne, hds⟩
      · obtain ⟨fs, hfs, rfl⟩ := mem_char_mul.mp ht
        exact .inr ⟨ds, fs, rfl, hds, mem_star_digit.mp hfs, .inl hne⟩
    · obtain ⟨hne, hfs⟩ := mem_digits.mp hfs
      exact .inr ⟨[], fs, rfl, nofun, hfs, .inr hne⟩
  · rintro (hm | ⟨ds, fs, rfl, hds, hfs, hne⟩)
    · exact .inl ⟨m, mem_digits.mpr hm, [], .inl rfl, List.append_nil m⟩
    by_cases hempty : ds = []
    · subst hempty
      exact .inr ⟨fs, mem_digits.mpr ⟨hne.resolve_left fun h => h rfl, hfs⟩, rfl⟩
    · exact .inl ⟨ds, mem_digits.mpr ⟨hempty, hds⟩, '.' :: fs,
        .inr (mem_char_mul.mpr ⟨fs, mem_star_digit.mpr hfs, rfl⟩), rfl⟩

theorem sign_of_real (ht : t ∈ (mantissaForm * exponentForm).matches') : sign t = (false, t) := by
  obtain ⟨m, hm, x, -, rfl⟩ := mem_mul.mp ht
  obtain ⟨hne, hm⟩ | ⟨ds, fs, rfl, hds, -, -⟩ := mem_mantissaForm.mp hm
  · obtain ⟨d, m, rfl⟩ := List.exists_cons_of_ne_nil hne
    exact sign_digit (hm d List.mem_cons_self) _
  · cases ds with
    | nil => rfl
    | cons d ds => exact sign_digit (hds d List.mem_cons_self) _

/-! What the reader takes. -/

theorem isSome_exponentOf : (exponentOf w).isSome ↔ w ∈ exponentForm.matches' := by
  rw [exponentForm, mem_optional, mem_oneOf_mul]
  cases w with
  | nil => exact ⟨fun _ => .inl rfl, fun _ => rfl⟩
  | cons c r =>
    have hform : r ∈ integerForm.matches' ↔
        ¬ ((sign r).2.isEmpty || !(sign r).2.all Char.isDigit) := by
      rw [mem_integerForm]
      simp
    have hletter : c ∈ ['e', 'E'] ↔ (c = 'e' || c = 'E') := by simp
    have hcons : (exponentOf (c :: r)).isSome ↔ c ∈ ['e', 'E'] ∧ r ∈ integerForm.matches' := by
      rw [hform, hletter, exponentOf]
      split_ifs <;> simp_all
    rw [hcons]
    constructor
    · rintro ⟨hc, hr⟩
      exact .inr ⟨c, hc, r, hr, rfl⟩
    · rintro (h | ⟨_, hc, _, hr, h⟩)
      · exact absurd h (List.cons_ne_nil c r)
      · obtain ⟨rfl, rfl⟩ := List.cons.inj h
        exact ⟨hc, hr⟩

/-- What may stand behind a run of characters does not go on with it. -/
theorem span_append {p : Char → Bool} {run rest : List Char} (hrun : ∀ c ∈ run, p c)
    (hrest : ∀ c ∈ rest.head?, p c = false) :
    (run ++ rest).takeWhile p = run ∧ (run ++ rest).dropWhile p = rest := by
  rw [List.takeWhile_append_of_pos hrun, List.dropWhile_append_of_pos hrun]
  cases rest with
  | nil => exact ⟨List.append_nil run, rfl⟩
  | cons c rest =>
    have hc : ¬ p c := by simpa using hrest
    rw [List.takeWhile_cons_of_neg hc, List.dropWhile_cons_of_neg hc]
    exact ⟨List.append_nil run, rfl⟩

theorem head_exponentForm (hx : x ∈ exponentForm.matches') :
    ∀ c ∈ x.head?, c = 'e' ∨ c = 'E' := by
  obtain rfl | hx := mem_optional.mp hx
  · nofun
  · obtain ⟨c, hc, t, -, rfl⟩ := mem_oneOf_mul.mp hx
    rintro _ ⟨⟩
    simpa using hc

theorem not_isDigit_point : ∀ c ∈ ('.' :: s).head?, c.isDigit = false := by
  rintro _ ⟨⟩
  rfl

theorem not_isDigit_exponent (hx : x ∈ exponentForm.matches') :
    ∀ c ∈ x.head?, c.isDigit = false := fun c hc => by
  obtain rfl | rfl := head_exponentForm hx c hc <;> rfl

theorem fractionOf_exponent (hx : x ∈ exponentForm.matches') : fractionOf x = ([], x) := by
  rw [fractionOf]
  rintro r rfl
  exact absurd (head_exponentForm hx '.' rfl) (by decide)

/-- The digits before a point, those behind it, and the rest of a text without a sign. -/
def parts (t : List Char) : List Char × List Char × List Char :=
  (t.takeWhile Char.isDigit, fractionOf (t.dropWhile Char.isDigit))

theorem parts_whole (hds : ∀ d ∈ ds, d.isDigit) (hx : x ∈ exponentForm.matches') :
    parts (ds ++ x) = (ds, [], x) := by
  obtain ⟨hrun, hrest⟩ := span_append hds (not_isDigit_exponent hx)
  rw [parts, hrun, hrest, fractionOf_exponent hx]

theorem parts_point (hds : ∀ d ∈ ds, d.isDigit) (hfs : ∀ d ∈ fs, d.isDigit)
    (hx : x ∈ exponentForm.matches') : parts (ds ++ '.' :: (fs ++ x)) = (ds, fs, x) := by
  obtain ⟨hrun, hrest⟩ := span_append hds (not_isDigit_point (s := fs ++ x))
  obtain ⟨hrun', hrest'⟩ := span_append hfs (not_isDigit_exponent hx)
  rw [parts, hrun, hrest, fractionOf, hrun', hrest']

/-- What the scan takes before the rest is a mantissa, unless it has no digit. -/
theorem mem_parts (t : List Char) (h : ¬ ((parts t).1 = [] ∧ (parts t).2.1 = [])) :
    ∃ m ∈ mantissaForm.matches', m ++ (parts t).2.2 = t := by
  have hdigits (s : List Char) : ∀ d ∈ s.takeWhile Char.isDigit, d.isDigit :=
    fun _ hd => List.mem_takeWhile_imp hd
  have ht : t.takeWhile Char.isDigit ++ t.dropWhile Char.isDigit = t :=
    List.takeWhile_append_dropWhile
  rw [parts] at h ⊢
  generalize t.dropWhile Char.isDigit = rest at h ht
  revert h
  -- Behind the digits there is a point, or the mantissa ends with them.
  fun_cases fractionOf rest with
  | case1 r =>
    intro h
    refine ⟨_, mem_mantissaForm.mpr (.inr ⟨_, _, rfl, hdigits t, hdigits r, not_and_or.mp h⟩), ?_⟩
    rw [List.append_assoc, List.cons_append, List.takeWhile_append_dropWhile, ht]
  | case2 =>
    intro h
    have hne : t.takeWhile Char.isDigit ≠ [] := fun hnil => h ⟨hnil, rfl⟩
    exact ⟨_, mem_mantissaForm.mpr (.inl ⟨hne, hdigits t⟩), ht⟩

theorem isSome_ofChars?_parts : (ofChars? w).isSome ↔
    ¬ ((parts (sign w).2).1 = [] ∧ (parts (sign w).2).2.1 = []) ∧
      (parts (sign w).2).2.2 ∈ exponentForm.matches' := by
  rw [← isSome_exponentOf, ofChars?, parts]
  simp only [← List.isEmpty_iff, ← Bool.and_eq_true]
  split <;> simp_all

theorem mem_unsigned : t ∈ (mantissaForm * exponentForm).matches' ↔
    ¬ ((parts t).1 = [] ∧ (parts t).2.1 = []) ∧ (parts t).2.2 ∈ exponentForm.matches' := by
  constructor
  · intro ht
    obtain ⟨m, hm, x, hx, rfl⟩ := mem_mul.mp ht
    obtain ⟨hne, hm⟩ | ⟨ds, fs, rfl, hds, hfs, hne⟩ := mem_mantissaForm.mp hm
    · rw [parts_whole hm hx]
      exact ⟨fun h => hne h.1, hx⟩
    · rw [List.append_assoc, List.cons_append, parts_point hds hfs hx]
      exact ⟨not_and_or.mpr hne, hx⟩
  · rintro ⟨hne, hx⟩
    obtain ⟨m, hm, ht⟩ := mem_parts t hne
    exact ⟨m, hm, _, hx, ht⟩

/-- `ofChars?` accepts the words of `realForm`. -/
theorem isSome_ofChars? : (ofChars? w).isSome ↔ w ∈ realForm.matches' := by
  rw [isSome_ofChars?_parts, realForm, mem_signed fun t ht => sign_of_real ht, mem_unsigned]

/-! The text between the blanks. -/

theorem isBlank_iff {c : Char} : isBlank c ↔ c = ' ' ∨ c = '\t' ∨ c = '\n' := by
  simp [isBlank, or_assoc]

theorem trim_append (hfront : ∀ c ∈ front, isBlank c) (hback : ∀ c ∈ back, isBlank c)
    (hfirst : ∀ c ∈ body.head?, isBlank c = false)
    (hlast : ∀ c ∈ body.getLast?, isBlank c = false) :
    trim (front ++ body ++ back) = body := by
  have hback' : ∀ c ∈ back.reverse, isBlank c := fun c hc => hback c (List.mem_reverse.mp hc)
  have hlast' : ∀ c ∈ body.reverse.head?, isBlank c = false := by
    rw [List.head?_reverse]
    exact hlast
  cases body with
  | nil =>
    have hall : ∀ c ∈ front ++ [] ++ back, isBlank c := by
      rw [List.append_nil]
      exact List.forall_mem_append.mpr ⟨hfront, hback⟩
    rw [trim, List.dropWhile_eq_nil_iff.mpr hall]
    rfl
  | cons c body =>
    have hrest : ∀ d ∈ (c :: body ++ back).head?, isBlank d = false := hfirst
    rw [trim, List.append_assoc, (span_append hfront hrest).2, List.reverse_append,
      (span_append hback' hlast').2, List.reverse_reverse]

theorem trimmed_trim (s : List Char) : Trimmed s (trim s) := by
  have hhead (s : List Char) : ∀ c ∈ (s.dropWhile isBlank).head?, ¬ isBlank c := by
    intro c hc
    have hnot := List.head?_dropWhile_not isBlank s
    rw [hc] at hnot
    exact ne_true_of_eq_false hnot
  have hblank (s : List Char) : ∀ c ∈ s.takeWhile isBlank, isBlank c :=
    fun _ hc => List.mem_takeWhile_imp hc
  obtain ⟨back, hs, hback⟩ :
      ∃ back, s.dropWhile isBlank = trim s ++ back ∧ ∀ c ∈ back, isBlank c := by
    refine ⟨_, ?_, fun c hc => hblank (s.dropWhile isBlank).reverse c (List.mem_reverse.mp hc)⟩
    rw [trim, ← List.reverse_append, List.takeWhile_append_dropWhile, List.reverse_reverse]
  have hfirst : ∀ c ∈ (trim s).head?, ¬ isBlank c := by
    intro c hc
    refine hhead s c ?_
    rw [hs, List.head?_append, hc]
    rfl
  have hlast : ∀ c ∈ (trim s).getLast?, ¬ isBlank c := by
    rw [trim, List.getLast?_reverse]
    exact hhead _
  simp only [isBlank_iff] at hblank hback hfirst hlast
  refine ⟨⟨_, back, ?_, hblank s, hback⟩, hfirst, hlast⟩
  rw [List.append_assoc, ← hs, List.takeWhile_append_dropWhile]

theorem trimmed_iff : Trimmed s body ↔ body = trim s := by
  constructor
  · rintro ⟨⟨front, back, rfl, hfront, hback⟩, hfirst, hlast⟩
    simp only [← isBlank_iff, Bool.not_eq_true] at hfront hback hfirst hlast
    exact (trim_append hfront hback hfirst hlast).symm
  · rintro rfl
    exact trimmed_trim s

/-- A sign and its digits spell the integer that the reader makes of them. -/
theorem valueOf_eq (w : List Char) : valueOf w = signedValue (sign w).1 (sign w).2 := by
  have hdigits (ds : List Char) : Nat.ofDigitChars 10 ds 0 = digitsValue ds :=
    Nat.ofDigitChars_eq_foldl
  fun_cases sign w with
  | case1 ds => rw [valueOf, hdigits]; rfl
  | case2 ds => rw [valueOf, hdigits]; rfl
  | case3 hplus hminus => rw [valueOf, hdigits]; rfl; all_goals assumption

theorem ofChars?_of_integerForm (h : w ∈ integerForm.matches') : (ofChars? w).isSome := by
  obtain ⟨hne, hdigits⟩ := mem_integerForm.mp h
  rw [ofChars?_digits rfl hne hdigits]
  rfl

end Numeral

theorem readInteger_iff {text : String} {i : Int} : readInteger text = some i ↔
    Numeral.trim text.toList ∈ Numeral.integerForm.matches' ∧
      Numeral.valueOf (Numeral.trim text.toList) = i ∧ -2 ^ 63 ≤ i ∧ i < 2 ^ 63 := by
  have hrange : inRange i ↔ -2 ^ 63 ≤ i ∧ i < 2 ^ 63 := by
    rw [inRange_iff, minInteger, maxInteger]
    omega
  rw [readInteger_eq_some, Numeral.mem_integerForm, Numeral.valueOf_eq, hrange]
  constructor
  · rintro ⟨negative, ds, hsign, hne, hdigits, hvalue, hrange⟩
    rw [hsign]
    exact ⟨⟨hne, hdigits⟩, hvalue, hrange⟩
  · rintro ⟨⟨hne, hdigits⟩, hvalue, hrange⟩
    exact ⟨_, _, rfl, hne, hdigits, hvalue, hrange⟩

theorem isSome_readReal {text : String} :
    (readReal text).isSome ↔ Numeral.trim text.toList ∈ Numeral.realForm.matches' := by
  rw [readReal, Option.isSome_map, Numeral.isSome_ofChars?]

/-- The texts that are numbers are the words of a grammar between blanks: those of `realForm` are
reals, and those of `integerForm` whose value has a signed form of 64 bits are integers, that value.
A text that is an integer is a real too. -/
theorem numerals_recognized (text : String) :
    (∀ body, Numeral.Trimmed text.toList body ↔ body = Numeral.trim text.toList) ∧
    ((readReal text).isSome ↔ Numeral.trim text.toList ∈ Numeral.realForm.matches') ∧
    (∀ i, readInteger text = some i ↔
      Numeral.trim text.toList ∈ Numeral.integerForm.matches' ∧
        Numeral.valueOf (Numeral.trim text.toList) = i ∧ -2 ^ 63 ≤ i ∧ i < 2 ^ 63) ∧
    ((readInteger text).isSome → (readReal text).isSome) := by
  refine ⟨fun body => Numeral.trimmed_iff, isSome_readReal, fun i => readInteger_iff, fun h => ?_⟩
  obtain ⟨i, hi⟩ := Option.isSome_iff_exists.mp h
  obtain ⟨hform, -⟩ := readInteger_iff.mp hi
  rw [readReal, Option.isSome_map]
  exact Numeral.ofChars?_of_integerForm hform

/-- A numeral with blanks and zeros around its digits. -/
theorem numerals_recognized_padded :
    readInteger " -007\n" = some (-7) ∧ (readReal " -007\n").isSome ∧
      Numeral.trim " -007\n".toList ∈ Numeral.integerForm.matches' := by
  obtain ⟨-, -, hinteger, hreal⟩ := numerals_recognized " -007\n"
  have hread : readInteger " -007\n" = some (-7) := by decide
  exact ⟨hread, hreal (by rw [hread]; rfl), ((hinteger _).mp hread).1⟩

end Awk
