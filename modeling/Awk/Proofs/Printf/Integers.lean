import Awk.Proofs.Number.Radix
import Awk.Proofs.Printf.Conversions

/-! Integers that are written and read back. Whatever flags, width and precision a conversion has,
its text is a sign or a mark, zeros and the digits, with blanks around them, so that it is read as
the number that was written. -/

namespace Awk.Printf

variable {l : Layout} {letter : Char} {front ds : List Char} {n : Nat} {i : Int}

/-- The letters of signed and of unsigned integers. -/
def signedLetters : List Char := ['d', 'i']

def unsignedLetters : List Char := ['o', 'u', 'x', 'X']

/-! Filling up to the width. -/

theorem length_pad (l : Layout) (zeros : Bool) (body : List Char) :
    (pad l zeros body).length = max body.length l.width := by
  unfold pad
  dsimp only
  split
  · simp only [List.length_append, List.length_replicate]
    omega
  split
  · split
    · omega
    · simp only [List.length_append, List.length_take, List.length_drop, List.length_replicate]
      omega
  · simp only [List.length_append, List.length_replicate]
    omega

/-- The filling stands around what is filled, or behind what is in front of the digits. -/
theorem exists_pad (l : Layout) (zeros : Bool) (h : signLength (front ++ ds) = front.length) :
    ∃ a k b, pad l zeros (front ++ ds) =
      List.replicate a ' ' ++ (front ++ (List.replicate k '0' ++ ds)) ++ List.replicate b ' ' := by
  unfold pad
  dsimp only
  generalize l.width - (front ++ ds).length = fill
  split
  · exact ⟨0, 0, fill, rfl⟩
  split
  · split
    · exact ⟨0, 0, 0, by simp⟩
    · refine ⟨0, fill, 0, ?_⟩
      rw [h, List.take_left, List.drop_left]
      simp
  · exact ⟨fill, 0, 0, by simp⟩

/-- What may stand in front of the digits: a sign or a blank in its place, or a mark. -/
inductive Front : List Char → Prop
  | minus : Front ['-']
  | plus : Front ['+']
  | blank : Front [' ']
  | mark {front : List Char} : Mark front → Front front

theorem signLength_cases (ds : List Char) : signLength ds = 0 ∨ ∃ c ∈ ds, digit? c = none := by
  unfold signLength
  split
  · exact .inr ⟨'-', List.mem_cons_self, rfl⟩
  · exact .inr ⟨'+', List.mem_cons_self, rfl⟩
  · exact .inr ⟨' ', List.mem_cons_self, rfl⟩
  · dsimp only
    split
    · rename_i hds
      rw [List.drop_zero] at hds
      exact .inr ⟨'x', hds ▸ List.mem_cons_of_mem _ List.mem_cons_self, rfl⟩
    · rename_i hds
      rw [List.drop_zero] at hds
      exact .inr ⟨'X', hds ▸ List.mem_cons_of_mem _ List.mem_cons_self, rfl⟩
    · exact .inl rfl

theorem signLength_cons_cases {c : Char} (hc : Front [c]) (ds : List Char) :
    signLength (c :: ds) = 1 ∨ ∃ c ∈ ds, digit? c = none := by
  rcases hc with _ | _ | _ | (_ | _ | _)
  all_goals
    unfold signLength
    dsimp only [List.drop]
    split
    · rename_i hdrop
      have hds : ds = '0' :: 'x' :: _ := hdrop
      exact .inr ⟨'x', hds ▸ List.mem_cons_of_mem _ List.mem_cons_self, rfl⟩
    · rename_i hdrop
      have hds : ds = '0' :: 'X' :: _ := hdrop
      exact .inr ⟨'X', hds ▸ List.mem_cons_of_mem _ List.mem_cons_self, rfl⟩
    · exact .inl rfl

theorem signLength_append (hfront : Front front) (h : ∀ c ∈ ds, (digit? c).isSome) :
    signLength (front ++ ds) = front.length := by
  have hdigits : ¬ ∃ c ∈ ds, digit? c = none := by
    rintro ⟨c, hc, hnone⟩
    have hsome := h c hc
    rw [hnone] at hsome
    cases hsome
  have hsign {c : Char} (hc : Front [c]) := (signLength_cons_cases hc ds).resolve_right hdigits
  cases hfront with
  | minus => exact hsign .minus
  | plus => exact hsign .plus
  | blank => exact hsign .blank
  | mark hfront =>
    cases hfront with
    | none => exact (signLength_cases ds).resolve_right hdigits
    | lower => rfl
    | upper => rfl

/-! Digits and what stands in front of them. -/

/-- Except for a zero with precision zero, the digits are those of the number behind zeros. -/
theorem exists_integerDigits (base : Nat) {precision : Option Nat}
    (h : precision ≠ some 0 ∨ n ≠ 0) :
    ∃ k, integerDigits n base precision = List.replicate k '0' ++ Nat.toDigits base n := by
  unfold integerDigits
  cases precision with
  | none => exact ⟨0, rfl⟩
  | some p =>
    dsimp only
    rw [if_neg (by rintro ⟨rfl, rfl⟩; exact h.elim (· rfl) (· rfl))]
    exact ⟨_, rfl⟩

/-- What is written of a signed integer apart from the filling: its sign, and at least as many
digits as the precision asks for. -/
def signedBody (l : Layout) (i : Int) : List Char :=
  sign (i < 0) l.flags ++ integerDigits i.natAbs 10 l.precision

theorem signed_eq (l : Layout) (i : Int) :
    signed l i = pad l (l.flags.zero && l.precision.isNone) (signedBody l i) := rfl

theorem front_sign (negative : Bool) (f : Flags) : Front (sign negative f) := by
  unfold sign
  split
  · exact .minus
  split
  · exact .plus
  split
  · exact .blank
  · exact .mark .none

/-- A blank in the place of a sign is one of the blanks in front. -/
theorem exists_signed (a : Nat) (i : Int) (f : Flags) (s : List Char) :
    ∃ a' front, Signed i front ∧
      List.replicate a ' ' ++ (sign (i < 0) f ++ s) = List.replicate a' ' ' ++ (front ++ s) := by
  unfold sign
  by_cases hneg : i < 0
  · exact ⟨a, ['-'], .minus hneg, by simp [hneg]⟩
  have hle : 0 ≤ i := not_lt.mp hneg
  rw [decide_eq_false hneg, if_neg Bool.false_ne_true]
  split
  · exact ⟨a, ['+'], .plus hle, rfl⟩
  split
  · exact ⟨a + 1, [], .bare hle, by simp [List.replicate_succ']⟩
  · exact ⟨a, [], .bare hle, rfl⟩

/-- A signed integer is read back from its text. -/
theorem readInteger_signed (l : Layout) (hi : inRange i) (h : l.precision ≠ some 0 ∨ i ≠ 0) :
    readInteger (String.ofList (signed l i)) = some i := by
  obtain ⟨k, hdigits⟩ := exists_integerDigits 10 (h.imp_right Int.natAbs_ne_zero.mpr)
  have hsome : ∀ c ∈ List.replicate k '0' ++ Nat.toDigits 10 i.natAbs, (digit? c).isSome :=
    List.map_id (Nat.toDigits 10 i.natAbs) ▸ isSome_digit? spells_lower (by decide) (by decide)
  obtain ⟨a, k', b, hpad⟩ := exists_pad l (l.flags.zero && l.precision.isNone)
    (signLength_append (front_sign (i < 0) l.flags) hsome)
  obtain ⟨a', front, hfront, hblank⟩ := exists_signed a i l.flags
    (List.replicate k' '0' ++ (List.replicate k '0' ++ Nat.toDigits 10 i.natAbs))
  rw [signed_eq, signedBody, hdigits, hpad, hblank, ← List.append_assoc (List.replicate k' '0'),
    List.replicate_append_replicate]
  exact readInteger_digits a' (k' + k) b hi hfront

/-- The base of a letter. -/
def radix (letter : Char) : Nat := if letter = 'o' then 8 else if letter = 'u' then 10 else 16

/-- The case of the digits that a letter asks for. -/
def cased (letter : Char) : Char → Char := if letter = 'X' then Char.toUpper else id

/-- What an integer is as 64 bits without sign. -/
def bits (i : Int) : Nat := (i % 18446744073709551616).toNat

/-- What is written of an integer without sign apart from the filling: the mark of its base, if the
flags ask for one, and at least as many digits as the precision asks for. -/
def unsignedBody (l : Layout) (letter : Char) (i : Int) : List Char :=
  let ds := integerDigits (bits i) (radix letter) l.precision
  let ds := if letter = 'X' then ds.map Char.toUpper else ds
  let front :=
    if l.flags.alternate && bits i ≠ 0 then
      if letter = 'o' then (if ds.head? = some '0' then [] else ['0'])
      else if letter = 'u' then [] else ['0', letter]
    else []
  front ++ ds

theorem unsigned_eq (l : Layout) (letter : Char) (i : Int) : unsigned l letter i =
    pad l (l.flags.zero && l.precision.isNone) (unsignedBody l letter i) := rfl

theorem radix_bounds (letter : Char) : 1 < radix letter ∧ radix letter ≤ 16 := by
  unfold radix
  split
  · decide
  · split <;> decide

theorem spells_cased (letter : Char) : Spells (cased letter) := by
  unfold cased
  split
  · exact spells_upper
  · exact spells_lower

/-- The zero that marks base eight is one of the zeros in front of the digits. -/
theorem exists_unsignedBody (hletter : letter ∈ unsignedLetters)
    (h : l.precision ≠ some 0 ∨ bits i ≠ 0) :
    ∃ front k, Mark front ∧ unsignedBody l letter i = front ++
      (List.replicate k '0' ++ (Nat.toDigits (radix letter) (bits i)).map (cased letter)) := by
  obtain ⟨k, hdigits⟩ := exists_integerDigits (radix letter) h
  have hcased : (if letter = 'X' then (integerDigits (bits i) (radix letter) l.precision).map
      Char.toUpper else integerDigits (bits i) (radix letter) l.precision) =
        List.replicate k '0' ++ (Nat.toDigits (radix letter) (bits i)).map (cased letter) := by
    rw [hdigits, cased]
    split
    · rw [List.map_append, List.map_replicate]
      rfl
    · rw [List.map_id]
  unfold unsignedBody
  dsimp only
  rw [hcased]
  split
  · split
    · split
      · exact ⟨[], k, .none, rfl⟩
      · exact ⟨[], k + 1, .none, rfl⟩
    split
    · exact ⟨[], k, .none, rfl⟩
    · simp only [unsignedLetters, List.mem_cons, List.not_mem_nil, or_false] at hletter
      obtain rfl | rfl | rfl | rfl := hletter
      · contradiction
      · contradiction
      · exact ⟨_, k, .lower, rfl⟩
      · exact ⟨_, k, .upper, rfl⟩
  · exact ⟨[], k, .none, rfl⟩

/-- An integer without sign is read back from its text. -/
theorem readRadix_unsigned (l : Layout) (hletter : letter ∈ unsignedLetters)
    (h : l.precision ≠ some 0 ∨ bits i ≠ 0) :
    readRadix (radix letter) (String.ofList (unsigned l letter i)) = some (bits i) := by
  obtain ⟨hbase, hle⟩ := radix_bounds letter
  have hspells := spells_cased letter
  obtain ⟨front, k, hfront, hbody⟩ := exists_unsignedBody hletter h
  obtain ⟨a, k', b, hpad⟩ := exists_pad l (l.flags.zero && l.precision.isNone)
    (signLength_append (.mark hfront) (isSome_digit? hspells hbase hle))
  rw [unsigned_eq, hbody, hpad, ← List.append_assoc (List.replicate k' '0'),
    List.replicate_append_replicate]
  exact readRadix_digits hspells hbase hle a (k' + k) b (bits i) hfront

/-! Conversions of integers. -/

/-- What is written of an integer apart from the filling. -/
def integerBody (l : Layout) (letter : Char) (i : Int) : List Char :=
  if letter ∈ signedLetters then signedBody l i else unsignedBody l letter i

theorem convert_signed (l : Layout) (hletter : letter ∈ signedLetters) (v : Value) :
    convert l letter v = signed l v.toInteger := by
  simp only [signedLetters, List.mem_cons, List.not_mem_nil, or_false] at hletter
  obtain rfl | rfl := hletter <;> rfl

theorem convert_unsigned (l : Layout) (hletter : letter ∈ unsignedLetters) (v : Value) :
    convert l letter v = unsigned l letter v.toInteger := by
  simp only [unsignedLetters, List.mem_cons, List.not_mem_nil, or_false] at hletter
  obtain rfl | rfl | rfl | rfl := hletter <;> rfl

theorem convert_integer (l : Layout) (hletter : letter ∈ signedLetters ++ unsignedLetters)
    (v : Value) : convert l letter v =
      pad l (l.flags.zero && l.precision.isNone) (integerBody l letter v.toInteger) := by
  unfold integerBody
  split
  · rename_i hsigned
    exact convert_signed l hsigned v
  · rename_i hsigned
    exact convert_unsigned l ((List.mem_append.mp hletter).resolve_left hsigned) v

/-- No other integer in the range is zero as 64 bits. -/
theorem bits_ne_zero (hi : inRange i) (h : i ≠ 0) : bits i ≠ 0 := by
  rw [inRange_iff] at hi
  simp only [minInteger, maxInteger] at hi
  unfold bits
  omega

theorem Conversion.precision_ne_zero {c : Conversion}
    (h : c.precision.map Size.number ≠ some 0) : c.layout.precision ≠ some 0 := by
  unfold Conversion.layout
  cases hprecision : c.precision with
  | none => exact (Option.some_ne_none 0).symm
  | some s =>
    rw [hprecision] at h
    have hne : s.number ≠ 0 := fun hzero => h (congrArg some hzero)
    dsimp only
    split
    · exact (Option.some_ne_none 0).symm
    · intro hzero
      have hmin : min s.number.toNat maxPrecision = 0 := Option.some.inj hzero
      rw [maxPrecision] at hmin
      omega

/-- Whatever flags, width and precision an integer is written with, unless it is a zero with
precision zero: it is read back from its text, and an unsigned one is read, in the base of its
letter, as what it is as 64 bits. The text is as long as what is written of the number, or as the
width where that is more. -/
theorem format_integer (c : Conversion) (hletter : c.letter ∈ signedLetters ++ unsignedLetters)
    {i : Int} (hi : inRange i) :
    (c.precision.map Size.number ≠ some 0 ∨ i ≠ 0 →
      (c.letter ∈ signedLetters →
        readInteger (format (String.ofList c.text) (c.arguments ++ [.ofInt i])) = some i) ∧
      (c.letter ∈ unsignedLetters →
        readRadix (radix c.letter) (format (String.ofList c.text) (c.arguments ++ [.ofInt i])) =
          some (i % 2 ^ 64).toNat)) ∧
    (format (String.ofList c.text) (c.arguments ++ [.ofInt i])).length =
      max (integerBody c.layout c.letter i).length (min c.width.number.natAbs maxWidth) := by
  have hpercent : c.letter ≠ '%' := by
    intro heq
    rw [heq] at hletter
    exact absurd hletter (by decide)
  rw [c.format_text hpercent]
  have hvalue : (Value.ofInt i).toInteger = i := Value.toInteger_ofInt hi
  refine ⟨fun h => ⟨fun hsigned => ?_, fun hunsigned => ?_⟩, ?_⟩
  · rw [convert_signed _ hsigned, hvalue]
    exact readInteger_signed _ hi (h.imp_left Conversion.precision_ne_zero)
  · rw [convert_unsigned _ hunsigned, hvalue]
    exact readRadix_unsigned _ hunsigned (h.imp Conversion.precision_ne_zero (bits_ne_zero hi))
  · rw [convert_integer _ hletter, hvalue, String.length_ofList, length_pad]
    rfl

/-- All flags at once, a width that its argument makes negative and a precision that its argument
takes away, with the least integer. -/
def crowded : Conversion where
  flags := ['0', '#', ' ', '+', '-', '0']
  width := .star ⟨"-24"⟩
  precision := some (.star ⟨"-3"⟩)
  letter := 'X'
  flags_mem := by simp [flagLetters]
  width_plain := trivial
  width_head := by decide
  precision_plain := by
    rintro _ ⟨⟩
    trivial
  letter_mem := by decide

theorem format_integer_crowded :
    crowded.letter ∈ signedLetters ++ unsignedLetters ∧ inRange minInteger ∧
      (crowded.precision.map Size.number ≠ some 0 ∨ minInteger ≠ 0) ∧
      crowded.letter ∈ unsignedLetters ∧
      format "%0# +-0*.*X" [⟨"-24"⟩, ⟨"-3"⟩, .ofInt minInteger] = "0X8000000000000000      " ∧
      readRadix 16 (format "%0# +-0*.*X" [⟨"-24"⟩, ⟨"-3"⟩, .ofInt minInteger]) =
        some (minInteger % 2 ^ 64).toNat ∧
      (format "%0# +-0*.*X" [⟨"-24"⟩, ⟨"-3"⟩, .ofInt minInteger]).length = 24 := by
  have hletter : crowded.letter ∈ signedLetters ++ unsignedLetters := by decide
  have hrange : inRange minInteger := by decide
  have hnonzero : crowded.precision.map Size.number ≠ some 0 ∨ minInteger ≠ 0 := .inr (by decide)
  have hunsigned : crowded.letter ∈ unsignedLetters := by decide
  obtain ⟨hread, hlength⟩ := format_integer crowded hletter hrange
  have htext : String.ofList crowded.text = "%0# +-0*.*X" := by decide
  have hbody : (integerBody crowded.layout 'X' minInteger).length = 18 := by decide +kernel
  have hwidth : min crowded.width.number.natAbs maxWidth = 24 := by decide +kernel
  rw [htext] at hread hlength
  refine ⟨hletter, hrange, hnonzero, hunsigned, by decide +kernel, (hread hnonzero).2 hunsigned, ?_⟩
  exact hlength.trans (by rw [hwidth]; exact (congrArg (max · 24) hbody))

end Awk.Printf
