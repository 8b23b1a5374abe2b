import Awk.Proofs.Printf.Pieces

/-! Conversions as they are written. Flags in any order and number, a width and a precision, each in
digits or as a star, and a letter: what stands in the format and the arguments for the stars come to
the layout that the value of the conversion is written in. -/

namespace Awk.Printf

/-- The characters of the flags. -/
def flagLetters : List Char := ['-', '+', ' ', '#', '0']

/-- A width or a precision in a format: digits, or a star with the argument that it takes. -/
inductive Size where
  | digits (ds : List Char)
  | star (v : Value)

namespace Size

def text : Size → List Char
  | digits ds => ds
  | star _ => ['*']

def arguments : Size → List Value
  | digits _ => []
  | star v => [v]

/-- The number that it stands for, which an argument can make negative. -/
def number : Size → Int
  | digits ds => digitsValue ds
  | star v => v.toInteger

def amount : Size → Amount
  | digits ds => .given (digitsValue ds)
  | star _ => .star

/-- Its digits are digits. -/
def Plain : Size → Prop
  | digits ds => ∀ d ∈ ds, d.isDigit
  | star _ => True

end Size

/-- A conversion in a format. A zero in front of the digits of the width is one of the flags. -/
structure Conversion where
  flags : List Char
  width : Size
  precision : Option Size
  letter : Char
  flags_mem : ∀ c ∈ flags, c ∈ flagLetters
  width_plain : width.Plain
  width_head : width.text.head? ≠ some '0'
  precision_plain : ∀ s, precision = some s → s.Plain
  letter_mem : letter ∈ letters

/-- The flags together with those that characters set. -/
def Flags.adding (f : Flags) (cs : List Char) : Flags :=
  ⟨f.left || cs.contains '-', f.plus || cs.contains '+', f.space || cs.contains ' ',
    f.alternate || cs.contains '#', f.zero || cs.contains '0'⟩

namespace Conversion

variable (c : Conversion)

/-- The point and the precision, or nothing. -/
def precisionText : List Char :=
  match c.precision with
  | none => []
  | some s => '.' :: s.text

/-- What stands in the format. -/
def text : List Char := '%' :: (c.flags ++ (c.width.text ++ (c.precisionText ++ [c.letter])))

/-- The arguments that are taken before the value. -/
def arguments : List Value :=
  c.width.arguments ++ match c.precision with
    | none => []
    | some s => s.arguments

/-- The layout that it comes to. A negative width justifies to the left, and a negative precision is
none. -/
def layout : Layout where
  flags := { Flags.adding {} c.flags with left := c.flags.contains '-' || c.width.number < 0 }
  width := min c.width.number.natAbs maxWidth
  precision := match c.precision with
    | none => none
    | some s => if s.number < 0 then none else some (min s.number.toNat maxPrecision)

end Conversion

theorem Flags.set?_eq_none {c : Char} (h : c ∉ flagLetters) (f : Flags) : f.set? c = none := by
  unfold Flags.set?
  split
  all_goals first
    | rfl
    | exact absurd (by decide) h

theorem flagsOf_append {cs rest : List Char} (h : ∀ c ∈ cs, c ∈ flagLetters)
    (hrest : ∀ c ∈ rest.head?, c ∉ flagLetters) (f : Flags) :
    flagsOf f (cs ++ rest) = (f.adding cs, rest) := by
  induction cs generalizing f with
  | nil =>
    have hadding : f.adding [] = f := by simp [Flags.adding]
    rw [hadding, List.nil_append]
    cases rest with
    | nil => rfl
    | cons c rest => rw [flagsOf, Flags.set?_eq_none (hrest c rfl)]
  | cons c cs ih =>
    obtain ⟨hc, hcs⟩ := List.forall_mem_cons.mp h
    have hset : ∃ f', f.set? c = some f' ∧ f'.adding cs = f.adding (c :: cs) := by
      simp only [flagLetters, List.mem_cons, List.not_mem_nil, or_false] at hc
      obtain rfl | rfl | rfl | rfl | rfl := hc <;> exact ⟨_, rfl, by simp [Flags.adding]⟩
    obtain ⟨f', hf, hadding⟩ := hset
    rw [List.cons_append, flagsOf, hf, ← hadding]
    exact ih hcs f'

theorem amountOf_append {s : Size} (h : s.Plain) {rest : List Char}
    (hrest : ∀ c ∈ rest.head?, c.isDigit = false ∧ c ≠ '*') :
    amountOf (s.text ++ rest) = (s.amount, rest) := by
  cases s with
  | star v => rfl
  | digits ds =>
    have htake : rest.takeWhile Char.isDigit = [] := by
      cases rest with
      | nil => rfl
      | cons c rest => exact List.takeWhile_cons_of_neg (by simp [(hrest c rfl).1])
    have hdrop : rest.dropWhile Char.isDigit = rest := by
      cases rest with
      | nil => rfl
      | cons c rest => exact List.dropWhile_cons_of_neg (by simp [(hrest c rfl).1])
    have hstar (r : List Char) : ds ++ rest ≠ '*' :: r := by
      intro heq
      cases ds with
      | nil => exact (hrest '*' (by rw [← List.nil_append rest, heq]; rfl)).2 rfl
      | cons d ds =>
        have hd := h d List.mem_cons_self
        rw [(List.cons.inj heq).1] at hd
        exact absurd hd (by decide)
    show amountOf (ds ++ rest) = _
    unfold amountOf
    split
    · rename_i heq
      exact absurd heq (hstar _)
    · rw [List.takeWhile_append_of_pos h, List.dropWhile_append_of_pos h, htake, hdrop,
        List.append_nil]
      rfl

theorem digit_plain {d : Char} (h : d.isDigit) (hzero : d ≠ '0') : d ∉ flagLetters := by
  intro hmem
  simp only [flagLetters, List.mem_cons, List.not_mem_nil, or_false] at hmem
  obtain rfl | rfl | rfl | rfl | rfl := hmem
  · exact absurd h (by decide)
  · exact absurd h (by decide)
  · exact absurd h (by decide)
  · exact absurd h (by decide)
  · exact hzero rfl

theorem letter_plain {c : Char} (h : c ∈ letters) :
    c ∉ flagLetters ∧ c.isDigit = false ∧ c ≠ '*' ∧ c ≠ '.' := by
  simp only [letters, List.mem_cons, List.not_mem_nil, or_false] at h
  obtain rfl | rfl | rfl | rfl | rfl | rfl | rfl | rfl | rfl | rfl | rfl | rfl | rfl | rfl | rfl := h
  all_goals decide

namespace Conversion

variable (c : Conversion)

theorem precisionOf_text :
    precisionOf (c.precisionText ++ [c.letter]) =
      (c.precision.map Size.amount, [c.letter]) := by
  obtain ⟨hflag, hdigit, hstar, hpoint⟩ := letter_plain c.letter_mem
  unfold precisionText
  cases hprecision : c.precision with
  | none =>
    dsimp only
    rw [List.nil_append]
    unfold precisionOf
    split
    · rename_i heq
      exact absurd (List.cons.inj heq).1 hpoint
    · rfl
  | some s =>
    dsimp only
    rw [List.cons_append, precisionOf,
      amountOf_append (c.precision_plain s hprecision) (by simp [hdigit, hstar])]
    rfl

theorem specOf_text :
    specOf (c.flags ++ (c.width.text ++ (c.precisionText ++ [c.letter]))) =
      (⟨Flags.adding {} c.flags, c.width.amount, c.precision.map Size.amount⟩, [c.letter]) := by
  obtain ⟨hflag, hdigit, hstar, hpoint⟩ := letter_plain c.letter_mem
  have hbehind : ∀ b ∈ (c.precisionText ++ [c.letter]).head?,
      b ∉ flagLetters ∧ b.isDigit = false ∧ b ≠ '*' := by
    unfold precisionText
    cases c.precision with
    | none => simp [hflag, hdigit, hstar]
    | some s => simp; decide
  have hwidth : ∀ b ∈ (c.width.text ++ (c.precisionText ++ [c.letter])).head?,
      b ∉ flagLetters := by
    have hplain := c.width_plain
    have hhead := c.width_head
    cases hsize : c.width with
    | star v => exact fun b hb => Option.some.inj hb ▸ by decide
    | digits ds =>
      rw [hsize] at hplain hhead
      cases ds with
      | nil => exact fun b hb => (hbehind b hb).1
      | cons d ds =>
        rintro b ⟨⟩
        exact digit_plain (hplain d List.mem_cons_self) fun heq => hhead (congrArg some heq)
  unfold specOf
  rw [flagsOf_append c.flags_mem hwidth]
  dsimp only
  rw [amountOf_append c.width_plain fun b hb => (hbehind b hb).2]
  dsimp only
  rw [precisionOf_text]

/-- The arguments for the stars give the layout, and the others are left. -/
theorem layout_eq (args : List Value) :
    (Spec.mk (Flags.adding {} c.flags) c.width.amount (c.precision.map Size.amount)).layout
      (c.arguments ++ args) = (c.layout, args) := by
  have hdigits (ds : List Char) : ¬ (digitsValue ds : Int) < 0 := by omega
  unfold layout arguments Spec.layout
  cases c.width with
  | digits ds =>
    rcases c.precision with _ | (ds' | v')
    · simp [Size.amount, Size.arguments, Size.number, Flags.adding, hdigits]
    · simp [Size.amount, Size.arguments, Size.number, Flags.adding, hdigits]
    · by_cases h' : v'.toInteger < 0 <;>
        simp [Size.amount, Size.arguments, Size.number, Flags.adding, hdigits, take, h']
  | star v =>
    by_cases h : v.toInteger < 0 <;> rcases c.precision with _ | (ds' | v')
    case pos.some.star | neg.some.star =>
      by_cases h' : v'.toInteger < 0 <;>
        simp [Size.amount, Size.arguments, Size.number, Flags.adding, take, h, h']
    all_goals simp [Size.amount, Size.arguments, Size.number, Flags.adding, hdigits, take, h]

/-- A format that is a conversion renders the value that follows the arguments for the stars. -/
theorem format_text (hletter : c.letter ≠ '%') (v : Value) :
    format (String.ofList c.text) (c.arguments ++ [v]) =
      String.ofList (convert c.layout c.letter v) := by
  have hspec := c.specOf_text
  have hpiece : piece '%' (c.flags ++ (c.width.text ++ (c.precisionText ++ [c.letter]))) =
      (.conversion ⟨Flags.adding {} c.flags, c.width.amount, c.precision.map Size.amount⟩ c.letter,
        []) := by
    rw [piece_conversion (by rw [hspec]), hspec, if_pos (by simpa using c.letter_mem)]
  rw [format, String.toList_ofList, text, pieces_cons, hpiece]
  show String.ofList (renderAll [_] _) = _
  rw [renderAll_cons, render, layout_eq]
  dsimp only
  rw [if_neg hletter]
  simp [renderAll, take]

end Conversion

end Awk.Printf
