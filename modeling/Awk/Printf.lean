import Awk.Value

/-! Formatted output. `Printf.pieces` takes a format apart into ordinary characters and conversions,
without looking at any argument; `Printf.format` renders the pieces in order, each taking the
arguments that it asks for. A missing argument reads as the empty text, and an unknown conversion is
copied. -/

namespace Awk.Printf

/-- The widest field. -/
def maxWidth : Nat := 65535

/-- The greatest precision. -/
def maxPrecision : Nat := 4096

structure Flags where
  left : Bool := false
  plus : Bool := false
  space : Bool := false
  alternate : Bool := false
  zero : Bool := false
  deriving Repr, DecidableEq, Inhabited

/-- A width or a precision, written out or taken from an argument. -/
inductive Amount where
  | given (n : Nat)
  | star
  deriving Repr, DecidableEq

/-- The part of a conversion between the percent sign and its letter. -/
structure Spec where
  flags : Flags
  width : Amount
  precision : Option Amount
  deriving Repr, DecidableEq

/-- A piece of a format. -/
inductive Piece where
  | char (c : Char)
  | conversion (spec : Spec) (letter : Char)
  /-- A conversion that the format breaks off: it is copied. -/
  | unfinished (text : List Char) (spec : Spec)
  /-- A conversion of no known letter: it is copied. -/
  | unknown (text : List Char) (spec : Spec)
  deriving Repr, DecidableEq

def Flags.set? (f : Flags) : Char → Option Flags
  | '-' => some { f with left := true }
  | '+' => some { f with plus := true }
  | ' ' => some { f with space := true }
  | '#' => some { f with alternate := true }
  | '0' => some { f with zero := true }
  | _ => none

/-- Flags at the front, and the rest. -/
def flagsOf (f : Flags) : List Char → Flags × List Char
  | [] => (f, [])
  | c :: r => match f.set? c with
    | some f => flagsOf f r
    | none => (f, c :: r)

/-- A star or a number at the front, and the rest. No digits are 0. -/
def amountOf : List Char → Amount × List Char
  | '*' :: r => (.star, r)
  | s => (.given (digitsValue (s.takeWhile Char.isDigit)), s.dropWhile Char.isDigit)

/-- A point and a precision at the front, and the rest. -/
def precisionOf : List Char → Option Amount × List Char
  | '.' :: r => let (a, r) := amountOf r; (some a, r)
  | s => (none, s)

/-- What stands between a percent sign and the letter, and the rest. -/
def specOf (s : List Char) : Spec × List Char :=
  let (flags, s) := flagsOf {} s
  let (width, s) := amountOf s
  let (precision, s) := precisionOf s
  (⟨flags, width, precision⟩, s)

def letters : List Char :=
  ['%', 'c', 's', 'd', 'i', 'o', 'u', 'x', 'X', 'e', 'E', 'f', 'F', 'g', 'G']

/-- The first piece of the format `c :: s`, and the rest. -/
def piece (c : Char) (s : List Char) : Piece × List Char :=
  if c ≠ '%' then (.char c, s)
  else
    let (spec, rest) := specOf s
    match rest with
    | [] => (.unfinished ('%' :: s) spec, [])
    | l :: rest =>
      if letters.contains l then (.conversion spec l, rest)
      else (.unknown ('%' :: s.take (s.length - rest.length)) spec, rest)

/-- The pieces of a format. Every piece takes a character, so `fuel` as large as the format
suffices. -/
def piecesFrom : Nat → List Char → List Piece
  | 0, _ => []
  | _ + 1, [] => []
  | fuel + 1, c :: s => let (p, rest) := piece c s; p :: piecesFrom fuel rest

def pieces (s : List Char) : List Piece := piecesFrom s.length s

/-- The first argument, empty where none is left, and the others. -/
def take (args : List Value) : Value × List Value := (args.headD .empty, args.drop 1)

/-- A conversion's width and precision with the arguments for their stars filled in. A negative
width justifies to the left; a negative precision is none. -/
structure Layout where
  flags : Flags
  width : Nat
  precision : Option Nat
  deriving Repr, DecidableEq

/-- Takes the arguments that the stars of `spec` ask for. -/
def Spec.layout (spec : Spec) (args : List Value) : Layout × List Value :=
  let (flags, width, args) := match spec.width with
    | .given n => (spec.flags, n, args)
    | .star =>
      let (v, args) := take args
      let n := v.toInteger
      (if n < 0 then { spec.flags with left := true } else spec.flags, n.natAbs, args)
  let (precision, args) := match spec.precision with
    | none => (none, args)
    | some (.given n) => (some n, args)
    | some .star =>
      let (v, args) := take args
      let n := v.toInteger
      (if n < 0 then none else some n.toNat, args)
  (⟨flags, min width maxWidth, precision.map (min · maxPrecision)⟩, args)

/-- The length of a sign and a radix prefix at the front of a number's text. -/
def signLength (body : List Char) : Nat :=
  let sign := match body with
    | '-' :: _ | '+' :: _ | ' ' :: _ => 1
    | _ => 0
  match body.drop sign with
  | '0' :: 'x' :: _ | '0' :: 'X' :: _ => sign + 2
  | _ => sign

/-- Fills `body` up to the width: with blanks behind it, with zeros after its sign, or with blanks
in front. -/
def pad (l : Layout) (zeros : Bool) (body : List Char) : List Char :=
  let fill := l.width - body.length
  if l.flags.left then body ++ List.replicate fill ' '
  else if zeros then
    let n := signLength body
    if fill = 0 then body else body.take n ++ List.replicate fill '0' ++ body.drop n
  else List.replicate fill ' ' ++ body

/-- The sign in front of a number. -/
def sign (negative : Bool) (f : Flags) : List Char :=
  if negative then ['-'] else if f.plus then ['+'] else if f.space then [' '] else []

/-- Digits with at least the precision's number of them; a zero with precision zero has none. -/
def integerDigits (n : Nat) (base : Nat) (precision : Option Nat) : List Char :=
  let ds := Nat.toDigits base n
  match precision with
  | none => ds
  | some p => if p = 0 ∧ n = 0 then [] else Decimal.padZeros p ds

/-- A signed integer. -/
def signed (l : Layout) (i : Int) : List Char :=
  pad l (l.flags.zero && l.precision.isNone)
    (sign (i < 0) l.flags ++ integerDigits i.natAbs 10 l.precision)

/-- An integer read as 64 bits without sign, in the base of its letter. -/
def unsigned (l : Layout) (letter : Char) (i : Int) : List Char :=
  let n := (i % 18446744073709551616).toNat
  let base := if letter = 'o' then 8 else if letter = 'u' then 10 else 16
  let ds := integerDigits n base l.precision
  let ds := if letter = 'X' then ds.map Char.toUpper else ds
  let front :=
    if l.flags.alternate && n ≠ 0 then
      if letter = 'o' then (if ds.head? = some '0' then [] else ['0'])
      else if letter = 'u' then [] else ['0', letter]
    else []
  pad l (l.flags.zero && l.precision.isNone) (front ++ ds)

/-- A magnitude with `places` digits after the point. -/
def fixed (num den places : Nat) (alternate : Bool) : List Char :=
  Decimal.fixedPlaces num den places ++ (if alternate && places = 0 then ['.'] else [])

/-- A magnitude with one digit before the point and an exponent of at least two digits. -/
def exponential (num den places : Nat) (alternate : Bool) : List Char :=
  let (n, e) := Decimal.significant num den places
  Decimal.pointed places (Decimal.padZeros (places + 1) (Decimal.digitChars n)) ++
    (if alternate && places = 0 then ['.'] else []) ++
    'e' :: (if e < 0 then '-' else '+') :: Decimal.padZeros 2 (Decimal.digitChars e.natAbs)

/-- The text without zeros at the end of its fraction. -/
def stripZeros (s : List Char) : List Char :=
  let mantissa := s.takeWhile (· ≠ 'e')
  let exponent := s.dropWhile (· ≠ 'e')
  if mantissa.contains '.' then
    ((mantissa.reverse.dropWhile (· = '0')).dropWhile (· = '.')).reverse ++ exponent
  else s

/-- The exponent form for exponents below -4 or not below the precision, else the positional form
with as many digits. -/
def general (num den precision : Nat) (alternate : Bool) : List Char :=
  let p := max precision 1
  let e := (Decimal.significant num den (p - 1)).2
  let s :=
    if e < -4 ∨ (p : Int) ≤ e then exponential num den (p - 1) alternate
    else fixed num den ((p : Int) - 1 - e).toNat alternate
  if alternate then s else stripZeros s

/-- A real in the form of its letter. -/
def real (l : Layout) (letter : Char) (x : Float) : List Char :=
  let cased := fun s : List Char => if letter.isUpper then s.map Char.toUpper else s
  match Binary64.ofFloat x with
  | .nan => pad l false (sign false l.flags ++ cased ['n', 'a', 'n'])
  | .infinite negative => pad l false (sign negative l.flags ++ cased ['i', 'n', 'f'])
  | .finite d =>
    let (num, den) := d.ratio
    let p := l.precision.getD 6
    let digits := match letter.toLower with
      | 'e' => exponential num den p l.flags.alternate
      | 'g' => general num den p l.flags.alternate
      | _ => fixed num den p l.flags.alternate
    pad l l.flags.zero (sign d.negative l.flags ++ cased digits)

/-- A number's character, or the first character of a text. -/
def character (v : Value) : List Char :=
  match v.toNumber? with
  | some _ =>
    let n := v.toInteger
    if 0 ≤ n ∧ n.toNat.isValidChar then [Char.ofNat n.toNat] else []
  | none => v.text.toList.take 1

/-- A conversion of one argument. -/
def convert (l : Layout) (letter : Char) (v : Value) : List Char :=
  match letter with
  | 'c' => pad l false (character v)
  | 's' =>
    let s := v.text.toList
    pad l false (match l.precision with
      | some p => s.take p
      | none => s)
  | 'd' | 'i' => signed l v.toInteger
  | 'o' | 'u' | 'x' | 'X' => unsigned l letter v.toInteger
  | _ => real l letter v.toReal

/-- Renders one piece and returns the arguments that are left. -/
def render (p : Piece) (args : List Value) : List Char × List Value :=
  match p with
  | .char c => ([c], args)
  | .unfinished text spec => (text, (spec.layout args).2)
  | .unknown text spec => (text, (spec.layout args).2)
  | .conversion spec letter =>
    let (l, args) := spec.layout args
    if letter = '%' then (['%'], args)
    else let (v, args) := take args; (convert l letter v, args)

/-- Renders pieces in order. -/
def renderAll : List Piece → List Value → List Char
  | [], _ => []
  | p :: ps, args => let (s, args) := render p args; s ++ renderAll ps args

/-- The text of a format with its arguments. -/
def format (f : String) (args : List Value) : String :=
  String.ofList (renderAll (pieces f.toList) args)

end Awk.Printf
