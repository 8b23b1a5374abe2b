/-! The built-in functions and the numbers of arguments that they take. -/

namespace Awk

inductive Builtin where
  | gsub | index | length | matches | split | sprintf | sub | substr | tolower | toupper
  | atan2 | cos | exp | int | log | rand | sin | sqrt | srand
  | close | fflush | system
  deriving Repr, DecidableEq, Inhabited

namespace Builtin

/-- The name in a program. -/
def name : Builtin → String
  | gsub => "gsub" | index => "index" | length => "length" | .matches => "match"
  | split => "split" | sprintf => "sprintf" | sub => "sub" | substr => "substr"
  | tolower => "tolower" | toupper => "toupper"
  | atan2 => "atan2" | cos => "cos" | exp => "exp" | int => "int" | log => "log"
  | rand => "rand" | sin => "sin" | sqrt => "sqrt" | srand => "srand"
  | close => "close" | fflush => "fflush" | system => "system"

def all : List Builtin :=
  [gsub, index, length, .matches, split, sprintf, sub, substr, tolower, toupper,
   atan2, cos, exp, int, log, rand, sin, sqrt, srand, close, fflush, system]

theorem mem_all (b : Builtin) : b ∈ all := by cases b <;> decide

/-- The function of a name. -/
def ofName? (name : String) : Option Builtin := all.find? (·.name = name)

/-- The least and the greatest number of arguments; `none` where there is no greatest. -/
def argumentRange : Builtin → Nat × Option Nat
  | rand => (0, some 0)
  | length | srand | fflush => (0, some 1)
  | cos | exp | int | log | sin | sqrt | tolower | toupper | close | system => (1, some 1)
  | index | atan2 | .matches => (2, some 2)
  | gsub | sub | split | substr => (2, some 3)
  | sprintf => (1, none)

/-- Whether the function takes `count` arguments. -/
def accepts (b : Builtin) (count : Nat) : Bool :=
  b.argumentRange.1 ≤ count && b.argumentRange.2.all (count ≤ ·)

end Builtin

end Awk
