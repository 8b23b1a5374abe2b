import Awk.Eval.Input

/-! The arguments of a command line: options, then the program's text unless files hold it, then the
operands. An option's value is the rest of its argument, or the next one if nothing is left. -/

namespace Awk

/-- Where a program's text comes from. -/
inductive ProgramText where
  | given (text : String)
  | files (names : List String)
  deriving Repr, DecidableEq

/-- What the arguments of a run say. -/
structure Options where
  fieldSeparator : Option String
  assignments : List (String × String)
  program : ProgramText
  operands : List String
  /-- Whether the program is listed before it runs. -/
  debug : Bool
  deriving Repr, DecidableEq

/-- What a command line asks for. -/
inductive Request where
  | help
  | version
  | run (options : Options)
  deriving Repr, DecidableEq

inductive UsageError where
  | missingValue (option : String)
  | unknownOption (argument : String)
  | invalidAssignment (text : String)
  | missingProgram
  /-- The character behind the dash is not a single byte, so the option cannot be told from its
  value. -/
  | indivisible (argument : String)
  deriving Repr, DecidableEq

namespace UsageError

def message : UsageError → String
  | missingValue option => "option \x60" ++ option ++ "\x60 requires an argument"
  | unknownOption argument => "unknown option \x60" ++ argument ++ "\x60"
  | invalidAssignment text =>
    "\x60" ++ text ++ "\x60 is not a valid assignment (expected var=value)"
  | missingProgram => "no program text given"
  | indivisible argument => "argument \x60" ++ argument ++ "\x60 cannot be divided"

end UsageError

/-- What an argument is before the program's text. -/
inductive Argument where
  | endOfOptions
  | help
  | version
  | debug
  /-- An option of one letter, with what is attached to it. -/
  | option (letter : Char) (attached : String)
  | indivisible
  | positional
  deriving Repr, DecidableEq

namespace Argument

def ofString (text : String) : Argument :=
  if text = "--" then .endOfOptions
  else if text = "--help" || text = "-h" then .help
  else if text = "--version" then .version
  else if text = "--debug" then .debug
  else match text.toList with
    | '-' :: letter :: attached =>
      if letter.toNat < 128 then .option letter (.ofList attached) else .indivisible
    | _ => .positional

end Argument

/-- What the options so far have said, later assignments and files last. -/
structure OptionValues where
  fieldSeparator : Option String := none
  assignments : List (String × String) := []
  files : List String := []
  debug : Bool := false
  deriving Repr, DecidableEq

namespace OptionValues

/-- The separator that an option's value stands for: a tab may be written as a letter or as an
escape. -/
def separator (value : String) : String := if value = "t" || value = "\\t" then "\t" else value

/-- Whether an option of this letter exists. -/
def known (letter : Char) : Bool := letter = 'F' || letter = 'v' || letter = 'f'

/-- Takes up an option's value. -/
def add (o : OptionValues) (letter : Char) (value : String) : Except UsageError OptionValues :=
  if letter = 'F' then .ok { o with fieldSeparator := some (separator value) }
  else if letter = 'v' then match assignment? value with
    | some a => .ok { o with assignments := o.assignments ++ [a] }
    | none => .error (.invalidAssignment value)
  else .ok { o with files := o.files ++ [value] }

/-- The request of a run with these options and the arguments behind them. -/
def request (o : OptionValues) (rest : List String) : Except UsageError Request :=
  match o.files, rest with
  | [], [] => .error .missingProgram
  | [], text :: operands =>
    .ok (.run ⟨o.fieldSeparator, o.assignments, .given text, operands, o.debug⟩)
  | files, operands =>
    .ok (.run ⟨o.fieldSeparator, o.assignments, .files files, operands, o.debug⟩)

/-- Reads arguments behind those that these options come from. -/
def readOn (o : OptionValues) : List String → Except UsageError Request
  | [] => o.request []
  | argument :: rest => match Argument.ofString argument with
    | .endOfOptions => o.request rest
    | .help => .ok .help
    | .version => .ok .version
    | .debug => { o with debug := true }.readOn rest
    | .positional => o.request (argument :: rest)
    | .indivisible => .error (.indivisible argument)
    | .option letter attached =>
      if !known letter then .error (.unknownOption argument)
      else if attached.isEmpty then match rest with
        | [] => .error (.missingValue argument)
        | value :: rest => (o.add letter value).bind (·.readOn rest)
      else (o.add letter attached).bind (·.readOn rest)

end OptionValues

namespace Request

/-- Reads the arguments of a command line. -/
def ofArguments (arguments : List String) : Except UsageError Request :=
  ({} : OptionValues).readOn arguments

end Request

end Awk
