import Awk.Eval.Interpreter
import Awk.Proofs.Ast.Assigns

/-! What is done to a machine without evaluating anything, put together from a few steps: reading,
changes of the variables and of the record, and changes of neither. What holds of the steps and
carries over to steps in order holds of all that is done by them. -/

namespace Awk

theorem Act.pure_apply {α : Type} (a : α) (m : Machine) : (pure a : Act α) m = (a, m) := rfl

theorem Act.bind_apply {α β : Type} (a : Act α) (f : α → Act β) (m : Machine) :
    (a >>= f) m = f (a m).1 (a m).2 := rfl

namespace Machine

/-- The machine with other expressions under evaluation. -/
def withFrames (m : Machine) (frames : List (Frame Delayed)) : Machine := { m with frames }

/-- What surrounds an evaluation and does not matter to it: the expressions under evaluation around
it, and which range patterns are between their ends. -/
structure Surroundings where
  frames : List (Frame Delayed)
  ranges : List Bool

/-- The machine in other surroundings. -/
def within (m : Machine) (s : Surroundings) : Machine :=
  { m with frames := s.frames, ranges := s.ranges }

/-- What a machine shows of its control: its program, the pending jump, what it has done and how
often it has reported a malformed expression. -/
structure Conduct where
  program : Program
  flag : Flag
  history : List Event
  malformed : Nat

def conduct (m : Machine) : Conduct :=
  ⟨m.program, m.flag, m.history, m.diagnostics.count .malformedExpression⟩

/-- The data of a running program: the program itself, its variables, the record and how far the
main input has been read. -/
structure Core where
  program : Program
  env : Environment
  record : Record
  input : MainInput

def core (m : Machine) : Core := ⟨m.program, m.env, m.record, m.input⟩

/-- A change that shows neither in the control nor in the data, and that neither depends on what
surrounds an evaluation nor changes it. -/
structure Inert (f : Machine → Machine) : Prop where
  conduct : ∀ m, (f m).conduct = m.conduct
  core : ∀ m, (f m).core = m.core
  blind : ∀ m s, f (m.within s) = (f m).within s

/-- What is blind to its surroundings leaves the ranges as they are. -/
theorem withFrames_of_within {f : Machine → Machine} (hf : ∀ m s, f (m.within s) = (f m).within s)
    (m : Machine) (fs : List (Frame Delayed)) : f (m.withFrames fs) = (f m).withFrames fs := by
  have hsame : f m = (f m).within ⟨m.frames, m.ranges⟩ := hf m ⟨m.frames, m.ranges⟩
  have hranges : (f m).ranges = m.ranges := by
    rw [hsame]
    rfl
  calc f (m.withFrames fs)
      = (f m).within ⟨fs, m.ranges⟩ := hf m ⟨fs, m.ranges⟩
    _ = (f m).withFrames fs := by rw [← hranges]; rfl

/-- Only a change of `NF` goes beyond the scalar. -/
theorem assign_scalar {name : Name} (h : name ≠ "NF") (v : Value) :
    assign (.scalar name) v = setScalar name v := by
  simp only [assign, h, if_false]
  rfl

/-- Puts a record in place, with its number of fields. -/
def putRecord (r : Record) : Act Unit := do
  modify fun m => { m with record := r }
  syncFieldCount

/-- Reporting anything is blind to what surrounds it. -/
theorem report_within (d : Diagnostic) (m : Machine) (s : Surroundings) :
    (report d (m.within s)).2 = (report d m).2.within s := by
  show (if m.echo then _ else _ : Machine) = within (if m.echo then _ else _) s
  split
  · rfl
  · rfl

theorem report_withFrames (d : Diagnostic) :
    ∀ m fs, (report d (m.withFrames fs)).2 = (report d m).2.withFrames fs :=
  withFrames_of_within (f := fun m => (report d m).2) (report_within d)

theorem report_conduct (d : Diagnostic) (m : Machine) :
    (report d m).2.conduct =
      { m.conduct with malformed := (d :: m.diagnostics).count .malformedExpression } := by
  show conduct (if m.echo then _ else _) = _
  split
  · rfl
  · rfl

theorem report_core (d : Diagnostic) (m : Machine) : (report d m).2.core = m.core := by
  show core (if m.echo then _ else _) = _
  split
  · rfl
  · rfl

theorem inert_report {d : Diagnostic} (h : d ≠ .malformedExpression) :
    Inert fun m => (report d m).2 where
  conduct m := by
    rw [report_conduct, List.count_cons_of_ne h]
    rfl
  core := report_core d
  blind := report_within d

end Machine

open Machine

/-- A property of acts that carries over to acts in order and holds of each single step. A site may
be assigned to only as `may` says. -/
structure Act.Family where
  has : ∀ {α : Type}, Act α → Prop
  may : Site → Prop
  pure : ∀ {α : Type} (x : α), has (Pure.pure x : Act α)
  bind : ∀ {α β : Type} {a : Act α} {f : α → Act β}, has a → (∀ x, has (f x)) → has (a >>= f)
  /-- Reading what does not surround an evaluation. -/
  get_bind : ∀ {α : Type} {g : Machine → Act α}, (∀ m s, g (m.within s) = g m) →
    (∀ m, has (g m)) → has (get >>= g)
  inert : ∀ {f : Machine → Machine}, Inert f → has (modify f)
  returned : ∀ v, has (modifyEnv (·.setReturned v))
  element : ∀ name key, has (getPlace (.element name key))
  scalar : ∀ {name} v, name ≠ "NF" → may (.scalar name) → has (setScalar name v)
  count : ∀ v, may (.scalar "NF") → has (assign (.scalar "NF") v)
  record : ∀ r, may .field → has (putRecord r)
  change : ∀ {name} f, may (.array name) → has (modifyEnv (·.modifyElements name f))

namespace Act.Family

variable (F : Act.Family)

theorem ite {α : Type} {c : Prop} [Decidable c] {a b : Act α} (ha : F.has a) (hb : F.has b) :
    F.has (if c then a else b) := by
  split
  · exact ha
  · exact hb

theorem reads {α : Type} (f : Machine → α) (hf : ∀ m s, f (m.within s) = f m) :
    F.has (do return f (← get) : Act α) :=
  F.get_bind (fun m s => by rw [hf]) fun m => F.pure (f m)

theorem scalarOf (name : Name) : F.has (Machine.scalar name) :=
  F.reads (·.env.value name) fun _ _ => rfl

theorem advanceCounter {name : Name} (h : name ≠ "NF") (hmay : F.may (.scalar name)) :
    F.has (advanceCounter name) :=
  F.bind (F.scalarOf name) fun _ => F.scalar _ h hmay

theorem report {d : Diagnostic} (h : d ≠ .malformedExpression) : F.has (report d) :=
  F.inert (inert_report h)

/-- An inert change, with what the machine was like before it. -/
theorem update {α : Type} {f : Machine → α} {g : Machine → Machine}
    (hf : ∀ m s, f (m.within s) = f m) (hg : Inert g) :
    F.has (fun m => (f m, g m) : Act α) :=
  F.get_bind (g := fun m => modify g >>= fun _ => Pure.pure (f m)) (fun m s => by rw [hf])
    fun m => F.bind (F.inert hg) fun _ => F.pure (f m)

theorem withStreams {α : Type} (f : Host.Streams → α × Host.Streams) : F.has (withStreams f) :=
  F.update (f := fun m => (f m.streams).1) (g := fun m => { m with streams := (f m.streams).2 })
    (fun _ _ => rfl) ⟨fun _ => rfl, fun _ => rfl, fun _ _ => rfl⟩

theorem reportFailure (f : Host.Failure) : F.has (reportFailure f) := F.report (by nofun)

/-- Compiling an expression only adds to those that are kept. -/
theorem regex? (pattern : String) : F.has (regex? pattern) := by
  let found : Act (Option Regex) := fun m =>
    ((m.regexes.get pattern).1, { m with regexes := (m.regexes.get pattern).2 })
  have hfound : F.has found :=
    F.update (fun _ _ => rfl) ⟨fun _ => rfl, fun _ => rfl, fun _ _ => rfl⟩
  have heq : Machine.regex? pattern = (do
      let r ← found
      if r.isNone then Machine.report (.invalidRegex pattern)
      return r) := rfl
  rw [heq]
  exact F.bind hfound fun r => F.ite (F.bind (F.report (by nofun)) fun _ => F.pure r) (F.pure r)

theorem isMatch (pattern text : String) : F.has (isMatch pattern text) := by
  refine F.bind (F.regex? pattern) fun r => ?_
  cases r with
  | none => exact F.pure _
  | some r => exact F.pure _

theorem recordMatches (pattern : String) : F.has (recordMatches pattern) :=
  F.get_bind (fun _ _ => rfl) fun _ => F.isMatch _ _

theorem splitText (text fs : String) : F.has (splitText text fs) := by
  unfold Machine.splitText
  cases Separator.simple? fs with
  | some sep => exact F.pure _
  | none =>
    refine F.bind (F.regex? fs) fun r => ?_
    cases r with
    | none => exact F.pure _
    | some r => exact F.pure _

theorem getPlace (p : Place) : F.has (getPlace p) := by
  cases p with
  | scalar name => exact F.scalarOf name
  | element name key => exact F.element name key
  | field index => exact F.reads (fun m => Value.ofString (m.record.field index)) fun _ _ => rfl

theorem setRecord (h : F.may .field) (text : String) : F.has (setRecord text) :=
  F.bind (F.scalarOf "FS") fun fs => F.bind (F.splitText text fs.text) fun fields =>
    F.record ⟨text, fields⟩ h

theorem setField (h : F.may .field) (index : Nat) (v : Value) : F.has (setField index v) := by
  refine F.ite (F.setRecord h _) (F.ite (F.report (by nofun)) ?_)
  refine F.bind (F.scalarOf "OFS") fun ofs => ?_
  exact F.get_bind (g := fun m => putRecord (m.record.setField index v.text ofs.text))
    (fun _ _ => rfl) fun m => F.record _ h

theorem assign {p : Place} (h : F.may p.site) (v : Value) : F.has (assign p v) := by
  cases p with
  | scalar name =>
    by_cases hname : name = "NF"
    · subst hname
      exact F.count v h
    · rw [assign_scalar hname]
      exact F.scalar v hname h
  | element name key => exact F.change _ h
  | field index => exact F.setField h index v

theorem element? (name key : String) : F.has (element? name key) :=
  F.get_bind (fun _ _ => rfl) fun _ => F.pure _

theorem joinSubscript (parts : List Value) : F.has (joinSubscript parts) := by
  unfold Machine.joinSubscript
  split
  · exact F.pure _
  · exact F.bind (F.scalarOf "SUBSEP") fun _ => F.pure _

theorem fieldIndex (v : Value) : F.has (fieldIndex v) :=
  F.ite (F.bind (F.report (by nofun)) fun _ => F.pure _) (F.pure _)

theorem arithmetic (o : Operator) (a b : Value) : F.has (arithmetic o a b) := by
  unfold Machine.arithmetic
  split
  · exact F.pure _
  · exact F.bind (F.report (by nofun)) fun _ => F.pure _

theorem ioStatus (r : Except Host.Failure Int) : F.has (ioStatus r) := by
  cases r with
  | ok status => exact F.pure _
  | error f => exact F.bind (F.reportFailure f) fun _ => F.pure _

theorem valueOf (o : Operand) : F.has (Inner.valueOf o) := by
  cases o with
  | value v => exact F.pure v
  | null => exact F.pure _
  | place p => exact F.getPlace p
  | regex pattern => exact F.bind (F.recordMatches pattern) fun _ => F.pure _

theorem patternOf (o : Operand) : F.has (Inner.patternOf o) := by
  cases o with
  | regex pattern => exact F.pure pattern
  | _ => exact F.bind (F.valueOf _) fun _ => F.pure _

theorem applyStep (o : Operator) {d : Delayed} (h : ∀ p, d = .ready (.place p) → F.may p.site) :
    F.has (Inner.applyStep o d) := by
  unfold Inner.applyStep
  split
  · rename_i p
    exact F.bind (F.getPlace p) fun _ => F.bind (F.assign (h p rfl) _) fun _ => F.pure _
  · exact F.bind (F.report (by nofun)) fun _ => F.pure _

theorem closeStreams : F.has Inner.closeStreams := by
  refine F.bind (F.withStreams _) fun failures => ?_
  induction failures with
  | nil => exact F.pure _
  | cons f fs ih => exact F.bind (F.reportFailure f) fun _ => ih

/-! Built-in functions. -/

open Builtin

theorem argument (o : Option Operand) : F.has (argument o) := by
  cases o with
  | none => exact F.pure _
  | some o => exact F.valueOf o

theorem patternArgument (o : Option Operand) : F.has (patternArgument o) := by
  cases o with
  | none => exact F.pure _
  | some o => exact F.patternOf o

theorem arguments (os : List Operand) : F.has (arguments os) := by
  induction os with
  | nil => exact F.pure _
  | cons o os ih => exact F.bind (F.valueOf o) fun _ => F.bind ih fun _ => F.pure _

/-- The value of an argument, where there is one. -/
theorem mapM (o : Option Operand) : F.has (o.mapM Inner.valueOf) := by
  cases o with
  | none => exact F.pure _
  | some o => exact F.bind (F.valueOf o) fun _ => F.pure _

theorem ofReal (f : Float → Float) (o : Option Operand) : F.has (ofReal f o) :=
  F.bind (F.argument o) fun _ => F.pure _

theorem lengthOf (o : Option Operand) : F.has (lengthOf o) := by
  cases o with
  | none => exact F.get_bind (fun _ _ => rfl) fun _ => F.pure _
  | some o =>
    refine F.get_bind (fun _ _ => rfl) fun _ => F.ite (F.pure _) ?_
    exact F.bind (F.valueOf o) fun _ => F.pure _

theorem pieces (text : String) (separator : Option Operand) : F.has (pieces text separator) := by
  unfold Builtin.pieces
  split
  · refine F.bind (F.regex? _) fun r => ?_
    cases r with
    | none => exact F.pure _
    | some r => exact F.pure _
  · exact F.bind (F.valueOf _) fun _ => F.splitText _ _
  · exact F.bind (F.scalarOf "FS") fun _ => F.splitText _ _

theorem splitInto {text array separator : Option Operand}
    (h : ∀ name, array = some (.place (.scalar name)) → F.may (.array name)) :
    F.has (splitInto text array separator) := by
  refine F.bind (F.argument text) fun text => ?_
  split
  · rename_i name
    refine F.bind (F.pieces _ _) fun texts => ?_
    exact F.bind (F.change _ (h name rfl)) fun _ => F.pure _
  · exact F.bind (F.report (by nofun)) fun _ => F.pure _

theorem substitute_at (all : Bool) (pattern : String) (replacement : Value) {p : Place}
    (h : F.may p.site) : F.has (substitute.at_ all pattern replacement p) := by
  refine F.bind (F.getPlace p) fun text => F.bind (F.regex? pattern) fun r => ?_
  cases r with
  | none => exact F.pure _
  | some r => exact F.ite (F.bind (F.assign h _) fun _ => F.pure _) (F.pure _)

theorem substitute {pattern replacement target : Option Operand} (all : Bool)
    (hrecord : target = none → F.may .field)
    (hplace : ∀ p, target = some (.place p) → F.may p.site) :
    F.has (substitute pattern replacement target all) := by
  refine F.bind (F.patternArgument pattern) fun _ => F.bind (F.argument replacement) fun _ => ?_
  split
  · exact F.substitute_at (p := .field 0) _ _ _ (hrecord rfl)
  · rename_i p
    exact F.substitute_at _ _ _ (hplace p rfl)
  · exact F.bind (F.report (by nofun)) fun _ => F.pure _

theorem locate (text pattern : Option Operand) (hstart : F.may (.scalar "RSTART"))
    (hlength : F.may (.scalar "RLENGTH")) : F.has (locate text pattern) := by
  refine F.bind (F.argument text) fun _ => F.bind (F.patternArgument pattern) fun _ => ?_
  refine F.bind (F.regex? _) fun r => F.bind (F.assign (p := .scalar _) hstart _) fun _ => ?_
  exact F.bind (F.assign (p := .scalar _) hlength _) fun _ => F.pure _

theorem seedOf (o : Option Operand) : F.has (Builtin.seed o) := by
  have hset (v : Value) : F.has (do
      let m ← get
      set { m with random := .ofSeed (UInt64.ofInt v.toInteger), seed := v }
      return m.seed) :=
    F.update (fun _ _ => rfl) ⟨fun _ => rfl, fun _ => rfl, fun _ _ => rfl⟩
  cases o with
  | none => exact F.bind (F.pure _) hset
  | some o => exact F.bind (F.valueOf o) hset

theorem randomOf : F.has Builtin.random :=
  F.update (f := fun m => Value.ofFloat m.random.next.1)
    (g := fun m => { m with random := m.random.next.2 }) (fun _ _ => rfl)
    ⟨fun _ => rfl, fun _ => rfl, fun _ _ => rfl⟩

/-- A built-in function may assign where it is to substitute, to split, or to say where a match
is. -/
theorem apply {b : Builtin} {os : List Operand}
    (hrecord : b = .sub ∨ b = .gsub → os[2]? = none → F.may .field)
    (hplace : b = .sub ∨ b = .gsub → ∀ p, os[2]? = some (.place p) → F.may p.site)
    (hsplit : b = .split → ∀ name, os[1]? = some (.place (.scalar name)) → F.may (.array name))
    (hmatch : b = .matches → F.may (.scalar "RSTART") ∧ F.may (.scalar "RLENGTH")) :
    F.has (b.apply os) := by
  cases b with
  | length => exact F.lengthOf _
  | index => exact F.bind (F.argument _) fun _ => F.bind (F.argument _) fun _ => F.pure _
  | substr =>
    refine F.bind (F.argument _) fun _ => F.bind (F.argument _) fun _ => ?_
    exact F.bind (F.mapM _) fun _ => F.pure _
  | split => exact F.splitInto (hsplit rfl)
  | sub => exact F.substitute false (hrecord (.inl rfl)) (hplace (.inl rfl))
  | gsub => exact F.substitute true (hrecord (.inr rfl)) (hplace (.inr rfl))
  | «matches» => exact F.locate _ _ (hmatch rfl).1 (hmatch rfl).2
  | sprintf => exact F.bind (F.arguments os) fun _ => F.pure _
  | atan2 => exact F.bind (F.argument _) fun _ => F.bind (F.argument _) fun _ => F.pure _
  | rand => exact F.randomOf
  | srand => exact F.seedOf _
  | close =>
    exact F.bind (F.argument _) fun _ => F.bind (F.withStreams _) fun _ => F.ioStatus _
  | fflush =>
    refine F.bind (F.mapM _) fun _ => F.bind (F.withStreams _) fun f => ?_
    cases f with
    | none => exact F.pure _
    | some f => exact F.ioStatus _
  | system =>
    exact F.bind (F.argument _) fun _ => F.bind (F.withStreams _) fun _ => F.ioStatus _
  | tolower => exact F.bind (F.argument _) fun _ => F.pure _
  | toupper => exact F.bind (F.argument _) fun _ => F.pure _
  | int => exact F.bind (F.argument _) fun _ => F.pure _
  | cos => exact F.ofReal _ _
  | exp => exact F.ofReal _ _
  | log => exact F.ofReal _ _
  | sin => exact F.ofReal _ _
  | sqrt => exact F.ofReal _ _

/-! The main input, where any site may be assigned to. -/

section MainInput

open MainInput

variable {F} (hmay : ∀ s, F.may s) (hinput : ∀ f, F.has (modifyInput f))

theorem fail (F : Act.Family) (f : Host.Failure) : F.has (MainInput.fail f) :=
  F.bind (F.reportFailure f) fun _ => F.inert ⟨fun _ => rfl, fun _ => rfl, fun _ _ => rfl⟩

include hmay hinput

theorem openReader (r : Host.Reader) (name : String) : F.has (openReader r name) :=
  F.bind (hinput _) fun _ => F.bind (F.scalar _ (by decide) (hmay _)) fun _ =>
    F.bind (F.scalar _ (by decide) (hmay _)) fun _ => hinput _

theorem openStandard (name : String) : F.has (openStandard name) :=
  F.get_bind (fun _ _ => rfl) fun _ => F.bind (hinput _) fun _ => openReader hmay hinput _ _

theorem useOperand (operand : String) : F.has (useOperand operand) := by
  unfold MainInput.useOperand
  split
  · exact F.bind (F.assign (hmay _) _) fun _ => F.bind (hinput _) fun _ => F.pure _
  · refine F.bind (hinput _) fun _ => ?_
    refine F.ite (F.bind (openStandard hmay hinput _) fun _ => F.pure _) ?_
    refine F.bind (F.withStreams _) fun r => ?_
    cases r with
    | ok r => exact F.bind (openReader hmay hinput _ _) fun _ => F.pure _
    | error cause => exact F.bind (F.fail _) fun _ => F.pure _

theorem openLast : F.has openLast := by
  refine F.bind (hinput _) fun _ => F.get_bind (fun _ _ => rfl) fun _ => ?_
  refine F.ite (F.pure _) (F.bind (hinput _) fun _ => ?_)
  exact F.bind (openStandard hmay hinput _) fun _ => F.pure _

theorem readCurrent (r : Host.Reader) : F.has (readCurrent r) := by
  refine F.bind (F.scalarOf "RS") fun separator => F.bind (F.withStreams _) fun result => ?_
  split
  refine F.bind (hinput _) fun _ => ?_
  split
  · refine F.bind (hinput _) fun _ => F.bind (F.advanceCounter (by decide) (hmay _)) fun _ => ?_
    refine F.bind (F.advanceCounter (by decide) (hmay _)) fun _ => ?_
    refine F.bind (F.scalarOf _) fun _ => F.bind (F.scalarOf _) fun _ => ?_
    exact F.bind (hinput _) fun _ => F.pure _
  · exact F.bind (hinput _) fun _ => F.pure _
  · refine F.bind (hinput _) fun _ => F.bind (F.scalarOf _) fun _ => ?_
    exact F.bind (F.fail _) fun _ => F.pure _

end MainInput

end Act.Family

end Awk
