import Mathlib
import Awk.Proofs.Grammar.Programs
import Awk.Proofs.Invariant.Runs
import Awk.Proofs.Scope.Levels
import Awk.Proofs.Scope.Start
import Awk.Shell.Run

/-! Calls and scopes. A call has variables of its own for its parameters, which share the arrays of
the variables that are passed to them, and leaves those of the other calls where they are. -/

namespace Awk

open Machine Run

/-- The guard that asks the same everywhere. -/
def Guard.always (q : Machine → Bool) : Guard := ⟨q, q, q⟩

/-- Machines whose variables have arrays that are in use. -/
def Guard.wellFormed : Guard := .always fun m => decide m.env.WellFormed

namespace Environment

variable {env env' : Environment} {d : Nat} {x y : Name}

/-- The name of a parameter of the call that is `d` calls further in than the outermost has the
array that the other name stands for outside of that call. -/
def shares (env : Environment) (d : Nat) (x y : Name) : Bool :=
  match (env.below (d + 1)).array? x, (env.below d).array? y with
  | some i, some j => i = j
  | _, _ => false

theorem shares_iff : env.shares d x y ↔
    ∃ i, (env.below (d + 1)).array? x = some i ∧ (env.below d).array? y = some i := by
  unfold shares
  split
  · rename_i i j hx hy
    rw [hx, hy]
    simp [eq_comm]
  · rename_i hnone
    refine ⟨nofun, ?_⟩
    rintro ⟨i, hx, hy⟩
    exact (hnone i i hx hy).elim

theorem below_below {d' : Nat} (hd : d ≤ d') (hd' : d' ≤ env.depth) :
    (env.below d').below d = env.below d := by
  unfold below depth at *
  simp only [List.length_drop, List.drop_drop]
  congr 2
  omega

/-- What is shared where a call starts is shared as long as its variables are kept. -/
theorem shares_of_keeps (h : env.shares d x y) (hdepth : env.depth = d + 1)
    (hkeeps : Keeps env (env'.below (d + 1))) (hle : d + 1 ≤ env'.depth) :
    env'.shares d x y := by
  obtain ⟨i, hx, hy⟩ := shares_iff.mp h
  refine shares_iff.mpr ⟨i, hkeeps.array? ?_, ?_⟩
  · rwa [← hdepth, below_depth] at hx
  · rw [← below_below (Nat.le_succ d) hle]
    exact (hkeeps.below d).array? hy

end Environment

open Environment

/-- The variables that are kept in a run: those of `base`, under what further calls add. -/
structure Machine.Core.Keeping (base : Environment) (c : Core) : Prop where
  wellFormed : c.env.WellFormed
  depth : base.depth ≤ c.env.depth
  keeps : Keeps base (c.env.below base.depth)

theorem Machine.Core.Keeping.of_keeps {base : Environment} {c c' : Core} (h : c.Keeping base)
    (hkeeps : Keeps c.env c'.env) (hwf : c'.env.WellFormed) : c'.Keeping base :=
  ⟨hwf, hkeeps.depth ▸ h.depth, h.keeps.trans (hkeeps.below _)⟩

/-- What a step does to the variables, and leaves of the program. -/
structure Machine.Core.Kept (c c' : Core) : Prop where
  program : c'.program = c.program
  keeps : Keeps c.env c'.env
  wellFormed : c.env.WellFormed → c'.env.WellFormed

namespace Machine.Core.Kept

variable {c c' c'' : Core}

theorem refl (c : Core) : c.Kept c := ⟨rfl, .refl _, id⟩

theorem trans (h : c.Kept c') (h' : c'.Kept c'') : c.Kept c'' :=
  ⟨h'.program.trans h.program, h.keeps.trans h'.keeps, h'.wellFormed ∘ h.wellFormed⟩

theorem setValue (c : Core) (x : Name) (a : Value) : c.Kept (c.mapEnv (·.setValue x a)) :=
  ⟨rfl, .setValue _ _ _, fun h => h.setValue x a⟩

theorem putRecord (c : Core) (r : Record) : c.Kept (c.putRecord r) :=
  ⟨rfl, .setValue _ _ _, fun h => h.setValue "NF" _⟩

/-- From the entry of a call to its end. -/
theorem of_push {ps : List (Name × Environment.Argument)} (h : (c.mapEnv (·.push ps)).Kept c')
    (hps : ∀ p ∈ ps, ∀ source, p.2 = .shared source → source.array < c.env.nextArray) :
    c.Kept (c'.mapEnv (·.pop.2)) :=
  ⟨h.program, h.keeps.of_push, fun hwf => (h.wellFormed (hwf.push hps)).pop⟩

end Machine.Core.Kept

/-- What is bound to share an array has been passed a variable. -/
theorem Function.shared_bindings {f : Function} {es : List Expr}
    {passed : List Environment.Argument} {env : Environment} (hwf : env.WellFormed) (h : List.Forall₂ env.Passes es passed) :
    ∀ p ∈ f.bindings passed, ∀ source, p.2 = .shared source → source.array < env.nextArray := by
  have hpasses : ∀ a ∈ passed, ∃ e, env.Passes e a := by
    induction h with
    | nil => nofun
    | cons ha _ ih => exact List.forall_mem_cons.mpr ⟨⟨_, ha⟩, ih⟩
  rintro ⟨x, a⟩ hp source rfl
  obtain hpassed | hmissing := List.mem_append.mp (List.of_mem_zip hp).2
  · obtain ⟨e, he⟩ := hpasses _ hpassed
    exact he.shared_lt hwf
  · cases List.eq_of_mem_replicate hmissing

/-- Every step of a program keeps the variables of `base`, so a guard that holds where they are kept
stops nothing. -/
def Law.keeping {p : Program} (hp : p.Everywhere (·.wellFormed false)) (base : Environment)
    {q : Machine → Bool} (hq : ∀ {m : Machine}, m.core.Keeping base → q m) : Law :=
  let motion : Motion := {
    toPermit := .all hp
    holds c := c.program = p ∧ c.Keeping base
    moves := Core.Kept
    refl := .refl
    trans := .trans
    keeps hc h := ⟨h.program.trans hc.1, hc.2.of_keeps h.keeps (h.wellFormed hc.2.wellFormed)⟩
    runs hc := hc.1
    scalar {c name} v _ _ _ := .setValue c name v
    count {c} v r _ _ := (Core.Kept.setValue c "NF" v).trans (.putRecord _ r)
    record {c} r _ _ := .putRecord c r
    change f _ _ := ⟨rfl, .modifyElements _ _ f, fun h => h.modifyElements _ f⟩
    element name key _ := ⟨rfl, .element _ name key, fun h => h.element name key⟩
    returned v _ := ⟨rfl, .setReturned _ v, fun h => h.setReturned v⟩ }
  { toMotion := motion
    guard := .always q
    other := .free
    statement_eq := fun hm => hq hm.2
    term_eq := fun hm => hq hm.2
    request_eq := fun hm => hq hm.2
    request := fun {m} fuel n hm _ =>
      have h := motion.nextRecord (fun _ => trivial) (fun _ _ => ⟨rfl, .refl _, id⟩) fuel n m hm
      ⟨fun r m' hok => (h.ok r m' hok).1, h.error⟩
    argument := fun c => c.env.Passes
    argument_moves := fun ha h => ha.keeps h.keeps
    argument_value := fun v he => .value v he
    obtain_ := fun {c} name hc => ⟨⟨rfl, .obtain_ _ name, fun h => (h.obtain_ name).1⟩,
      passes_obtain c.env name⟩
    call := fun {c f es passed} hc _ _ _ hpassed => by
      have hshared := f.shared_bindings hc.2.wellFormed hpassed
      have hle : c.env.nextArray ≤ (c.env.push (f.bindings passed)).nextArray := by
        rw [push_eq]
        exact le_bindFrom _ _ _
      refine ⟨⟨hc.1, hc.2.wellFormed.push hshared, ?_, ?_⟩, fun h => h.of_push hshared⟩
      · exact hc.2.depth.trans (depth_push c.env _ ▸ Nat.le_succ _)
      · show Keeps base ((c.env.push _).below _)
        rw [below_push _ hc.2.depth]
        exact ⟨hc.2.keeps.scopes, hc.2.keeps.nextArray.trans hle⟩ }

theorem Machine.Core.keeping_empty {c : Core} (h : c.env.WellFormed) : c.Keeping .empty := by
  refine ⟨h, Nat.zero_le _, ?_, Nat.zero_le _⟩
  show KeepsIn [] c.env.globals _ [] (c.env.blocks.drop c.env.blocks.length)
  rw [List.drop_length]
  exact .globals nofun nofun

/-- The parameters that are passed variables, with these. -/
def Function.references (f : Function) (es : List Expr) : List (Name × Name) :=
  (f.parameters.zip es).filterMap fun (x, e) => e.name?.map (x, ·)

/-- A call that returns, step by step: the arguments are evaluated, the body runs with the
parameters that they are passed to, and these are dropped. -/
structure Inner.Call (inner : Inner) (f : Function) (es : List Expr) (v : Value)
    (m m' : Machine) where
  passed : List Environment.Argument
  /-- Where the arguments have been evaluated. -/
  before : Machine
  flag : Flag
  /-- Where the body has run. -/
  after : Machine
  evaluates : Run.collect inner.passArgument es m = .ok passed before
  body : inner.block f.body { before with env := before.env.push (f.bindings passed) } =
    .ok flag after
  leaves : leave after = (v, m')

namespace Inner

variable {inner : Inner} {f : Function} {es : List Expr} {v : Value} {m m' : Machine} {n : Nat}

theorem exists_call {name : Name} (hf : m.program.function? name = some f)
    (hlength : es.length ≤ f.parameters.length) (h : inner.callUser name es m = .ok v m') :
    Nonempty (Call inner f es v m m') := by
  rw [callUser_of_le hf hlength] at h
  obtain ⟨passed, before, hpassed, henter⟩ := bind_eq_ok h
  rw [enter_apply] at henter
  obtain ⟨flag, after, hbody, hleave⟩ := bind_eq_ok henter
  cases hleave
  exact ⟨⟨passed, before, flag, after, hpassed, hbody, rfl⟩⟩

namespace Call

/-- Where the body of a call starts. -/
def inside (c : Call inner f es v m m') : Machine :=
  { c.before with env := c.before.env.push (f.bindings c.passed) }

/-- What a call does to scopes. -/
structure Scoped (c : Call (Inner.withFuel n) f es v m m') : Prop where
  passes : List.Forall₂ c.before.env.Passes es c.passed
  starts : ∀ x a, (x, a) ∈ f.bindings c.passed → Starts c.before.env c.inside.env x a
  /-- Wherever a statement or a term of the call starts, and where it ends, its parameters share
  the arrays of the variables that are passed to them. -/
  shares :
    let shared : Guard := .always fun m' =>
      (f.references es).all fun (x, y) => m'.env.shares m.env.depth x y
    (shared.withFuel n).block f.body c.inside = .ok c.flag c.after ∧ shared.statement c.after
  depth : m'.env.depth = m.env.depth
  /-- However far outside of the call, the names of its parameters have the scalars that they had. -/
  scalars : ∀ x ∈ f.parameters, ∀ d, (m'.env.below d).value x = (c.before.env.below d).value x

end Call

end Inner

/-- What is zipped with a list is zipped with a list related to it, as far as the first goes. -/
theorem forall₂_zip {α β γ : Type} {R : β → γ → Prop} {bs : List β} {cs : List γ}
    (h : List.Forall₂ R bs cs) {as : List α} {a : α} {b : β} (hmem : (a, b) ∈ as.zip bs)
    (rest : List γ) : ∃ c, R b c ∧ (a, c) ∈ as.zip (cs ++ rest) := by
  induction h generalizing as with
  | nil =>
    rw [List.zip_nil_right] at hmem
    cases hmem
  | cons hbc _ ih =>
    cases as with
    | nil => cases hmem
    | cons a' as =>
      obtain hhead | hmem := List.mem_cons.mp hmem
      · cases hhead
        exact ⟨_, hbc, List.mem_cons_self⟩
      · obtain ⟨c, hc, hin⟩ := ih hmem
        exact ⟨c, hc, List.mem_cons_of_mem _ hin⟩

namespace Function

variable {f : Function} {es : List Expr} {passed : List Environment.Argument} {x y : Name}

theorem map_fst_bindings (f : Function) (passed : List Environment.Argument) :
    (f.bindings passed).map (·.1) = f.parameters := by
  refine List.map_fst_zip ?_
  rw [List.length_append, List.length_replicate]
  omega

/-- What is passed a variable is bound to share its array. -/
theorem mem_bindings_of_references {env : Environment} (h : List.Forall₂ env.Passes es passed)
    (hxy : (x, y) ∈ f.references es) :
    ∃ source, env.array? y = some source.array ∧ (x, .shared source) ∈ f.bindings passed := by
  obtain ⟨⟨x, e⟩, hmem, hname⟩ := List.mem_filterMap.mp hxy
  obtain ⟨y, he, hpair⟩ := Option.map_eq_some_iff.mp hname
  cases hpair
  obtain ⟨a, ha, hin⟩ := forall₂_zip h hmem _
  cases ha with
  | shared hy =>
    cases he
    exact ⟨_, hy, hin⟩
  | value a hnone =>
    rw [hnone] at he
    cases he

end Function

namespace Inner.Call

variable {n : Nat} {f : Function} {es : List Expr} {v : Value} {m m' : Machine} {p : Program}
  (c : Call (Inner.withFuel n) f es v m m')

/-- The arguments of a call keep all variables, and pass on arrays that are in use. -/
theorem arguments_kept (hp : p.Everywhere (·.wellFormed false))
    (hes : ∀ e ∈ es, e.Everywhere (·.wellFormed false)) (hm : m.program = p)
    (hwf : m.env.WellFormed) :
    m.core.Kept c.before.core ∧ List.Forall₂ c.before.env.Passes es c.passed := by
  let L := Law.keeping hp .empty (q := fun _ => true) fun _ => rfl
  have hparts : L.Parts (L.guard.withFuel n) (Inner.withFuel n) :=
    Guard.withFuel_free n ▸ L.parts n
  have hpassed := hparts.passArguments hes (m := m) ⟨hm, Core.keeping_empty hwf⟩
  exact hpassed.ok c.passed c.before (hpassed.same.trans c.evaluates)

/-- What follows holds where the body of a call starts, and as long as its variables are kept. -/
theorem shares_inside (hdepth : c.before.env.depth = m.env.depth)
    (hpasses : List.Forall₂ c.before.env.Passes es c.passed)
    (hstarts : ∀ x a, (x, a) ∈ f.bindings c.passed → Starts c.before.env c.inside.env x a) :
    ∀ r ∈ f.references es, c.inside.env.shares m.env.depth r.1 r.2 := by
  rintro ⟨x, y⟩ hxy
  obtain ⟨source, hy, hx⟩ := Function.mem_bindings_of_references hpasses hxy
  have hinside : c.inside.env.depth = m.env.depth + 1 := hdepth ▸ depth_push _ _
  refine shares_iff.mpr ⟨source.array, ?_, ?_⟩
  · rw [← hinside, below_depth]
    exact Option.map_eq_some_iff.mpr ⟨source, hstarts x _ hx, rfl⟩
  · show ((c.before.env.push (f.bindings c.passed)).below m.env.depth).array? y = _
    rw [below_push _ hdepth.ge, ← hdepth]
    show (c.before.env.below c.before.env.depth).array? y = _
    rwa [below_depth]

/-- The body of a call keeps all variables that are there where it starts, so a guard that holds
where these are kept does not stop it. -/
theorem body_kept (hp : p.Everywhere (·.wellFormed false)) (hf : f ∈ p.functions)
    (hprogram : c.inside.program = p) (hwf : c.inside.env.WellFormed) {q : Machine → Bool}
    (hq : ∀ {m : Machine}, m.core.Keeping c.inside.env → q m) :
    ((Guard.always q).withFuel n).block f.body c.inside = .ok c.flag c.after ∧ q c.after ∧
      c.inside.core.Kept c.after.core := by
  let L := Law.keeping hp c.inside.env hq
  have hparts : L.Parts (L.guard.withFuel n) (Inner.withFuel n) :=
    Guard.withFuel_free n ▸ L.parts n
  have hkeeping : c.inside.core.Keeping c.inside.env := by
    refine ⟨hwf, le_rfl, ?_⟩
    show Keeps _ (c.inside.env.below c.inside.env.depth)
    rw [below_depth]
    exact .refl _
  have hbody := hparts.block (hp.functions f hf).2 c.inside ⟨hprogram, hkeeping⟩
  have hok := hbody.same.trans c.body
  have hkept := (hbody.ok c.flag c.after hok).1
  exact ⟨hok, hq (L.keeps ⟨hprogram, hkeeping⟩ hkept).2, hkept⟩

theorem isScoped (hp : p.Everywhere (·.wellFormed false)) (hf : f ∈ p.functions)
    (hnodup : f.parameters.Nodup) (hes : ∀ e ∈ es, e.Everywhere (·.wellFormed false))
    (hm : m.program = p) (hwf : m.env.WellFormed) : c.Scoped := by
  obtain ⟨hkept, hpasses⟩ := c.arguments_kept hp hes hm hwf
  have hdepth : c.before.env.depth = m.env.depth := hkept.keeps.depth
  have hwf' : c.before.env.WellFormed := hkept.wellFormed hwf
  have hshared := f.shared_bindings hwf' hpasses
  have hnames : ((f.bindings c.passed).map (·.1)).Nodup := by
    rwa [Function.map_fst_bindings]
  have hstarts (x : Name) (a : Environment.Argument) (hx : (x, a) ∈ f.bindings c.passed) :
      Starts c.before.env c.inside.env x a := starts_push hwf' hshared hnames hx
  have hsharing := c.shares_inside hdepth hpasses hstarts
  have hinside : c.inside.env.depth = m.env.depth + 1 := hdepth ▸ depth_push _ _
  obtain ⟨hbody, hshares, hafter⟩ := c.body_kept hp hf (hkept.program.trans hm) (hwf'.push hshared)
    (q := fun m' => (f.references es).all fun (x, y) => m'.env.shares m.env.depth x y)
    fun hkeeping => List.all_eq_true.mpr fun r hr => shares_of_keeps (hsharing r hr) hinside
      (hinside ▸ hkeeping.keeps) (hinside ▸ hkeeping.depth)
  have hkeeps : Keeps (c.before.env.push (f.bindings c.passed)) c.after.env := hafter.keeps
  have hleft : m'.env = c.after.env.pop.2 := congrArg (·.2.env) c.leaves.symm
  refine ⟨hpasses, hstarts, ⟨hbody, hshares⟩, ?_, fun x hx d => ?_⟩
  · rw [hleft]
    exact hkeeps.of_push.depth.trans hdepth
  · rw [← f.map_fst_bindings c.passed] at hx
    obtain ⟨⟨_, a⟩, hmem, rfl⟩ := List.mem_map.mp hx
    obtain ⟨i, -, hget⟩ := bindFrom_get? hnames hmem c.before.env.nextArray []
    rw [hleft, value_eq, hkeeps.lookup_below_of_push (by rw [hget]; rfl) d, value_eq]

end Inner.Call

/-- What is said of every call of a function of the program by that name, with these arguments. -/
def Program.CallScoped (p : Program) (name : Name) (es : List Expr) : Prop :=
  ∀ f n m v m', p.function? name = some f → es.length ≤ f.parameters.length → m.program = p →
    m.env.WellFormed → (Inner.withFuel n).callUser name es m = .ok v m' →
    ∃ c : Inner.Call (Inner.withFuel n) f es v m m', c.Scoped

/-- Wherever a program has come to, its variables have arrays that are in use. From there a call
that returns leaves as many calls active as there were, and the scalars of its parameters' names
as they were; and while it runs, its parameters share the arrays of the variables that are passed to
them. A parameter that is set is set for its call alone. All that is read of an array is read of its
contents, and a change of them is seen through every name that stands for the array. -/
theorem calls_scoped {source : String} {p : Program} (h : parse source = .ok p) :
    (∀ s streams n, let start := Machine.start p s streams
      Guard.wellFormed.runProgram (Guard.wellFormed.withFuel n) start =
        (Inner.withFuel n).runProgram start) ∧
    (p.Everywhere fun e => ∀ name es, .call (.user name) es ∈ e → p.CallScoped name es) ∧
    (∀ (env : Environment) d x a, env.BoundAbove d x → (env.setValue x a).below d = env.below d) ∧
    ∀ (env : Environment) x i, env.array? x = some i →
      (∀ key, (env.element x key).1 = (env.contents x)[key]?.getD .empty ∧
        env.hasElement x key = (env.contents x).contains key ∧
        env.keys x = (env.contents x).keys ∧ env.count x = (env.contents x).size) ∧
      ∀ d y j (g : Elements → Elements), (env.below d).array? y = some j →
        ((env.modifyElements x g).below d).contents y =
          if j = i then g ((env.below d).contents y) else (env.below d).contents y := by
  have hp := parse_wellFormed h
  refine ⟨fun s streams n => ?_, hp.mono fun e he name es hcall => ?_,
    fun _ _ _ a hx => below_setValue hx a,
    fun _ _ _ hx => ⟨reads_contents hx, fun _ _ _ g hy => contents_modifyElements hx hy g⟩⟩
  · let L := Law.keeping hp .empty (q := fun m => decide m.env.WellFormed) fun hm =>
      decide_eq_true hm.wellFormed
    have hsame := (L.parts n).runProgram (Machine.start p s streams)
      ⟨rfl, Core.keeping_empty (startEnvironment_wellFormed s)⟩
    refine hsame.same.trans ?_
    show Guard.free.runProgram (Guard.free.withFuel n) _ = _
    rw [Guard.runProgram_free, Guard.withFuel_free]
  · intro f n m v m' hf hlength hm hwf hok
    obtain ⟨c⟩ := Inner.exists_call (hm ▸ hf) hlength hok
    have hmem := List.mem_of_find?_eq_some hf
    exact ⟨c, c.isScoped hp hmem ((parse_sound h).parameters f hmem) (fun _ hx => he.part hcall hx)
      hm hwf⟩

/-- `function fill(a, n) { n = 2; a[n] = 3 }`. -/
def filler : Function := ⟨"fill", ["a", "n"], .mk .routine
  [.expr [.var "n", .op .assign, .value ⟨"2"⟩],
    .expr [.element "a" [[.var "n"]], .op .assign, .value ⟨"3"⟩]], ⟨0, 45⟩⟩

/-- The same, with `BEGIN { fill(x) }`. -/
def sharing : Program :=
  { items := [⟨.begin_, .mk .program [.expr [.call (.user "fill") [[.var "x"]]]]⟩]
    functions := [filler]
    ranges := 0 }

theorem parse_sharing :
    parse "function fill(a, n) { n = 2; a[n] = 3 } BEGIN { fill(x) }" = .ok sharing := by
  cbv

def sharingStart : Machine := .start sharing {} (.start .empty [] .captured)

def sharingCall : Run.Outcome Value :=
  (Inner.withFuel 7).callUser "fill" [[.var "x"]] sharingStart

theorem sharingCall_eq : sharingCall = .ok .empty (Run.Outcome.machine sharingCall) := by
  cbv

/-- The element that the function sets is one of the variable that is passed. -/
theorem calls_scoped_sharing :
    (∃ c : Inner.Call (Inner.withFuel 7) filler [[.var "x"]] .empty sharingStart
      (Run.Outcome.machine sharingCall), c.Scoped) ∧
    (Run.Outcome.machine sharingCall).env.keys "x" = ["2"] := by
  obtain ⟨-, hcalls, -⟩ := calls_scoped parse_sharing
  have haction := (hcalls.actions _ List.mem_cons_self).2
  have hcall := (haction.expr List.mem_cons_self List.mem_cons_self).here "fill" [[.var "x"]]
    List.mem_cons_self
  have hwf : sharingStart.env.WellFormed := startEnvironment_wellFormed {}
  refine ⟨hcall filler 7 sharingStart .empty _ rfl (by decide) rfl hwf sharingCall_eq, ?_⟩
  cbv

end Awk
