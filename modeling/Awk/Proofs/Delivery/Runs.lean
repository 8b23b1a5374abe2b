import Mathlib
import Awk.Proofs.Delivery.Records
import Awk.Proofs.Grammar.Programs
import Awk.Proofs.Invariant.Runs
import Awk.Proofs.Invariant.Stopped
import Awk.Proofs.Scope.Start

/-! The main input of whole runs. A run in which nothing but the main input changes what it is read
from delivers what is due, in order, each record once, with the numbers that count it. -/

namespace Awk

open Machine
open Host (Streams)
open Records (bytesOf)

namespace Supply

variable {S : Supply} {p : Program} {c : Core} {k j : Nat} {rs : List Records.Bytes}

/-- What has been delivered is the start of what is due, and all of it where nothing is open and
nothing is left to open. -/
structure Delivered (S : Supply) (i : MainInput) : Prop where
  log_prefix : i.log.reverse <+: S.deliveries
  log_eq : i.exhausted → i.current = none → i.log.reverse = S.deliveries

instance (i : MainInput) : Decidable (S.Delivered i) :=
  decidable_of_iff (i.log.reverse <+: S.deliveries ∧
      (i.exhausted → i.current = none → i.log.reverse = S.deliveries))
    ⟨fun h => ⟨h.1, h.2⟩, fun h => ⟨h.log_prefix, h.log_eq⟩⟩

/-- Goes on where nothing but the main input has changed what it is read from. -/
def guard (S : Supply) : Guard := ⟨fun _ => true, fun _ => true, fun m => decide (S.Undisturbed m)⟩

/-- Goes on, besides, where the main input has delivered what is due. -/
def watch (S : Supply) : Guard :=
  let delivered (m : Machine) : Bool := decide (S.Delivered m.input)
  ⟨delivered, delivered, fun m => S.guard.request m && delivered m⟩

theorem Along.delivered (h : S.Along p c k j rs) : S.Delivered c.input :=
  ⟨h.stage.log_prefix, h.stage.log_eq⟩

/-- A change of variables that leaves those alone that the main input goes by. -/
theorem Along.mapEnv (h : S.Along p c k j rs) {f : Environment → Environment}
    (hvalue : ∀ x ∈ steering, (f c.env).value x = c.env.value x)
    (hkeeps : Environment.Keeps c.env (f c.env)) : S.Along p (c.mapEnv f) k j rs :=
  h.change rfl rfl fun x hx => ⟨hvalue x hx, hkeeps.unbound (h.steered.unbound x hx)⟩

theorem Along.putRecord (h : S.Along p c k j rs) (r : Record) :
    S.Along p (c.putRecord r) k j rs :=
  h.change rfl rfl fun x hx =>
    ⟨Environment.value_setValue_ne _ _ fun hnf => absurd (hnf ▸ hx) (by decide),
      (Environment.Keeps.setValue _ _ _).unbound (h.steered.unbound x hx)⟩

end Supply

open Environment Supply in
/-- Every step of a program that leaves alone what the main input goes by leaves it at a stage. -/
def Law.delivering {S : Supply} (hS : S.Proper) {p : Program}
    (hp : p.Everywhere (·.wellFormed false)) (hassigns : ∀ x ∈ steering, ¬ p.Assigns (.scalar x))
    (hparameters : ∀ f ∈ p.functions, ∀ x ∈ steering, x ∉ f.parameters) : Law :=
  let motion : Motion := {
    toPermit := .within hp (fun site => ∀ x ∈ steering, site ≠ .scalar x) (fun _ _ => nofun)
      fun s hs x hx h => hassigns x hx (h ▸ hs)
    holds c := ∃ k j rs, S.Along p c k j rs
    moves c c' := (∃ k j rs, S.Along p c k j rs) → ∃ k j rs, S.Along p c' k j rs
    refl _ h := h
    trans h h' hc := h' (h hc)
    keeps hc h := h hc
    runs hc := hc.elim fun _ h => h.elim fun _ h => h.elim fun _ h => h.program
    scalar v _ _ hmay := fun ⟨k, j, rs, h⟩ => ⟨k, j, rs, h.mapEnv
      (fun x hx => value_setValue_ne _ _ fun hname => hmay x hx (hname ▸ rfl)) (.setValue _ _ _)⟩
    count v r _ _ := fun ⟨k, j, rs, h⟩ => ⟨k, j, rs, (h.mapEnv (fun x hx => value_setValue_ne _ _
      fun hnf => absurd (hnf ▸ hx) (by decide)) (.setValue _ _ _)).putRecord r⟩
    record r _ _ := fun ⟨k, j, rs, h⟩ => ⟨k, j, rs, h.putRecord r⟩
    change f _ _ := fun ⟨k, j, rs, h⟩ =>
      ⟨k, j, rs, h.mapEnv (fun _ _ => value_modifyElements _ _ _ _) (.modifyElements _ _ _)⟩
    element name key _ := fun ⟨k, j, rs, h⟩ =>
      ⟨k, j, rs, h.mapEnv (fun _ _ => value_element _ _ _ _) (.element _ _ _)⟩
    returned v _ := fun ⟨k, j, rs, h⟩ =>
      ⟨k, j, rs, h.mapEnv (fun _ _ => value_setReturned _ _ _) (.setReturned _ _)⟩ }
  { toMotion := motion
    guard := S.guard
    other := S.watch
    statement_eq := fun ⟨_, _, _, h⟩ => (decide_eq_true h.delivered).symm
    term_eq := fun ⟨_, _, _, h⟩ => (decide_eq_true h.delivered).symm
    request_eq := fun {m} ⟨_, _, _, h⟩ => by
      show _ = (S.guard.request m && decide (S.Delivered m.input))
      rw [decide_eq_true (show S.Delivered m.input from h.delivered), Bool.and_true]
    request := fun {m} fuel n ⟨k, j, rs, h⟩ hasked => by
      obtain ⟨k', j', rs', halong⟩ :=
        Ready.nextRecord hS ⟨h, of_decide_eq_true hasked⟩ fuel n
      refine ⟨fun r m' hok _ => ⟨k', j', rs', ?_⟩, fun e m' he => ⟨k', j', rs', ?_⟩⟩
      · rwa [hok] at halong
      · rwa [he] at halong
    argument := fun _ _ _ => True
    argument_moves := fun _ _ => trivial
    argument_value := fun _ _ => trivial
    obtain_ := fun name _ => ⟨fun ⟨k, j, rs, h⟩ =>
      ⟨k, j, rs, h.mapEnv (fun _ _ => value_obtain _ _ _) (.obtain_ _ _)⟩, trivial⟩
    call := fun {c f es passed} hc hf _ _ _ => by
      have hne (x) (hx : x ∈ steering) := Function.bindings_ne (hparameters f hf x hx) passed
      have hpush : ∃ k j rs, S.Along p (c.mapEnv (·.push (f.bindings passed))) k j rs := by
        obtain ⟨k, j, rs, h⟩ := hc
        exact ⟨k, j, rs, h.change rfl rfl fun x hx =>
          ⟨value_push (hne x hx), (h.steered.unbound x hx).push (hne x hx)⟩⟩
      refine ⟨hpush, fun hbody _ => ?_⟩
      obtain ⟨k, j, rs, h⟩ := hbody hpush
      exact ⟨k, j, rs, h.change rfl rfl fun x hx =>
        ⟨(h.steered.unbound x hx).value_pop, (h.steered.unbound x hx).pop⟩⟩ }

/-- A run whose program leaves alone what the main input goes by has delivered what is due, in order,
wherever a statement starts, a term is evaluated or a record is asked for, and at its end, as long as
nothing but the main input changes what it is read from. What a request answers is what it delivers,
and the assignments it delivers are carried out; one that answers nothing leaves nothing; and `NR` and
`FNR` count. -/
theorem mainInput_delivered {source : String} {p : Program} (h : parse source = .ok p)
    (hassigns : ∀ x ∈ steering, ¬ p.Assigns (.scalar x))
    (hparameters : ∀ f ∈ p.functions, ∀ x ∈ steering, x ∉ f.parameters) {s : Settings}
    (hs : ∀ a ∈ s.assignments, a.1 ≠ "NR" ∧ a.1 ≠ "ARGC") (streams : Streams)
    (hproper : (Supply.ofSettings s streams).Proper) (n : Nat) :
    let S := Supply.ofSettings s streams
    let start := Machine.start p s streams
    let run := (Inner.withFuel n).runProgram start
    (S.guard.runProgram (S.guard.withFuel n) start = run →
      S.watch.runProgram (S.watch.withFuel n) start = run ∧
        S.Delivered (Run.Outcome.machine run).input) ∧
    (∀ {fuel n m record m'}, MainInput.nextRecord fuel n m = .ok record m' →
      m'.input.handed = (record.map fun text =>
          .record text (m'.env.value "NR") (m'.env.value "FNR")).toList ++ m.input.handed ∧
        (record = none → m'.input.exhausted ∧ m'.input.current = none) ∧
        MainInput.Carried m m') ∧
    ∀ k : Nat, inRange k → Value.counted k = .ofNat k := by
  intro S start run
  refine ⟨fun hsame => ?_, MainInput.nextRecord_handed, fun _ => Value.counted_eq⟩
  let L := Law.delivering hproper (parse_wellFormed h) hassigns hparameters
  have hsteered : S.Steered start.env 0 := by
    refine ⟨fun x _ => ?_, argc_startEnvironment fun a ha => (hs a ha).2, rfl, ?_⟩
    · show ∀ b ∈ (startEnvironment s).blocks, _
      rw [startEnvironment_blocks]
      nofun
    · show (startEnvironment s).value "NR" = _
      rw [value_startEnvironment (by decide) (by decide) fun a ha => (hs a ha).1]
      exact (by decide : standardEnvironment.value "NR" = .ofInt 0)
  have hstart : L.holds start.core := ⟨0, 0, [], rfl, hsteered, nofun, .start S⟩
  have hlaw := (L.parts n).runProgram start hstart
  have hend := hlaw.holds hstart
  have hwatch := hlaw.same
  rw [show L.guard.runProgram (L.guard.withFuel n) start = run from hsame] at hend hwatch
  obtain ⟨_, _, _, halong⟩ := hend
  exact ⟨hwatch.symm, halong.delivered⟩

/-- `function f() { getline x } BEGIN { getline } { f(); print } END { getline }`. -/
def fetching : Program :=
  let action (ss : List Statement) : Block := .mk .program ss
  { items := [⟨.begin_, action [.expr [.getline none .main]]⟩,
      ⟨.all, action [.expr [.call (.user "f") []], .print [] none]⟩,
      ⟨.end_, action [.expr [.getline none .main]]⟩]
    functions := [⟨"f", [], .mk .routine [.expr [.getline (some (.var "x")) .main]], ⟨0, 32⟩⟩]
    ranges := 0 }

theorem parse_fetching :
    parse "function f() { getline x } BEGIN { getline } { f(); print } END { getline }" =
      .ok fetching := by
  cbv

/-- Two files and standard input, with assignments and an empty operand between. -/
def fetchingSettings : Settings := { operands := ["a", "x=1", "", "b", "y=2", "-"] }

def fetchingStreams : Streams :=
  .start ((Host.Disk.empty.add "a" (bytesOf "1\n2\n")).add "b" (bytesOf "3")) (bytesOf "4\n5\n")
    .captured

/-- What it assigns to is the record and `x`. -/
theorem fetching_assigns {site : Site} (h : fetching.Assigns site) :
    site = .field ∨ site = .scalar "x" := by
  have hexpr (e : Expr) : ¬ (Statement.expr e).Assigns site := nofun
  have hprint : ¬ (Statement.print [] none).Assigns site := nofun
  have hcall : ¬ Expr.AssignsWithin [.call (.user "f") []] site := by
    rw [Expr.assignsWithin_singleton_iff fun _ => Term.noConfusion]
    rintro (h | ⟨_, h, -⟩) <;> cases h
  rw [Program.assigns_iff] at h
  simp only [fetching, List.mem_cons, List.not_mem_nil, or_false, exists_eq_or_imp,
    exists_eq_left, Pattern.exprs, false_and, exists_false, false_or] at h
  rw [Block.assigns_flat_iff (by simp [Statement.blocks]),
    Block.assigns_flat_iff (by simp [Statement.blocks]),
    Block.assigns_flat_iff (by simp [Statement.blocks])] at h
  have hrecord : Expr.AssignsWithin [.getline none .main] site ↔ site = .field :=
    Expr.assignsWithin_getline_iff nofun
  have hvar : Expr.AssignsWithin [.getline (some (.var "x")) .main] site ↔ site = .scalar "x" :=
    Expr.assignsWithin_getline_iff (by simp [Target.parts])
  simpa [hexpr, hprint, hcall, hrecord, hvar, Statement.exprs] using h

theorem mainInput_fetching :
    let S := Supply.ofSettings fetchingSettings fetchingStreams
    let start := Machine.start fetching fetchingSettings fetchingStreams
    let run := (Inner.withFuel 9).runProgram start
    S.Proper ∧ S.guard.runProgram (S.guard.withFuel 9) start = run ∧
      S.watch.runProgram (S.watch.withFuel 9) start = run ∧
      (Run.Outcome.machine run).input.log.reverse = S.deliveries ∧
      S.deliveries.filter (·.isRecord) = [.record "1" (.ofInt 1) (.ofInt 1),
        .record "2" (.ofInt 2) (.ofInt 2), .record "3" (.ofInt 3) (.ofInt 1),
        .record "4" (.ofInt 4) (.ofInt 1), .record "5" (.ofInt 5) (.ofInt 2)] := by
  intro S start run
  have hproper : S.Proper := {
    readable := by decide +kernel
    once := by decide +kernel
    assigns := fun o ho x v hx => by
      have hall : ∀ o ∈ S.operands, (assignment? o).all fun a => a.1 ∉ steering := by
        decide +kernel
      simpa [hx] using hall o ho
    range := by decide +kernel }
  have hassigns : ∀ x ∈ steering, ¬ fetching.Assigns (.scalar x) := by
    intro x hx h
    obtain h | h := fetching_assigns h
    · cases h
    · cases h
      exact absurd hx (by decide)
  have hleft : let last := Run.Outcome.machine (S.guard.runProgram (S.guard.withFuel 9) start)
      last.input.exhausted ∧ last.input.current = none := by decide +kernel
  obtain ⟨status, m, hstops⟩ : ∃ status m,
      S.guard.runProgram (S.guard.withFuel 9) start = .ok status m := by
    have hends : ((S.guard.runProgram (S.guard.withFuel 9)).run' start).isSome := by decide +kernel
    unfold EStateM.run' EStateM.run at hends
    cases hstops : S.guard.runProgram (S.guard.withFuel 9) start with
    | ok status m => exact ⟨status, m, rfl⟩
    | error e m =>
      rw [hstops] at hends
      cases hends
  have hrun : run = .ok status m := S.guard.below_runProgram 9 start status m hstops
  obtain ⟨hdelivered, -, -⟩ := mainInput_delivered parse_fetching hassigns
    (by decide +kernel) (fun _ hf => absurd hf List.not_mem_nil) fetchingStreams hproper 9
  obtain ⟨hwatch, hend⟩ := hdelivered (hstops.trans hrun.symm)
  rw [hstops.trans hrun.symm] at hleft
  exact ⟨hproper, hstops.trans hrun.symm, hwatch, hend.log_eq hleft.1 hleft.2, by decide +kernel⟩

/-- `BEGIN { system("read x") } { print }`. -/
def draining : Program :=
  { items := [⟨.begin_, .mk .program [.expr [.call (.builtin .system) [[.value ⟨"read x"⟩]]]]⟩,
      ⟨.all, .mk .program [.print [] none]⟩]
    functions := []
    ranges := 0 }

/-- `{ print }`. -/
def printing : Program :=
  { items := [⟨.all, .mk .program [.print [] none]⟩], functions := [], ranges := 0 }

def drainingStreams : Streams := .start .empty (bytesOf "a\nb\n") .captured

/-- What is written before the program sets `NR`. -/
def presetting : Settings := { assignments := [("NR", "5")] }

theorem draining_assigns {site : Site} : ¬ draining.Assigns site := by
  intro h
  have hexpr (e : Expr) : ¬ (Statement.expr e).Assigns site := nofun
  have hprint : ¬ (Statement.print [] none).Assigns site := nofun
  have hvalue (v : Value) : ¬ Expr.AssignsWithin [.value v] site := by
    rw [Expr.assignsWithin_singleton_iff fun _ => Term.noConfusion]
    rintro (h | ⟨_, h, -⟩) <;> cases h
  have hsystem : ¬ Expr.AssignsWithin [.call (.builtin .system) [[.value ⟨"read x"⟩]]] site := by
    rw [Expr.assignsWithin_singleton_iff fun _ => Term.noConfusion]
    rintro (h | ⟨_, hp, h⟩)
    · cases h with
      | substitute hb | substituteRecord hb => obtain hb | hb := hb <;> cases hb
    · cases List.mem_singleton.mp hp
      exact hvalue _ h
  rw [Program.assigns_iff] at h
  simp only [draining, List.mem_cons, List.not_mem_nil, or_false, exists_eq_or_imp,
    exists_eq_left, Pattern.exprs, false_and, exists_false, false_or] at h
  rw [Block.assigns_flat_iff (by simp [Statement.blocks]),
    Block.assigns_flat_iff (by simp [Statement.blocks])] at h
  simp [hexpr, hprint, hsystem, Statement.exprs] at h

/-- What else reads standard input, or counts before the program does, shows in what is delivered. -/
theorem mainInput_drained :
    parse "BEGIN \x7b system(\"read x\") \x7d \x7b print \x7d" = .ok draining ∧
      parse "\x7b print \x7d" = .ok printing ∧ (∀ site, ¬ draining.Assigns site) ∧
      let final (p : Program) (s : Settings) : MainInput :=
        (Run.Outcome.machine ((Inner.withFuel 9).runProgram (.start p s drainingStreams))).input
      let due : List Delivery :=
        [.opened "", .record "a" (.ofInt 1) (.ofInt 1), .record "b" (.ofInt 2) (.ofInt 2)]
      ((Supply.ofSettings {} drainingStreams).deliveries = due ∧
        (final draining {}).log.reverse = [.opened "", .record "b" (.ofInt 1) (.ofInt 1)] ∧
        ¬ (Supply.ofSettings {} drainingStreams).Delivered (final draining {})) ∧
      (Supply.ofSettings presetting drainingStreams).deliveries = due ∧
        (final printing presetting).log.reverse =
          [.opened "", .record "a" (.ofInt 6) (.ofInt 1), .record "b" (.ofInt 7) (.ofInt 2)] ∧
        ¬ (Supply.ofSettings presetting drainingStreams).Delivered (final printing presetting) :=
  ⟨by cbv, by cbv, fun _ => draining_assigns, by decide +kernel, by decide +kernel⟩

end Awk
