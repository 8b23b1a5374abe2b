import Awk.Proofs.Delivery.Stages
import Awk.Proofs.Invariant.Law
import Awk.Proofs.Scope.Calls

/-! Requests for records of the main input. Each step of a request, from opening inputs to reading
and handing out, leaves what is delivered and what is ahead together as they are due. -/

namespace Awk

open Machine
open Host (Reader Source Streams Disk)
open Records (Bytes bytesOf textOf next)

theorem Run.act_bind {α β : Type} (a : Act α) (f : α → Run β) (m : Machine) :
    ((liftM a : Run α) >>= f) m = f (a m).1 (a m).2 := rfl

/-- The variables that the main input goes by. -/
def steering : List Name := ["FNR", "NR", "ARGC", "RS"]

namespace Environment

variable {env : Environment}

theorem elements_setValue (env : Environment) (x : Name) (a : Value) (i : Nat) :
    (env.setValue x a).elements i = env.elements i := by
  have harrays : (env.obtain x).2.arrays = env.arrays := by
    cases h : env.lookup x with
    | some v => rw [obtain_of_some h]
    | none =>
      rw [obtain_of_none h, put_arrays]
      rfl
  show ((env.obtain x).2.put x _).arrays.getD i ∅ = _
  rw [put_arrays, harrays]
  rfl

/-- The operands that are there stay whatever scalar is set. -/
theorem operand_setValue {i : Nat} {v : Value} (h : env.operand i = some v) (x : Name) (a : Value) :
    (env.setValue x a).operand i = some v := by
  obtain ⟨w, hw, hv⟩ := Option.bind_eq_some_iff.mp h
  obtain ⟨w', hw', harray⟩ := (Keeps.setValue env x a).lookup hw
  rw [operand, hw', Option.bind_some, elements_setValue, harray]
  exact hv

end Environment

/-- What the inputs of a program are read from. -/
def Host.Streams.sources (st : Streams) : Disk × Bytes × Bytes := (st.disk, st.inputBuffer, st.input)

namespace Machine

theorem report_sources (d : Diagnostic) (m : Machine) :
    (report d m).2.streams.sources = m.streams.sources := by
  show (Machine.streams (if m.echo then _ else _)).sources = _
  split <;> rfl

/-- An assignment to a scalar sets it, and it may set `NF` again. -/
theorem assign_scalar_cases (x : Name) (v : Value) (m : Machine) :
    (assign (.scalar x) v m).2.program = m.program ∧
      (assign (.scalar x) v m).2.input = m.input ∧
      (assign (.scalar x) v m).2.streams.sources = m.streams.sources ∧
      ((assign (.scalar x) v m).2.env = m.env.setValue x v ∨
        ∃ w, x = "NF" ∧
          (assign (.scalar x) v m).2.env = (m.env.setValue x v).setValue "NF" w) := by
  by_cases hx : x = "NF"
  · subst hx
    obtain ⟨r, hr⟩ := assign_count_core v m
    refine ⟨congrArg Core.program hr, congrArg Core.input hr, ?_, .inr ⟨_, rfl, congrArg Core.env hr⟩⟩
    show (resizeRecord v.toInteger (setScalar "NF" v m).2).2.streams.sources = _
    unfold resizeRecord
    dsimp only
    split
    · exact report_sources _ (setScalar "NF" v m).2
    · rfl
  · rw [assign_scalar hx]
    exact ⟨rfl, rfl, rfl, .inl rfl⟩

end Machine

namespace Supply

/-- A supply of operands that can be read, of which at most one is for standard input, with no
assignment to what the main input goes by. -/
structure Proper (S : Supply) : Prop where
  readable : ∀ o ∈ S.operands, isFile o → S.readable o
  once : (S.operands.filter S.isInput).length ≤ 1
  assigns : ∀ o ∈ S.operands, ∀ x v, assignment? o = some (x, v) → x ∉ steering
  range : inRange (S.operands.length + 1 : Nat)

variable {S : Supply} {p : Program} {m m' : Machine} {k j : Nat} {rs : List Bytes}

/-- Behind an operand for standard input there is none. -/
theorem Proper.rest (h : S.Proper) {n : Nat} {o : String} {rest : List String}
    (hahead : S.operands.drop n = o :: rest) (ho : S.isInput o) : ∀ x ∈ rest, S.isInput x = false := by
  intro x hx
  rw [Bool.eq_false_iff]
  intro hinput
  have hsub := ((List.drop_sublist n S.operands).filter S.isInput).length_le
  rw [hahead, List.filter_cons_of_pos ho, List.length_cons] at hsub
  have hpos : 0 < (rest.filter S.isInput).length :=
    List.length_pos_of_mem (List.mem_filter.mpr ⟨hx, hinput⟩)
  have := h.once
  omega

/-- The variables after `k` records, of which no active call has one as a parameter. -/
structure Steered (S : Supply) (env : Environment) (k : Nat) : Prop where
  unbound : ∀ x ∈ steering, env.Unbound x
  count : env.value "ARGC" = .ofNat (S.operands.length + 1)
  separator : env.value "RS" = ⟨S.separator⟩
  number : env.value "NR" = .counted k

theorem Steered.setValue {env : Environment} (h : S.Steered env k) {x : Name}
    (hx : x ∉ ["NR", "ARGC", "RS"]) (a : Value) : S.Steered (env.setValue x a) k := by
  have hvalue (y : Name) (hy : y ∈ ["NR", "ARGC", "RS"]) :
      (env.setValue x a).value y = env.value y :=
    Environment.value_setValue_ne _ _ fun hyx => hx (hyx ▸ hy)
  exact
    { unbound := fun y hy => (Environment.Keeps.setValue _ _ _).unbound (h.unbound y hy)
      count := (hvalue _ (by decide)).trans h.count
      separator := (hvalue _ (by decide)).trans h.separator
      number := (hvalue _ (by decide)).trans h.number }

theorem Steered.next {env : Environment} (h : S.Steered env k) :
    S.Steered (env.setValue "NR" (Arithmetic.step (env.value "NR") 1)) (k + 1) where
  unbound x hx := (Environment.Keeps.setValue _ _ _).unbound (h.unbound x hx)
  count := (Environment.value_setValue_ne _ _ (by decide)).trans h.count
  separator := (Environment.value_setValue_ne _ _ (by decide)).trans h.separator
  number := by
    rw [Environment.value_setValue_self, h.number]
    rfl

/-- The data of a run whose main input has come to a stage. -/
structure Along (S : Supply) (p : Program) (c : Core) (k j : Nat) (rs : List Bytes) : Prop where
  program : c.program = p
  steered : S.Steered c.env k
  position : c.input.current ≠ none → c.env.value "FNR" = .counted j
  stage : S.Stage c.input k j rs

/-- What leaves the main input and what it goes by as they are. -/
theorem Along.change {c c' : Core} (h : S.Along p c k j rs) (hprogram : c'.program = c.program)
    (hinput : c'.input = c.input)
    (henv : ∀ x ∈ steering, c'.env.value x = c.env.value x ∧ c'.env.Unbound x) :
    S.Along p c' k j rs where
  program := hprogram.trans h.program
  steered := {
    unbound := fun x hx => (henv x hx).2
    count := (henv "ARGC" (by decide)).1.trans h.steered.count
    separator := (henv "RS" (by decide)).1.trans h.steered.separator
    number := (henv "NR" (by decide)).1.trans h.steered.number }
  position hcurrent :=
    (henv "FNR" (by decide)).1.trans (h.position (hinput ▸ hcurrent))
  stage := hinput ▸ h.stage

/-- A machine whose main input is as it was left. -/
structure Ready (S : Supply) (p : Program) (m : Machine) (k j : Nat) (rs : List Bytes) : Prop where
  along : S.Along p m.core k j rs
  undisturbed : S.Undisturbed m

theorem Undisturbed.change (h : S.Undisturbed m)
    (hsources : m'.streams.sources = m.streams.sources)
    (henv : ∀ i v, m.env.operand i = some v → m'.env.operand i = some v)
    (hleft : m'.input.left = m.input.left) : S.Undisturbed m' := by
  obtain ⟨hdisk, hbuffer, hinput⟩ : m'.streams.disk = m.streams.disk ∧
      m'.streams.inputBuffer = m.streams.inputBuffer ∧ m'.streams.input = m.streams.input := by
    simpa [Streams.sources] using hsources
  refine ⟨hdisk ▸ h.files, fun i hi => ?_, ?_⟩
  · have hthere := h.operands i hi
    rw [List.getElem?_eq_getElem hi] at hthere ⊢
    exact henv _ _ hthere
  · rw [hbuffer, hinput, MainInput.held, hleft]
    exact h.input

end Supply

/-! What the steps of a request do. -/

namespace MainInput

variable {m : Machine} {o : String} {r r' : Reader} {st' : Streams}

/-- The machine once the commands have gone on. -/
def paused (m : Machine) : Machine := { m with streams := m.streams.pause }

/-- The machine past an operand. -/
def passed (m : Machine) : Machine :=
  { m with input := { m.input with nextOperand := m.input.nextOperand + 1 } }

/-- The machine with an input open under a name. -/
def opened (m : Machine) (i : MainInput) (r : Reader) (name : String) : Machine :=
  { m with
    env := (m.env.setValue "FILENAME" ⟨name⟩).setValue "FNR" (.ofInt 0)
    input := { i with current := some r, log := .opened name :: i.log } }

theorem useOperand_assignment {x v : String} (h : assignment? o = some (x, v)) :
    useOperand o m = (false,
      (deliver (.assigned x ⟨Literal.unescape v⟩) (assign (.scalar x) ⟨Literal.unescape v⟩ m).2).2) := by
  unfold useOperand
  rw [h]
  rfl

theorem useOperand_standard (hnone : assignment? o = none) (hne : o ≠ "") (ho : isStandard o) :
    useOperand o m = (true, opened m { m.input with used := true, stdin := none }
      (m.input.stdin.getD Streams.standardInput) o) := by
  have hname : o = "-" || o = "/dev/stdin" := by simpa [isStandard, hne] using ho
  unfold useOperand
  rw [hnone]
  dsimp only
  rw [if_pos hname]
  rfl

theorem useOperand_file (hnone : assignment? o = none) (ho : ¬ isStandard o)
    (hopen : m.streams.openFile o = (.ok r, m.streams)) :
    useOperand o m = (true, opened m { m.input with used := true } r o) := by
  have hname : ¬ (o = "-" || o = "/dev/stdin") := fun hname => ho (by simp_all [isStandard])
  have hread : withStreams (·.openFile o) { m with input := { m.input with used := true } } =
      (.ok r, { m with input := { m.input with used := true } }) := by
    show ((m.streams.openFile o).1, { m with
      streams := (m.streams.openFile o).2, input := { m.input with used := true } }) = _
    rw [hopen]
  unfold useOperand
  rw [hnone]
  dsimp only
  rw [if_neg hname, Act.bind_apply, Act.bind_apply]
  rw [show (modifyInput (fun i => { i with used := true }) m).2 =
    { m with input := { m.input with used := true } } from rfl, hread]
  rfl

theorem openLast_used (h : m.input.used) :
    openLast m = (false, { m with input := { m.input with exhausted := true } }) := by
  show (if m.input.used then _ else _ : Act Bool) _ = _
  rw [if_pos h]
  rfl

theorem openLast_unused (h : m.input.used = false) :
    openLast m = (true, opened m { m.input with exhausted := true, used := true, stdin := none }
      (m.input.stdin.getD Streams.standardInput) "") := by
  show (if m.input.used then _ else _ : Act Bool) _ = _
  rw [if_neg (by rw [h]; exact Bool.false_ne_true)]
  rfl

variable {count : Int} {n : Nat}

theorem openBelow_last (h : ¬ (m.input.nextOperand : Int) < count) :
    openBelow count (n + 1) m = .ok (openLast m).1 (openLast m).2 := by
  rw [openBelow, Run.get_bind_apply, if_neg h]
  rfl

theorem openBelow_next (h : (m.input.nextOperand : Int) < count) :
    openBelow count (n + 1) m =
      match m.env.operand m.input.nextOperand with
      | none => openBelow count n (passed m)
      | some v =>
        if v.text.isEmpty then openBelow count n (passed m)
        else if (useOperand v.text (passed m)).1 then .ok true (useOperand v.text (passed m)).2
        else openBelow count n (useOperand v.text (passed m)).2 := by
  have helement : element? "ARGV" (Int.text m.input.nextOperand) (passed m) =
      (m.env.operand m.input.nextOperand, passed m) := rfl
  rw [openBelow, Run.get_bind_apply, if_pos h, Run.act_bind, Run.act_bind]
  rw [show (modifyInput (fun i => { i with nextOperand := i.nextOperand + 1 }) m).2 = passed m from rfl,
    helement]
  dsimp only
  cases m.env.operand m.input.nextOperand with
  | none => rfl
  | some v =>
    dsimp only
    split
    · rfl
    · rw [Run.act_bind]
      split <;> rfl

theorem withStreams_read {separator : String} {result : Except Host.Cause (Option String)}
    (h : m.streams.readRecord r separator = (result, r', st')) :
    withStreams (fun st =>
      (((st.readRecord r separator).1, (st.readRecord r separator).2.1,
        (st.readRecord r separator).2.2.inputBuffer, (st.readRecord r separator).2.2.input),
        (st.readRecord r separator).2.2)) m =
      ((result, r', st'.inputBuffer, st'.input), { m with streams := st' }) := by
  show (((m.streams.readRecord r separator).1, (m.streams.readRecord r separator).2.1, _, _),
    { m with streams := (m.streams.readRecord r separator).2.2 }) = _
  rw [h]

/-- A record that is read is counted and handed out. -/
theorem readCurrent_some {text : String}
    (h : m.streams.readRecord r (m.env.value "RS").text = (.ok (some text), r', st')) :
    let counted := m.env.setValue "NR" (Arithmetic.step (m.env.value "NR") 1)
    let env := counted.setValue "FNR" (Arithmetic.step (counted.value "FNR") 1)
    readCurrent r m = (some text, { m with
      streams := st'
      env := env
      input := { m.input with
        current := some r'
        log := .record text (env.value "NR") (env.value "FNR") :: m.input.log
        left := (st'.inputBuffer, st'.input) } }) := by
  intro counted env
  rw [readCurrent, Act.bind_apply, Act.bind_apply]
  rw [show scalar "RS" m = (m.env.value "RS", m) from rfl, withStreams_read h]
  rfl

theorem readCurrent_none
    (h : m.streams.readRecord r (m.env.value "RS").text = (.ok none, r', st')) :
    readCurrent r m = (none, { m with
      streams := st'
      input := { m.input with current := none, left := (st'.inputBuffer, st'.input) } }) := by
  rw [readCurrent, Act.bind_apply, Act.bind_apply]
  rw [show scalar "RS" m = (m.env.value "RS", m) from rfl, withStreams_read h]
  rfl

theorem nextRecord_closed (h : m.input.current = none) (fuel : Nat) :
    nextRecord fuel (n + 1) m =
      (do if ← openNext fuel then nextRecord fuel n else return none : Run (Option String)) m := by
  rw [nextRecord, Run.get_bind_apply, h]

theorem nextRecord_open (h : m.input.current = some r) (fuel : Nat) :
    nextRecord fuel (n + 1) m = match (readCurrent r m).1 with
      | some record => .ok (some record) (paused (readCurrent r m).2)
      | none => nextRecord fuel n (readCurrent r m).2 := by
  rw [nextRecord, Run.get_bind_apply, h]
  dsimp only
  rw [Run.act_bind]
  cases (readCurrent r m).1 <;> rfl

theorem openNext_exhausted (h : m.input.exhausted) (fuel : Nat) : openNext fuel m = .ok false m := by
  rw [openNext, Run.get_bind_apply, if_pos h]
  rfl

theorem openNext_apply (h : m.input.exhausted = false) (fuel : Nat) :
    openNext fuel m = openBelow (m.env.value "ARGC").toInteger fuel m := by
  rw [openNext, Run.get_bind_apply, if_neg (by rw [h]; exact Bool.false_ne_true)]
  rfl

end MainInput

namespace Supply

open MainInput

variable {S : Supply} {p : Program} {m : Machine} {k j : Nat} {rs : List Bytes}

/-- An input is opened. -/
theorem Ready.opened (hprogram : m.program = p) (hsteered : S.Steered m.env k)
    (hundisturbed : S.Undisturbed m) {i : MainInput} {r : Reader} {name : String}
    (hleft : i.left = m.input.left)
    (hstage : S.Stage (MainInput.opened m i r name).input k 0 (S.records name)) :
    S.Ready p (MainInput.opened m i r name) k 0 (S.records name) where
  along := {
    program := hprogram
    steered := (hsteered.setValue (by decide) _).setValue (by decide) _
    position := fun _ => Environment.value_setValue_self _ _ _
    stage := hstage }
  undisturbed := by
    refine hundisturbed.change rfl (fun i v hv => ?_) hleft
    exact Environment.operand_setValue (Environment.operand_setValue hv _ _) _ _

/-- What has been delivered, and what is due from the next operand on. -/
theorem Ready.log (h : S.Ready p m k j []) : m.input.log.reverse ++
    S.due m.input.used k (S.operands.drop (m.input.nextOperand - 1)) = S.deliveries :=
  h.along.stage.log

theorem Ready.stage (h : S.Ready p m k j rs) : S.Stage m.input k j rs := h.along.stage

section Operand

variable (h : S.Ready p m k j []) (hcurrent : m.input.current = none) {o : String}
  {rest : List String} (hahead : S.operands.drop (m.input.nextOperand - 1) = o :: rest)

include h hcurrent hahead

/-- An operand that is empty is passed. -/
theorem Ready.skip (ho : o.isEmpty) : S.Ready p (passed m) k j [] := by
  have hlog := h.log
  rw [hahead, due, if_pos ho] at hlog
  have hfile : isFile o = false := by
    rw [isFile, ho]
    rfl
  exact
    { along := { h.along with stage := h.stage.pass hcurrent hfile hahead hlog }
      undisturbed := h.undisturbed.change rfl (fun _ _ hv => hv) rfl }

/-- An operand that is an assignment is carried out. -/
theorem Ready.assigned (hne : o.isEmpty = false) {x v : String} (hx : x ∉ steering)
    (ho : assignment? o = some (x, v)) :
    S.Ready p (useOperand o (passed m)).2 k j [] := by
  have hdelivered : (.assigned x ⟨Literal.unescape v⟩ :: m.input.log).reverse ++
      S.due m.input.used k rest = S.deliveries := by
    rw [← h.log, hahead, due, hne, ho]
    simp
  have hfile : isFile o = false := by
    rw [isFile, ho, Option.isNone_some, Bool.and_false]
  rw [useOperand_assignment ho]
  obtain ⟨hprogram, hinput, hsources, henv⟩ :=
    assign_scalar_cases x ⟨Literal.unescape v⟩ (passed m)
  generalize hm' : (assign (.scalar x) ⟨Literal.unescape v⟩ (passed m)).2 = m' at *
  refine ⟨?_, ?_⟩
  · have hx' : x ∉ ["NR", "ARGC", "RS"] := fun hmem => hx (List.mem_cons_of_mem _ hmem)
    refine ⟨hprogram.trans h.along.program, ?_, fun hopen => ?_, ?_⟩
    · have hset := h.along.steered.setValue hx' ⟨Literal.unescape v⟩
      obtain henv | ⟨w, -, henv⟩ := henv
      · show S.Steered m'.env k
        rw [henv]
        exact hset
      · show S.Steered m'.env k
        rw [henv]
        exact hset.setValue (by decide) w
    · refine absurd ?_ hopen
      show m'.input.current = none
      rw [hinput]
      exact hcurrent
    · show S.Stage { m'.input with log := _ } _ _ _
      rw [hinput]
      exact h.stage.pass hcurrent hfile hahead hdelivered
  · refine h.undisturbed.change hsources (fun i w hw => ?_) ?_
    · have hset := @Environment.operand_setValue (passed m).env _ _ hw x ⟨Literal.unescape v⟩
      obtain henv | ⟨w', -, henv⟩ := henv
      · rw [← henv] at hset
        exact hset
      · have hagain := Environment.operand_setValue hset "NF" w'
        rw [← henv] at hagain
        exact hagain
    · show m'.input.left = _
      rw [hinput]
      rfl

omit hcurrent in
/-- An operand that is a file is opened. -/
theorem Ready.useFile (hS : S.Proper) (hne : o.isEmpty = false) (hnone : assignment? o = none) :
    ∃ m', useOperand o (passed m) = (true, m') ∧ m'.input.current.isSome ∧
      S.Ready p m' k 0 (S.records o) := by
  have hahead' : o ∈ S.operands.drop (m.input.nextOperand - 1) := by
    rw [hahead]
    exact List.mem_cons_self
  have hmem := List.mem_of_mem_drop hahead'
  have hfile : isFile o := by
    rw [isFile, hne, hnone]
    rfl
  obtain ⟨r, hr, hreadable⟩ := exists_reader (hS.readable o hmem hfile)
  have hrest := h.stage.drop_next hahead
  have hdue : S.due m.input.used k (S.operands.drop (m.input.nextOperand - 1)) =
      .opened o :: (numbered k 0 (S.records o) ++ S.due true (k + (S.records o).length)
        (S.operands.drop (m.input.nextOperand + 1 - 1))) := by
    rw [hahead, due, hne, hnone, hrest]
    rfl
  have hlater (hinput : S.isInput o) :
      ∀ x ∈ S.operands.drop (m.input.nextOperand + 1 - 1), S.isInput x = false := by
    rw [hrest]
    exact hS.rest hahead hinput
  have hinput (htakes : S.takesInput o) : S.isInput o := by
    rw [isInput, hfile, htakes, Bool.or_true]
    rfl
  have hheld (htakes : S.takesInput o) : m.input.held = S.input :=
    (h.stage.fresh_of_mem hahead' (hinput htakes)).held
      (Opens.wantsInput (.inl ⟨hmem, hfile⟩) htakes)
  -- The input that is opened is the same for standard input and for a file but for its reader.
  have hopen (stdin : Option Reader) (hstdin : S.isInput o ∨ stdin = m.input.stdin) :
      S.Ready p (MainInput.opened (passed m)
        { (passed m).input with used := true, stdin := stdin } r o) k 0 (S.records o) := by
    have hafter : S.Unopened (MainInput.opened (passed m)
          { (passed m).input with used := true, stdin := stdin } r o).input ∨
        ∀ x ∈ S.operands.drop (m.input.nextOperand + 1 - 1), S.isInput x = false := by
      by_cases hsource : S.isInput o
      · exact .inr (hlater hsource)
      · have hsame := hstdin.resolve_left hsource
        refine h.stage.fresh.imp (fun hfresh => ⟨hsame.trans hfresh.stdin, fun r' hr' => ?_,
          hfresh.held⟩) fun hnever x hx => ?_
        · cases hr'
          intro hr'
          refine hsource (hinput ?_)
          rw [takesInput_eq hr, hr']
          rfl
        · refine hnever.2 x ?_
          rw [hrest] at hx
          rw [hahead]
          exact List.mem_cons_of_mem o hx
    have hstage : S.Stage (MainInput.opened (passed m)
        { (passed m).input with used := true, stdin := stdin } r o).input k 0 (S.records o) :=
      h.stage.opens hr hreadable (.inl ⟨hmem, hfile⟩) hdue rfl rfl rfl (Nat.succ_pos _)
        hheld hafter fun hend => Nat.lt_succ_of_lt (h.stage.exhausted hend).2
    have hpassed : S.Undisturbed (passed m) :=
      h.undisturbed.change rfl (fun _ _ hv => hv) rfl
    exact Ready.opened (m := passed m) h.along.program h.along.steered hpassed rfl hstage
  by_cases hstandard : isStandard o
  · have hsource : S.isInput o := by
      rw [isInput, hfile, hstandard]
      rfl
    have hreader : r = m.input.stdin.getD Streams.standardInput := by
      rw [(h.stage.fresh_of_mem hahead' hsource).stdin]
      exact Option.some.inj (hr.symm.trans (reader?_standard hstandard))
    have hne' : o ≠ "" := by
      rintro rfl
      cases hne
    subst hreader
    exact ⟨_, useOperand_standard hnone hne' hstandard, rfl, hopen none (.inl hsource)⟩
  · have hsame := (h.undisturbed.files o hmem hfile (by simpa using hstandard)).1
    exact ⟨_, useOperand_file hnone hstandard (openFile_eq hstandard hr hsame), rfl,
      hopen m.input.stdin (.inr rfl)⟩

end Operand

end Supply

end Awk
