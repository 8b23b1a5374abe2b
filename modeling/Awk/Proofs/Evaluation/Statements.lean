import Awk.Proofs.Evaluation.Walk

/-! The walk over statements and patterns. -/

namespace Awk.Walk.Relates

open Machine Run

variable {W : Walk} {self other : Inner} (h : W.Relates self other)

include h

theorem pass {body : Block} (hb : W.block body) :
    W.holds (self.pass body) (other.pass body) fun _ => True :=
  W.andThen (h.block hb) fun _ =>
    W.andThen (W.act (W.acts.reads (·.flag) fun _ _ => rfl)) fun _ => W.pure trivial

theorem condition {e : Expr} (he : W.expr e) :
    W.holds (self.holds e) (other.holds e) fun _ => True :=
  W.andThen (h.value he) fun _ =>
    W.andThen (W.act (W.acts.reads (·.flag) fun _ _ => rfl)) fun _ => W.pure trivial

theorem perform {e : Option Expr} (he : ∀ x ∈ e, W.expr x) :
    W.holds (self.perform e) (other.perform e) fun _ => True := by
  cases e with
  | none => exact W.pure trivial
  | some e => exact W.andThen (h.operand (he e rfl)) fun _ => W.pure trivial

theorem round {condition step : Option Expr} {body : Block} (hc : ∀ e ∈ condition, W.expr e)
    (hb : W.block body) (hs : ∀ e ∈ step, W.expr e) :
    W.holds (self.round condition body step) (other.round condition body step)
      fun _ => True := by
  have hrest (goes : Bool) : W.holds (do
      if goes then
        if ← self.pass body then
          self.perform step
          return true
        else return false
      else return false : Run Bool) (do
      if goes then
        if ← other.pass body then
          other.perform step
          return true
        else return false
      else return false) fun _ => True :=
    W.ite (W.andThen (h.pass hb) fun _ =>
      W.ite (W.andThen (h.perform hs) fun _ => W.pure trivial) (W.pure trivial)) (W.pure trivial)
  cases condition with
  | none => exact hrest true
  | some c => exact W.andThen (h.condition (hc c rfl)) hrest

omit h in
theorem writeTo (target : Option (Host.OutputKind × String)) (text : String) :
    W.holds (do
      match ← withStreams (·.write target text) with
      | none => return ()
      | some f => reportFailure f : Run Unit) (do
      match ← withStreams (·.write target text) with
      | none => return ()
      | some f => reportFailure f : Run Unit) fun _ => True := by
  refine W.andThen (W.act (W.acts.withStreams _)) fun f => ?_
  cases f with
  | none => exact W.pure trivial
  | some f => exact W.act (W.acts.reportFailure f)

theorem write {output : Option Redirect} (ho : ∀ r ∈ output, W.expr r.target) (text : String) :
    W.holds (self.write output text) (other.write output text) fun _ => True := by
  cases output with
  | none => exact writeTo none text
  | some r =>
    exact W.andThen (h.value (ho r rfl)) fun name => writeTo (some (_, name.text)) text

theorem printed {parts : List Expr} (hp : ∀ e ∈ parts, W.expr e) :
    W.holds (self.printed parts) (other.printed parts) fun _ => True := by
  have hrest (text : String) : W.holds (do return text ++ (← scalar "ORS").text : Run String)
      (do return text ++ (← scalar "ORS").text) fun _ => True :=
    W.andThen (W.act (W.acts.scalarOf _)) fun _ => W.pure trivial
  unfold Inner.printed
  refine W.ite ?_ ?_
  · exact W.get_bind (fun _ _ => rfl) (fun _ _ => rfl) fun m => hrest _
  · refine W.andThen (W.act (W.acts.scalarOf _)) fun _ => ?_
    exact W.andThen (h.values hp) fun _ => hrest _

/-- A statement that starts where no jump is pending. -/
theorem statement {s : Statement} (hs : W.AdmitsStatement s) :
    W.given (·.flag = .none) (self.statement s) (other.statement s) fun _ => True := by
  obtain ⟨hexprs, hblocks, hmay⟩ := hs
  cases s with
  | print ps output =>
    refine W.given_of (W.andThen (h.printed fun e he => hexprs e (List.mem_append_left _ he))
      fun text => h.write (fun r hr => ?_) text)
    exact hexprs r.target (List.mem_append_right _ (by rw [hr]; exact .head _))
  | printf ps output =>
    cases ps with
    | nil => exact W.given_of (W.pure trivial)
    | cons format ps =>
      refine W.given_of (W.andThen (h.value (hexprs format (.head _))) fun format =>
        W.andThen (h.values fun e he => ?_) fun values => h.write (fun r hr => ?_) _)
      · exact hexprs e (.tail _ (List.mem_append_left _ he))
      · exact hexprs r.target (List.mem_append_right _ (by rw [hr]; exact .head _))
  | expr e => exact W.given_of (W.andThen (h.value (hexprs e (.head _))) fun _ => W.pure trivial)
  | if_ condition yes no =>
    refine W.given_of (W.andThen (h.value (hexprs condition (.head _))) fun v => W.ite ?_ ?_)
    · exact W.andThen (h.block (hblocks yes (.head _))) fun _ => W.pure trivial
    · cases no with
      | none => exact W.pure trivial
      | some no =>
        exact W.andThen (h.block (hblocks no (.tail _ (.head _)))) fun _ => W.pure trivial
  | while_ condition body =>
    refine W.given_of (h.loop (h.round (fun e he => ?_) (hblocks body (.head _))
      fun e he => absurd he (Option.not_mem_none e)))
    cases he
    exact hexprs condition (.head _)
  | doWhile body condition =>
    refine W.given_of (h.loop (W.andThen (h.pass (hblocks body (.head _))) fun _ => ?_))
    exact W.ite (h.condition (hexprs condition (.head _))) (W.pure trivial)
  | for_ start condition step body =>
    have hstart (e : Expr) (he : e ∈ start) : W.expr e :=
      hexprs e (by simp [Statement.exprs, Option.mem_def.mp he])
    have hcondition (e : Expr) (he : e ∈ condition) : W.expr e :=
      hexprs e (by simp [Statement.exprs, Option.mem_def.mp he])
    have hstep (e : Expr) (he : e ∈ step) : W.expr e :=
      hexprs e (by simp [Statement.exprs, Option.mem_def.mp he])
    refine W.given_of (W.andThen (h.perform hstart) fun _ => ?_)
    exact h.loop (h.round hcondition (hblocks body (.head _)) hstep)
  | forIn name array body =>
    refine W.given_of (W.get_bind (fun _ _ => rfl) (fun _ _ => rfl) fun m => ?_)
    refine W.forWhile (fun key => W.andThen (W.act ?_) fun _ => h.pass (hblocks body (.head _))) _
    exact W.acts.assign (p := .scalar name) (hmay (.forIn name array body)) _
  | block body =>
    exact W.given_of (W.andThen (h.block (hblocks body (.head _))) fun _ => W.pure trivial)
  | break_ => exact W.jump (.inl rfl)
  | continue_ => exact W.jump (.inr (.inl rfl))
  | next => exact W.jump (.inr (.inr rfl))
  | return_ e =>
    have hrest (v : Value) : W.holds (do
        modifyEnv (·.setReturned v)
        raise .return_ : Run Unit) (do
        modifyEnv (·.setReturned v)
        raise .return_) fun _ => True :=
      W.andThen (W.act (W.acts.returned v)) fun _ => W.leave (.inl rfl)
    cases e with
    | none => exact W.given_of (hrest .empty)
    | some e => exact W.given_of (W.andThen (h.value (hexprs e (.head _))) hrest)
  | exit e =>
    cases e with
    | none => exact W.given_of (W.leave (.inr rfl))
    | some e =>
      refine W.given_of (W.andThen (h.value (hexprs e (.head _))) fun v => ?_)
      have hstatus : W.acts.has (modify fun m : Machine =>
          { m with status := (v.toInteger % 256).toNat }) :=
        W.acts.inert ⟨fun _ => rfl, fun _ => rfl, fun _ _ => rfl⟩
      exact W.andThen (W.act hstatus) fun _ => W.leave (.inr rfl)
  | delete array subscript =>
    have hchange (f : Elements → Elements) : W.acts.has (modifyEnv (·.modifyElements array f)) :=
      W.acts.change f (hmay (.delete array subscript))
    cases subscript with
    | none => exact W.given_of (W.act (hchange fun _ => ∅))
    | some subscript =>
      exact W.given_of (W.andThen (h.subscriptKey hexprs) fun key => W.act (hchange (·.erase key)))

/-- The ranges of a pattern may be looked up and set. -/
theorem selects {p : Pattern} (hp : ∀ e ∈ p.exprs, W.expr e)
    (hranges : ∀ id ∈ p.ranges, W.acts.has (Inner.inRange id) ∧
      ∀ active, W.acts.has (Inner.setRange id active)) :
    W.holds (self.selects p) (other.selects p) fun _ => True := by
  induction p with
  | all | begin_ | end_ => exact W.pure trivial
  | regex pattern => exact W.act (W.acts.recordMatches pattern)
  | expr e => exact W.andThen (h.value (hp e (.head _))) fun _ => W.pure trivial
  | not inner ih => exact W.andThen (ih hp hranges) fun _ => W.pure trivial
  | and left right ihl ihr =>
    have hl := ihl (fun e he => hp e (List.mem_append_left _ he))
      fun id hid => hranges id (List.mem_append_left _ hid)
    have hr := ihr (fun e he => hp e (List.mem_append_right _ he))
      fun id hid => hranges id (List.mem_append_right _ hid)
    exact W.andThen hl fun _ => W.ite hr (W.pure trivial)
  | or left right ihl ihr =>
    have hl := ihl (fun e he => hp e (List.mem_append_left _ he))
      fun id hid => hranges id (List.mem_append_left _ hid)
    have hr := ihr (fun e he => hp e (List.mem_append_right _ he))
      fun id hid => hranges id (List.mem_append_right _ hid)
    exact W.andThen hl fun _ => W.ite (W.pure trivial) hr
  | range id first last ihf ihl =>
    have hf := ihf (fun e he => hp e (List.mem_append_left _ he))
      fun i hi => hranges i (.tail _ (List.mem_append_left _ hi))
    have hl := ihl (fun e he => hp e (List.mem_append_right _ he))
      fun i hi => hranges i (.tail _ (List.mem_append_right _ hi))
    obtain ⟨hin, hset⟩ := hranges id (.head _)
    have hrest (starts : Bool) : W.holds (do
        if starts then
          let ends ← self.selects last
          Inner.setRange id (!ends)
          return true
        else return false : Run Bool) (do
        if starts then
          let ends ← other.selects last
          Inner.setRange id (!ends)
          return true
        else return false) fun _ => True :=
      W.ite (W.andThen hl fun ends => W.andThen (W.act (hset _)) fun _ =>
        W.pure trivial) (W.pure trivial)
    refine W.andThen (W.act hin) fun inside => ?_
    cases inside with
    | true => exact hrest true
    | false => exact W.andThen hf hrest

end Awk.Walk.Relates
