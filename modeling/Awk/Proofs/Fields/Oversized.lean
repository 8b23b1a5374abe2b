import Awk.Eval.Expression
import Awk.Proofs.Conduct.Keeps
import Awk.Proofs.Fields.Coherence

/-! Assignments that ask for too many fields. Whichever way a place comes to be assigned to, the
record, its fields and `NF` stay as they are, and that is reported once. -/

namespace Awk

open Machine Run

/-- The number of fields that has been refused. -/
def Diagnostic.tooLarge? : Diagnostic → Option Nat
  | .fieldIndexTooLarge k => some k
  | _ => none

/-- The record, the scalars, and the numbers of fields that have been refused, last first. -/
structure Holdings where
  record : Record
  value : Name → Value
  refused : List Nat

namespace Holdings

variable (h : Holdings)

/-- `NF` is the number of fields. -/
def Linked : Prop := h.value "NF" = .ofNat h.record.fieldCount

def refuse (k : Nat) : Holdings := { h with refused := k :: h.refused }

end Holdings

namespace Machine

def holdings (m : Machine) : Holdings :=
  ⟨m.record, m.env.value, m.diagnostics.filterMap Diagnostic.tooLarge?⟩

variable {m : Machine}

theorem holdings_report (d : Diagnostic) (m : Machine) :
    (report d m).2.holdings =
      { m.holdings with refused := d.tooLarge?.toList ++ m.holdings.refused } := by
  have hdiagnostics : (report d m).2.diagnostics = d :: m.diagnostics := by
    show diagnostics (if m.echo then _ else _) = _
    split <;> rfl
  have hrefused : (report d m).2.holdings.refused = d.tooLarge?.toList ++ m.holdings.refused := by
    show (report d m).2.diagnostics.filterMap _ = _
    rw [hdiagnostics, List.filterMap_cons]
    cases d.tooLarge? <;> rfl
  have hrecord : (report d m).2.holdings.record = m.record := report_record d m
  have hvalue : (report d m).2.holdings.value = m.env.value :=
    congrArg Environment.value (report_env d m)
  show Holdings.mk (report d m).2.holdings.record (report d m).2.holdings.value
    (report d m).2.holdings.refused = _
  rw [hrecord, hvalue, hrefused]
  rfl

end Machine

/-- An assignment that asks for too many fields, and for how many. -/
inductive Oversized : Place → Value → Nat → Prop
  | field {k : Nat} (v : Value) : maxFields < k → Oversized (.field k) v k
  | count {v : Value} : maxFields < v.toInteger.toNat →
      Oversized (.scalar "NF") v v.toInteger.toNat

/-- The assignment is refused: `NF` is what it was before. -/
theorem Oversized.refused {p : Place} {v : Value} {k : Nat} (h : Oversized p v k) {m : Machine}
    (hm : m.holdings.Linked) : (assign p v m).2.holdings = m.holdings.refuse k := by
  cases h with
  | field v hk =>
    show (setField k v m).2.holdings = _
    rw [setField_of_lt hk, holdings_report]
    rfl
  | count hv =>
    rw [assign_count_of_lt hv]
    have hset : (setScalar "NF" v m).2.holdings =
        { m.holdings with value := (m.env.setValue "NF" v).value } := rfl
    have hreport := holdings_report (.fieldIndexTooLarge v.toInteger.toNat) (setScalar "NF" v m).2
    generalize (setScalar "NF" v m).2 = m₁ at hset hreport ⊢
    show (syncFieldCount (report _ m₁).2).2.holdings = _
    generalize (report _ m₁).2 = m₂ at hreport ⊢
    rw [hset] at hreport
    have hsync : (syncFieldCount m₂).2.holdings = { m₂.holdings with
        value := (m₂.env.setValue "NF" (.ofNat m₂.holdings.record.fieldCount)).value } := rfl
    have hvalue : (m₂.env.setValue "NF" (.ofNat m₂.holdings.record.fieldCount)).value =
        m.env.value := by
      funext name
      have hname : m₂.env.value name = (m.env.setValue "NF" v).value name :=
        congrFun (congrArg Holdings.value hreport) name
      rw [Environment.value_setValue, hname, Environment.value_setValue, hreport]
      split
      · rename_i heq
        rw [heq]
        exact hm.symm
      · rfl
    rw [hsync, hvalue, hreport]
    rfl

/-! What comes before an assignment. -/

/-- The record and the scalars are left as they are, and no number of fields is refused. -/
def Act.Calm {α : Type} (a : Act α) : Prop := ∀ m, (a m).2.holdings = m.holdings

namespace Act.Calm

variable {α β : Type} {a : Act α} {f : α → Act β}

theorem pure (x : α) : Calm (Pure.pure x : Act α) := fun _ => rfl

theorem bind (ha : a.Calm) (hf : ∀ x, (f x).Calm) : Calm (a >>= f) :=
  fun m => (hf _ _).trans (ha m)

theorem reads (f : Machine → α) : Calm (do return f (← get) : Act α) := fun _ => rfl

theorem report {d : Diagnostic} (h : d.tooLarge? = none) : Calm (report d) := fun m => by
  rw [holdings_report, h]
  rfl

theorem regex? (pattern : String) : Calm (regex? pattern) := fun m => by
  show ((if (m.regexes.get pattern).1.isNone then _ else _ : Act (Option Regex)) _).2.holdings = _
  split
  · exact report rfl { m with regexes := (m.regexes.get pattern).2 }
  · rfl

theorem isMatch (pattern text : String) : Calm (isMatch pattern text) :=
  (regex? pattern).bind fun r => by cases r <;> exact pure _

theorem getPlace (p : Place) : Calm (getPlace p) := by
  cases p with
  | scalar name => exact reads _
  | element name key =>
    intro m
    show Holdings.mk m.record (m.env.element name key).2.value _ = _
    rw [funext (Environment.value_element m.env name key)]
    rfl
  | field index => exact reads _

theorem valueOf (o : Operand) : Calm (Inner.valueOf o) := by
  cases o with
  | value v => exact pure v
  | null => exact pure _
  | place p => exact getPlace p
  | regex pattern => exact bind (fun m => isMatch pattern m.record.text m) fun _ => pure _

theorem patternOf (o : Operand) : Calm (Inner.patternOf o) := by
  cases o with
  | regex pattern => exact pure pattern
  | _ => exact (valueOf _).bind fun _ => pure _

theorem argument (o : Option Operand) : Calm (Builtin.argument o) := by
  cases o with
  | none => exact pure _
  | some o => exact valueOf o

theorem patternArgument (o : Option Operand) : Calm (Builtin.patternArgument o) := by
  cases o with
  | none => exact pure _
  | some o => exact patternOf o

theorem arithmetic (o : Operator) (a b : Value) : Calm (arithmetic o a b) := by
  unfold Machine.arithmetic
  split
  · exact pure _
  · exact (report rfl).bind fun _ => pure _

end Act.Calm

/-- An assignment is refused as well after a step that leaves everything as it is. -/
theorem Oversized.refused_after {α : Type} {a : Act α} (ha : a.Calm) {p : Place} {v : Value}
    {k : Nat} (h : Oversized p v k) {m : Machine} (hm : m.holdings.Linked) :
    (assign p v (a m).2).2.holdings = m.holdings.refuse k := by
  have hsame := ha m
  rw [← hsame]
  exact h.refused (hsame ▸ hm)

/-! The ways in which a place comes to be assigned to. -/

namespace Inner

/-- What an assignment operator gives to a place. -/
def assigned (o : Operator) (p : Place) (v : Value) : Act Value :=
  match o.compoundBase? with
  | some base => do arithmetic base (← getPlace p) v
  | none => return v

/-- What an operator that adds or takes away one gives to a place. -/
def stepped (o : Operator) (p : Place) : Act Value := do
  return Arithmetic.step (← getPlace p) (if o = .preIncr || o = .postIncr then 1 else -1)

theorem calm_assigned (o : Operator) (p : Place) (v : Value) : (assigned o p v).Calm := by
  unfold assigned
  split
  · exact (Act.Calm.getPlace p).bind fun old => .arithmetic _ old v
  · exact .pure v

theorem calm_stepped (o : Operator) (p : Place) : (stepped o p).Calm :=
  (Act.Calm.getPlace p).bind fun _ => .pure _

theorem apply_assigned (self : Inner) {o : Operator} (ho : o.isAssignment) (p : Place)
    {right : Delayed} {v : Value} {m₀ m : Machine} (hright : self.force right m₀ = .ok v m) :
    self.apply (.binary o (.ready (.place p)) right) m₀ =
      .ok (.ready (.place p)) (assign p (assigned o p v m).1 (assigned o p v m).2).2 := by
  have happly : self.apply (.binary o (.ready (.place p)) right) =
      self.applyAssignment o (.ready (.place p)) right := if_pos ho
  rw [happly]
  unfold applyAssignment assigned
  rw [bind_ok hright]
  cases o.compoundBase? <;> rfl

theorem apply_stepped (self : Inner) {o : Operator}
    (ho : o ∈ [Operator.preIncr, .preDecr, .postIncr, .postDecr]) (p : Place) (m : Machine) :
    ∃ d, self.apply (.unary o (.ready (.place p))) m =
      .ok d (assign p (stepped o p m).1 (stepped o p m).2).2 := by
  have hstep : (applyStep o (.ready (.place p)) m).2 =
      (assign p (stepped o p m).1 (stepped o p m).2).2 := by
    unfold applyStep stepped
    dsimp only [Act.bind_apply, Act.pure_apply]
  have happly : self.apply (.unary o (.ready (.place p))) =
      liftM (applyStep o (.ready (.place p))) := by
    simp only [List.mem_cons, List.not_mem_nil, or_false] at ho
    obtain rfl | rfl | rfl | rfl := ho <;> rfl
  rw [happly, ← hstep]
  exact ⟨_, lift_apply _ m⟩

/-- The index of a field that is out of reach comes about without a report. -/
theorem apply_field (self : Inner) {v : Value} (h : maxFields < v.toInteger.toNat) (m : Machine) :
    self.apply (.unary .field (.ofValue v)) m =
      .ok (.ready (.place (.field v.toInteger.toNat))) m := by
  have hnonneg : ¬ v.toInteger < 0 := by omega
  have hindex : fieldIndex v m = (v.toInteger.toNat, m) := by
    unfold fieldIndex
    rw [if_neg hnonneg]
    rfl
  have happly : self.apply (.unary .field (.ofValue v)) m =
      .ok (.ready (.place (.field (fieldIndex v m).1))) (fieldIndex v m).2 := rfl
  rw [happly, hindex]

theorem getline_assigned (self : Inner) {target : Target Expr} {source : InputSource Expr}
    {text : String} {p : Place} {m₀ m₁ m : Machine}
    (hfetch : self.fetchFrom source m₀ = .ok (.record text) m₁)
    (htarget : self.targetPlace target m₁ = .ok p m) :
    self.getline (some target) source m₀ = .ok (.ofInt 1) (assign p ⟨text⟩ m).2 := by
  unfold getline
  rw [bind_ok hfetch]
  exact (bind_ok htarget).trans rfl

end Inner

namespace Builtin

/-- What a substitution makes of the text of a place, and how many replacements there are. -/
def replaced (all : Bool) (pattern replacement : Option Operand) (p : Place) : Act (Value × Nat) := do
  let pattern ← patternArgument pattern
  let replacement ← argument replacement
  let text ← getPlace p
  match ← regex? pattern with
  | none => return (text, 0)
  | some r =>
    let (pieces, tail) := r.pieces text.text.toList
    let (result, n) := Replacement.replace pieces tail replacement.text.toList all
    return (⟨.ofList result⟩, n)

theorem calm_replaced (all : Bool) (pattern replacement : Option Operand) (p : Place) :
    (replaced all pattern replacement p).Calm := by
  refine (Act.Calm.patternArgument pattern).bind fun pattern =>
    (Act.Calm.argument replacement).bind fun replacement =>
      (Act.Calm.getPlace p).bind fun text => (Act.Calm.regex? pattern).bind fun r => ?_
  cases r <;> exact .pure _

theorem substitute_replaced (all : Bool) (pattern replacement : Option Operand) (p : Place) :
    substitute pattern replacement (some (.place p)) all = (do
      let (v, n) ← replaced all pattern replacement p
      if n > 0 then assign p v
      return .ofNat n) := by
  have hplace : substitute pattern replacement (some (.place p)) all = (do
      let pattern ← patternArgument pattern
      let replacement ← argument replacement
      substitute.at_ all pattern replacement p) := rfl
  rw [hplace, replaced]
  simp only [bind_assoc]
  refine bind_congr fun pattern => bind_congr fun replacement => ?_
  unfold substitute.at_
  refine bind_congr fun text => bind_congr fun r => ?_
  cases r <;> rfl

theorem substitute_assigned {all : Bool} {pattern replacement : Option Operand} {p : Place}
    {m : Machine} (h : 0 < (replaced all pattern replacement p m).1.2) :
    (substitute pattern replacement (some (.place p)) all m).2 =
      (assign p (replaced all pattern replacement p m).1.1
        (replaced all pattern replacement p m).2).2 := by
  rw [substitute_replaced, Act.bind_apply]
  generalize replaced all pattern replacement p m = r at h ⊢
  obtain ⟨⟨v, n⟩, m'⟩ := r
  have hn : n > 0 := h
  dsimp only
  rw [if_pos hn]
  rfl

end Builtin

/-- Where `NF` is the number of fields, an assignment that asks for more fields than there may be
leaves the record and all scalars as they are and is reported once, by whatever way the place has
come to be assigned to; and the index of a field that is out of reach is not reported before. -/
theorem oversized_refused {m : Machine} (hm : m.holdings.Linked) {p : Place} {k : Nat} :
    (∀ (self : Inner) v, v.toInteger.toNat = k → maxFields < k →
      self.apply (.unary .field (.ofValue v)) m = .ok (.ready (.place (.field k))) m) ∧
    (∀ v, Oversized p v k → (assign p v m).2.holdings = m.holdings.refuse k) ∧
    (∀ (self : Inner) o right v m₀, o.isAssignment → self.force right m₀ = .ok v m →
      Oversized p (Inner.assigned o p v m).1 k →
      ∃ m', self.apply (.binary o (.ready (.place p)) right) m₀ = .ok (.ready (.place p)) m' ∧
        m'.holdings = m.holdings.refuse k) ∧
    (∀ (self : Inner), ∀ o ∈ [Operator.preIncr, .preDecr, .postIncr, .postDecr],
      Oversized p (Inner.stepped o p m).1 k →
      ∃ d m', self.apply (.unary o (.ready (.place p))) m = .ok d m' ∧
        m'.holdings = m.holdings.refuse k) ∧
    (∀ all pattern replacement, 0 < (Builtin.replaced all pattern replacement p m).1.2 →
      Oversized p (Builtin.replaced all pattern replacement p m).1.1 k →
      (Builtin.substitute pattern replacement (some (.place p)) all m).2.holdings =
        m.holdings.refuse k) ∧
    ∀ (self : Inner) target source text m₀ m₁, self.fetchFrom source m₀ = .ok (.record text) m₁ →
      self.targetPlace target m₁ = .ok p m → Oversized p ⟨text⟩ k →
      ∃ m', self.getline (some target) source m₀ = .ok (.ofInt 1) m' ∧
        m'.holdings = m.holdings.refuse k := by
  refine ⟨?_, fun v hv => hv.refused hm, ?_, ?_, ?_, ?_⟩
  · rintro self v rfl hk
    exact self.apply_field hk m
  · intro self o right v m₀ ho hright hv
    exact ⟨_, self.apply_assigned ho p hright, hv.refused_after (Inner.calm_assigned o p v) hm⟩
  · intro self o ho hv
    obtain ⟨d, happly⟩ := self.apply_stepped ho p m
    exact ⟨d, _, happly, hv.refused_after (Inner.calm_stepped o p) hm⟩
  · intro all pattern replacement hn hv
    rw [Builtin.substitute_assigned hn]
    exact hv.refused_after (Builtin.calm_replaced all pattern replacement p) hm
  · intro self target source text m₀ m₁ hfetch htarget hv
    exact ⟨_, self.getline_assigned hfetch htarget, hv.refused hm⟩

/-- The record `a b c`. -/
def lettered : Machine := (setRecord "a b c" .idle).2

theorem lettered_linked : lettered.holdings.Linked := by
  show lettered.env.value "NF" = _
  decide +kernel

/-- `$1048577 = "x"`, `$1048577++` and `NF += 1048575` leave three fields. -/
theorem oversized_refused_lettered :
    let self := Inner.withFuel 0
    let place : Delayed := .ready (.place (.field 1048577))
    let count : Delayed := .ready (.place (.scalar "NF"))
    (∃ m', self.apply (.binary .assign place (.ofValue ⟨"x"⟩)) lettered = .ok place m' ∧
      m'.holdings = lettered.holdings.refuse 1048577) ∧
    (∃ d m', self.apply (.unary .postIncr place) lettered = .ok d m' ∧
      m'.holdings = lettered.holdings.refuse 1048577) ∧
    (∃ m', self.apply (.binary .addAssign count (.ofValue ⟨"1048575"⟩)) lettered = .ok count m' ∧
      m'.holdings = lettered.holdings.refuse 1048578) ∧
    lettered.holdings.record = ⟨"a b c", ["a", "b", "c"]⟩ := by
  intro self place count
  have hfield {v : Value} : Oversized (.field 1048577) v 1048577 := .field v (by decide)
  have hsum : (Inner.assigned .addAssign (.scalar "NF") ⟨"1048575"⟩ lettered).1 = ⟨"1048578"⟩ := by
    decide +kernel
  have hcount : Oversized (.scalar "NF") ⟨"1048578"⟩ 1048578 := by
    have hinteger : (⟨"1048578"⟩ : Value).toInteger.toNat = 1048578 := by decide +kernel
    have hover : Oversized (.scalar "NF") ⟨"1048578"⟩ (⟨"1048578"⟩ : Value).toInteger.toNat :=
      .count (by rw [hinteger]; decide)
    rwa [hinteger] at hover
  have hplace := oversized_refused lettered_linked (p := .field 1048577) (k := 1048577)
  have hnf := oversized_refused lettered_linked (p := .scalar "NF") (k := 1048578)
  exact ⟨hplace.2.2.1 self .assign _ ⟨"x"⟩ lettered rfl rfl hfield,
    hplace.2.2.2.1 self .postIncr (by decide) hfield,
    hnf.2.2.1 self .addAssign _ ⟨"1048575"⟩ lettered rfl rfl (hsum ▸ hcount), by decide +kernel⟩

end Awk
