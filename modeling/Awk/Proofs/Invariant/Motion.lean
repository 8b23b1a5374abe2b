import Awk.Proofs.Conduct.Statements

/-! How data moves. What is said of the data of a machine throughout a run, and of how it changes,
follows from what single steps do; acts are built of the steps, and runs of acts. -/

namespace Awk

open Machine Run

namespace Machine.Core

variable (c : Core)

def mapEnv (f : Environment → Environment) : Core := { c with env := f c.env }

/-- The data with a record in place, and its number of fields. -/
def putRecord (r : Record) : Core :=
  { c with record := r, env := c.env.setValue "NF" (.ofNat r.fieldCount) }

end Machine.Core

/-- What a program may assign to, and the expressions and blocks that keep to it. -/
structure Permit extends Admission where
  may : Site → Prop
  /-- What may be passed to a function of the program. -/
  passes : Name → List Expr → Prop
  /-- Each record of the main input is put in place. -/
  may_record : may .field
  wellFormed : ∀ {e}, expr e → e.wellFormed false
  expr_may : ∀ {e s}, expr e → e.Assigns s → may s
  expr_passes : ∀ {e name parts}, expr e → .call (.user name) parts ∈ e → passes name parts
  block_may : ∀ {b s site}, block b → s ∈ b.statements → s.Assigns site → may site
  program : Program
  patterns : ∀ {i e}, i ∈ program.items → e ∈ i.pattern.exprs → expr e
  actions : ∀ {i}, i ∈ program.items → block i.action
  body : ∀ {f}, f ∈ program.functions → block f.body

/-- A program whose expressions are well-formed may assign to everything. -/
def Permit.all {p : Program} (hp : p.Everywhere (·.wellFormed false)) : Permit where
  may _ := True
  passes _ _ := True
  may_record := trivial
  toAdmission := .everywhere (·.wellFormed false)
  wellFormed he := he.here
  expr_may _ _ := trivial
  expr_passes _ _ := trivial
  block_may _ _ _ := trivial
  program := p
  patterns hi he := hp.patterns _ hi _ he
  actions hi := (hp.actions _ hi).2
  body hf := (hp.functions _ hf).2

/-- A program whose expressions are well-formed may assign to what it assigns to by its text. -/
def Permit.within {p : Program} (hp : p.Everywhere (·.wellFormed false)) (may : Site → Prop)
    (may_record : may .field) (hmay : ∀ s, p.Assigns s → may s) : Permit where
  may := may
  passes _ _ := True
  may_record := may_record
  expr e := e.Everywhere (·.wellFormed false) ∧ ∀ s, e.AssignsWithin s → may s
  block b := b.Everywhere (·.wellFormed false) ∧ ∀ s, b.Assigns s → may s
  wellFormed he := he.1.here
  expr_part he hx hp := ⟨he.1.part hx hp, fun s hs => he.2 s (.part hx hp hs)⟩
  expr_may he hs := he.2 _ (.here hs)
  expr_passes _ _ := trivial
  block_expr hb hs he := ⟨hb.1.expr hs he, fun s h => hb.2 s (.expr hs he h)⟩
  block_block hb hs hc := ⟨(hb.1.block hs hc).2, fun s h => hb.2 s (.block hs hc h)⟩
  block_may hb hs h := hb.2 _ (.statement hs h)
  program := p
  patterns hi he := ⟨hp.patterns _ hi _ he, fun s h => hmay s (.pattern hi he h)⟩
  actions hi := ⟨(hp.actions _ hi).2, fun s h => hmay s (.action hi h)⟩
  body hf := ⟨(hp.functions _ hf).2, fun s h => hmay s (.body hf h)⟩

/-- What is said of the data of a machine, `holds`, and of how it changes, `moves`, with what the
single steps of a program do. -/
structure Motion extends Permit where
  holds : Core → Prop
  moves : Core → Core → Prop
  refl : ∀ c, moves c c
  trans : ∀ {c c' c''}, moves c c' → moves c' c'' → moves c c''
  keeps : ∀ {c c'}, holds c → moves c c' → holds c'
  runs : ∀ {c}, holds c → c.program = program
  scalar : ∀ {c name} v, holds c → name ≠ "NF" → may (.scalar name) →
    moves c (c.mapEnv (·.setValue name v))
  /-- An assignment to `NF` ends with a record in place. -/
  count : ∀ {c} v r, holds c → may (.scalar "NF") →
    moves c ((c.mapEnv (·.setValue "NF" v)).putRecord r)
  record : ∀ {c} r, holds c → may .field → moves c (c.putRecord r)
  change : ∀ {c name} f, holds c → may (.array name) → moves c (c.mapEnv (·.modifyElements name f))
  element : ∀ {c} name key, holds c → moves c (c.mapEnv fun env => (env.element name key).2)
  returned : ∀ {c} v, holds c → moves c (c.mapEnv (·.setReturned v))

theorem Machine.syncFieldCount_core (m : Machine) :
    (syncFieldCount m).2.core = m.core.putRecord m.core.record := rfl

/-- An assignment to `NF` ends with a record in place. -/
theorem Machine.assign_count_core (v : Value) (m : Machine) :
    ∃ r, (assign (.scalar "NF") v m).2.core =
      (m.core.mapEnv (·.setValue "NF" v)).putRecord r := by
  have hassign : (assign (.scalar "NF") v m).2 =
      (resizeRecord v.toInteger (setScalar "NF" v m).2).2 := rfl
  have hset : (setScalar "NF" v m).2.core = m.core.mapEnv (·.setValue "NF" v) := rfl
  rw [hassign, ← hset]
  generalize (setScalar "NF" v m).2 = m
  by_cases hcount : v.toInteger.toNat > maxFields
  · have hresize : resizeRecord v.toInteger = (do
        report (.fieldIndexTooLarge v.toInteger.toNat)
        syncFieldCount) := if_pos hcount
    refine ⟨m.record, ?_⟩
    rw [hresize]
    show (syncFieldCount (report _ m).2).2.core = _
    rw [syncFieldCount_core, report_core]
    rfl
  · have hresize : resizeRecord v.toInteger = (do
        let ofs ← Machine.scalar "OFS"
        modify fun m =>
          { m with record := m.record.setCount v.toInteger.toNat ofs.text }
        syncFieldCount) := if_neg hcount
    rw [hresize]
    exact ⟨_, rfl⟩

namespace Motion

variable (M : Motion) {α β : Type}

/-- `a` moves the data as it may. -/
def Allows (a : Act α) : Prop := ∀ m, M.holds m.core → M.moves m.core (a m).2.core

def acts : Act.Family where
  has := M.Allows
  may := M.may
  pure _ _ _ := M.refl _
  bind ha hf m hm := M.trans (ha m hm) (hf _ _ (M.keeps hm (ha m hm)))
  get_bind _ h m hm := h m m hm
  inert {f} hf m _ := by
    have hsame : ((modify f : Act Unit) m).2.core = m.core := hf.core m
    rw [hsame]
    exact M.refl _
  returned v m hm := M.returned v hm
  element name key m hm := M.element name key hm
  scalar v hname hmay m hm := M.scalar v hm hname hmay
  count v hmay m hm := by
    obtain ⟨r, hr⟩ := assign_count_core v m
    rw [hr]
    exact M.count v r hm hmay
  record r hmay m hm := M.record r hm hmay
  change f hmay m hm := M.change f hm hmay

/-- From `m` two runs do the same: they end with data that has moved as it may, or out of fuel
with data that is as it says. -/
structure SameAt (x y : Run α) (Q : α → Machine → Prop) (m : Machine) : Prop where
  same : x m = y m
  ok : ∀ a m', x m = .ok a m' → M.moves m.core m'.core ∧ Q a m'
  error : ∀ e m', x m = .error e m' → M.holds m'.core

namespace SameAt

variable {M} {Q Q' : α → Machine → Prop} {R : β → Machine → Prop} {m : Machine}

theorem pure {a : α} (ha : Q a m) : M.SameAt (Pure.pure a) (Pure.pure a) Q m := by
  refine ⟨rfl, fun b m' hb => ?_, fun _ _ h => nomatch h⟩
  cases hb
  exact ⟨M.refl _, ha⟩

/-- What follows a step starts from data that has moved from where the step started. -/
theorem bind {x y : Run α} {f g : α → Run β} (hm : M.holds m.core) (hxy : M.SameAt x y Q m)
    (hfg : ∀ a m', Q a m' → M.moves m.core m'.core → M.holds m'.core →
      M.SameAt (f a) (g a) R m') : M.SameAt (x >>= f) (y >>= g) R m := by
  cases hx : x m with
  | ok a m' =>
    obtain ⟨hmoves, ha⟩ := hxy.ok a m' hx
    have hrest := hfg a m' ha hmoves (M.keeps hm hmoves)
    have hf : (x >>= f) m = f a m' := bind_ok hx
    refine ⟨?_, fun b m'' hb => ?_, fun e m'' he => hrest.error e m'' (hf ▸ he)⟩
    · rw [hf, bind_ok (hxy.same ▸ hx)]
      exact hrest.same
    · obtain ⟨hlater, hb⟩ := hrest.ok b m'' (hf ▸ hb)
      exact ⟨M.trans hmoves hlater, hb⟩
  | error e m' =>
    have hf : (x >>= f) m = .error e m' := bind_error hx
    refine ⟨?_, fun b m'' hb => ?_, fun e' m'' he => ?_⟩
    · rw [hf, bind_error (hxy.same ▸ hx)]
    · rw [hf] at hb
      cases hb
    · rw [hf] at he
      cases he
      exact hxy.error e m' hx

theorem mono {x y : Run α} (h : M.SameAt x y Q m)
    (hQ : ∀ a m', M.moves m.core m'.core → Q a m' → Q' a m') : M.SameAt x y Q' m :=
  ⟨h.same, fun a m' hx => ⟨(h.ok a m' hx).1, hQ a m' (h.ok a m' hx).1 (h.ok a m' hx).2⟩, h.error⟩

/-- However a run ends, its data is then as it should be. -/
theorem holds {x y : Run α} (h : M.SameAt x y Q m) (hm : M.holds m.core) :
    M.holds (Outcome.machine (x m)).core := by
  cases hx : x m with
  | ok a m' => exact M.keeps hm (h.ok a m' hx).1
  | error e m' => exact h.error e m' hx

theorem congr {x y x' y' : Run α} (hx : x m = x' m) (hy : y m = y' m) (h : M.SameAt x' y' Q m) :
    M.SameAt x y Q m :=
  ⟨hx.trans (h.same.trans hy.symm), fun a m' hok => h.ok a m' (hx ▸ hok),
    fun e m' he => h.error e m' (hx ▸ he)⟩

theorem outOfFuel (hm : M.holds m.core) :
    M.SameAt (Run.outOfFuel : Run α) Run.outOfFuel Q m := by
  refine ⟨rfl, (fun _ _ h => nomatch h), fun e m' he => ?_⟩
  cases he
  exact hm

theorem act {a : Act α} (ha : M.moves m.core (a m).2.core) (hq : Q (a m).1 (a m).2) :
    M.SameAt (liftM a) (liftM a) Q m := by
  refine ⟨rfl, fun b m' hb => ?_, fun _ _ h => nomatch h⟩
  cases hb
  exact ⟨ha, hq⟩

end SameAt

/-- Two runs are the same wherever the law holds. -/
def Same (x y : Run α) (Q : α → Prop) : Prop :=
  ∀ m, M.holds m.core → M.SameAt x y (fun a _ => Q a) m

/-- Where a run is the same, with the acts that move the data as it may. -/
def calculus : Act.Calculus where
  holds := M.Same
  pure ha _ _ := .pure ha
  bind hx hf m hm := (hx m hm).bind hm fun a m' ha _ hm' => hf a ha m' hm'
  acts := M.acts
  lift ha hq m hm := .act (ha m hm) (hq m)
  get_bind _ _ h m hm := ⟨(h m m hm).same, (h m m hm).ok, (h m m hm).error⟩
  outOfFuel _ hm := .outOfFuel hm

/-- Where everything may be assigned to and the position in the main input does not matter, any
record may be asked for. -/
theorem nextRecord (hmay : ∀ s, M.may s)
    (hinput : ∀ {c} (f : MainInput → MainInput), M.holds c → M.moves c { c with input := f c.input }) (fuel n : Nat) :
    M.Same (MainInput.nextRecord fuel n) (MainInput.nextRecord fuel n) fun _ => True :=
  Act.Calculus.nextRecord (L := M.calculus) hmay (fun f _ hm => hinput f hm) fuel n

end Motion

end Awk
