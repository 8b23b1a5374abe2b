import Mathlib
import Awk.Proofs.Grammar.Programs
import Awk.Proofs.Invariant.Runs
import Awk.Proofs.Scope.Calls
import Awk.Proofs.Scope.Start
import Awk.Shell.Run

/-! `NF` and the record. Where no function has a parameter of that name and the program starts with
the `NF` of an empty record, the variable is the number of fields of the record throughout. -/

namespace Awk

open Machine

namespace Machine.Core

/-- `NF` is the number of fields of the record, and no active call has it as a parameter. -/
structure Linked (c : Core) : Prop where
  count : c.env.value "NF" = .ofNat c.record.fieldCount
  unbound : c.env.Unbound "NF"

namespace Linked

variable {c : Core} (h : c.Linked)

theorem putRecord (hunbound : c.env.Unbound "NF") (r : Record) : (c.putRecord r).Linked where
  count := Environment.value_setValue_self _ _ _
  unbound := (Environment.Keeps.setValue _ _ _).unbound hunbound

include h

/-- A change of variables that leaves `NF` as it is. -/
theorem mapEnv {f : Environment → Environment} (hvalue : (f c.env).value "NF" = c.env.value "NF")
    (hkeeps : Environment.Keeps c.env (f c.env)) : (c.mapEnv f).Linked :=
  ⟨hvalue.trans h.count, hkeeps.unbound h.unbound⟩

end Linked

end Machine.Core

/-- Machines in which `NF` is the number of fields of the record. -/
def Guard.linked : Guard :=
  let linked (m : Machine) : Bool := decide (m.env.value "NF" = .ofNat m.record.fieldCount)
  ⟨linked, linked, linked⟩

open Environment in
/-- Every step of a program without a parameter `NF` leaves `NF` linked to the record. -/
def Law.linked {p : Program} (hp : p.Everywhere (·.wellFormed false))
    (hnf : ∀ f ∈ p.functions, "NF" ∉ f.parameters) : Law :=
  let motion : Motion := {
    toPermit := .all hp
    holds c := c.program = p ∧ c.Linked
    moves c c' := c.program = p ∧ c.Linked → c'.program = p ∧ c'.Linked
    refl _ h := h
    trans h h' hc := h' (h hc)
    keeps hc h := h hc
    runs hc := hc.1
    scalar v _ hname _ hc :=
      ⟨hc.1, hc.2.mapEnv (value_setValue_ne _ _ (Ne.symm hname)) (.setValue _ _ _)⟩
    count v r _ _ hc := ⟨hc.1, .putRecord ((Keeps.setValue _ _ v).unbound hc.2.unbound) r⟩
    record r _ _ hc := ⟨hc.1, .putRecord hc.2.unbound r⟩
    change f _ _ hc := ⟨hc.1, hc.2.mapEnv (value_modifyElements _ _ _ _) (.modifyElements _ _ _)⟩
    element name key _ hc := ⟨hc.1, hc.2.mapEnv (value_element _ _ _ _) (.element _ _ _)⟩
    returned v _ hc := ⟨hc.1, hc.2.mapEnv (value_setReturned _ _ _) (.setReturned _ _)⟩ }
  { toMotion := motion
    guard := .linked
    other := .free
    statement_eq := fun hm => decide_eq_true hm.2.count
    term_eq := fun hm => decide_eq_true hm.2.count
    request_eq := fun hm => decide_eq_true hm.2.count
    request := fun {m} fuel n hm _ =>
      have h := motion.nextRecord (fun _ => trivial) (fun f _ hc => ⟨hc.1, hc.2.count, hc.2.unbound⟩)
        fuel n m hm
      ⟨fun r m' hok => (h.ok r m' hok).1, h.error⟩
    argument := fun _ _ _ => True
    argument_moves := fun _ _ => trivial
    argument_value := fun _ _ => trivial
    obtain_ := fun name _ =>
      ⟨fun hc => ⟨hc.1, hc.2.mapEnv (value_obtain _ _ _) (.obtain_ _ _)⟩, trivial⟩
    call := fun {c f es passed} hc hf _ _ _ => by
      have hx := Function.bindings_ne (hnf f hf) passed
      refine ⟨⟨hc.1, (value_push hx).trans hc.2.count, hc.2.unbound.push hx⟩, fun hbody _ => ?_⟩
      obtain ⟨hp, hlinked⟩ := hbody ⟨hc.1, (value_push hx).trans hc.2.count, hc.2.unbound.push hx⟩
      exact ⟨hp, hlinked.unbound.value_pop.trans hlinked.count, hlinked.unbound.pop⟩ }

/-- A run of a program without a parameter `NF`, from where `NF` is the number of fields of the
record, comes to no statement, term or record where it is not; and it ends with one where it is. -/
theorem fieldCount_linked {source : String} {p : Program} (h : parse source = .ok p)
    (hnf : ∀ f ∈ p.functions, "NF" ∉ f.parameters) {s : Settings}
    (hs : ∀ a ∈ s.assignments, a.1 ≠ "NF") (streams : Host.Streams) (n : Nat) :
    let start := Machine.start p s streams
    let run := (Inner.withFuel n).runProgram start
    Guard.linked.runProgram (Guard.linked.withFuel n) start = run ∧
      (Run.Outcome.machine run).env.value "NF" =
        .ofNat (Run.Outcome.machine run).record.fieldCount := by
  intro start run
  let L := Law.linked (parse_wellFormed h) hnf
  have hlinked : start.core.Linked := by
    refine ⟨?_, ?_⟩
    · show (startEnvironment s).value "NF" = _
      rw [value_startEnvironment (by decide) (by decide) hs]
      exact (by decide : standardEnvironment.value "NF" = .ofNat 0)
    · show ∀ b ∈ (startEnvironment s).blocks, _
      rw [startEnvironment_blocks]
      nofun
  have hstart : L.holds start.core := ⟨rfl, hlinked⟩
  have hsame := (L.parts n).runProgram start hstart
  have hfree : L.other.runProgram (L.other.withFuel n) start = run := by
    show Guard.free.runProgram (Guard.free.withFuel n) start = run
    rw [Guard.runProgram_free, Guard.withFuel_free]
  have hend := hsame.holds hstart
  rw [hsame.same, hfree] at hend
  exact ⟨hsame.same.trans hfree, hend.2.count⟩

/-- `function f(x) { $3 = x } BEGIN { f(1) }`. -/
def filling : Program :=
  { items := [⟨.begin_, .mk .program [.expr [.call (.user "f") [[.value ⟨"1"⟩]]]]⟩]
    functions := [⟨"f", ["x"], .mk .routine
      [.expr [.op .field, .value ⟨"3"⟩, .op .assign, .var "x"]], ⟨0, 30⟩⟩]
    ranges := 0 }

theorem parse_filling : parse "function f(x) { $3 = x } BEGIN { f(1) }" = .ok filling := by
  cbv

def fillingStart : Machine := .start filling {} (.start .empty [] .captured)

def fillingEnd : Machine := Run.Outcome.machine ((Inner.withFuel 7).runProgram fillingStart)

theorem fillingEnd_fieldCount : fillingEnd.record.fieldCount = 3 := by
  cbv

/-- The field that the function assigns makes the record of `BEGIN` have three. -/
theorem fieldCount_filling :
    Guard.linked.runProgram (Guard.linked.withFuel 7) fillingStart =
      (Inner.withFuel 7).runProgram fillingStart ∧ fillingEnd.env.value "NF" = .ofNat 3 := by
  have hnf : ∀ f ∈ filling.functions, "NF" ∉ f.parameters := by decide
  obtain ⟨hsame, hcount⟩ := fieldCount_linked parse_filling hnf (s := {}) nofun
    (.start .empty [] .captured) 7
  rw [← fillingEnd_fieldCount]
  exact ⟨hsame, hcount⟩

end Awk
