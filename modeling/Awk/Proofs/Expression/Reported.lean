import Awk.Proofs.Conduct.Evaluation
import Awk.Proofs.Expression.Accepting

/-! The reports of the evaluator about an expression that is built term by term. Its loops end by
themselves, it reports the expression just where that is malformed, and it never comes to the cases
that are left over for operators without enough operands, or with too many. -/

namespace Awk

open Machine Run

namespace Inner

variable {self : Inner} {m : Machine}

/-! The cases that are left over. -/

/-- What is done with an operator that no case is for. -/
def leftOver : Run Delayed := do
  report .malformedExpression
  return .ofValue .empty

/-- Applies an operator as the evaluator does, but does `other` where no case is for it. -/
def applyOr (self : Inner) (other : Run Delayed) : Reduction Delayed → Run Delayed
  | .unary o operand => do
    match o with
    | .plus => return .ofValue (Arithmetic.numeric (← self.force operand))
    | .neg => return .ofValue (Arithmetic.negate (← self.force operand))
    | .not => return .ofValue (.ofBool (!(← self.force operand).toBool))
    | .field =>
      let v ← self.force operand
      return .ready (.place (.field (← fieldIndex v)))
    | .preIncr | .preDecr | .postIncr | .postDecr => applyStep o operand
    | _ => other
  | .binary o left right => do
    if o.isAssignment then self.applyAssignment o left right
    else match o with
      | .question => return if (← self.force left).toBool then right else .ready .null
      | .colon => return if left.isNull then right else left
      | .or =>
        if (← self.force left).toBool then return .ofValue (.ofBool true)
        else return .ofValue (.ofBool (← self.force right).toBool)
      | .and =>
        if (← self.force left).toBool then return .ofValue (.ofBool (← self.force right).toBool)
        else return .ofValue (.ofBool false)
      | .mem => self.applyMem left right
      | .matches | .notMatches =>
        let text ← self.force left
        let pattern ← self.pattern right
        return .ofValue (.ofBool ((← isMatch pattern text.text) = (o = .matches)))
      | .less | .lessEq | .equal | .notEqual | .greaterEq | .greater =>
        let a ← self.force left
        let b ← self.force right
        return .ofValue (.ofBool (Arithmetic.relation o a b))
      | .concat =>
        let a ← self.force left
        let b ← self.force right
        return .ofValue ⟨a.text ++ b.text⟩
      | .add | .sub | .mul | .div | .mod | .pow =>
        let a ← self.force left
        let b ← self.force right
        return .ofValue (← arithmetic o a b)
      | _ => other

theorem apply_eq_applyOr (self : Inner) : self.apply = self.applyOr leftOver := by
  funext r
  cases r with
  | unary o d => cases o <;> rfl
  | binary o l r => cases o <;> rfl

/-- No case is for an operator just where it does not fit its operands. -/
theorem applyOr_eq (self : Inner) (other : Run Delayed) (r : Reduction Delayed) :
    self.applyOr other r = if r.fits then self.apply r else other := by
  cases r with
  | unary o d => cases o <;> rfl
  | binary o l r => cases o <;> rfl

/-! The loops. -/

/-- What applying operators comes to as long as the innermost frame is as `p` says, however many
rounds that takes. -/
inductive Loops (self : Inner) (p : Frame Delayed → Bool) : Machine → Outcome Unit → Prop
  | stop {m : Machine} : (frameHas p m).1 = false → Loops self p m (.ok () m)
  | again {m m' : Machine} {r : Outcome Unit} : (frameHas p m).1 = true →
      self.reduce m = .ok () m' → Loops self p m' r → Loops self p m r
  | fail {m m' : Machine} {c : OutOfFuel} : (frameHas p m).1 = true →
      self.reduce m = .error c m' → Loops self p m (.error c m')

theorem pending_reduce {A : Algebra Run Delayed} {f g : Frame Delayed} {m' : Machine}
    (h : A.reduce f m = .ok g m') (hp : f.pending ≠ []) :
    g.pending.length < f.pending.length := by
  have hpos := List.length_pos_iff.mpr hp
  unfold Algebra.reduce at h
  cases hr : f.takeReduction? with
  | some taken =>
    obtain ⟨r, f'⟩ := taken
    obtain ⟨slots, rfl, -⟩ := Frame.takeReduction_cases hr
    rw [hr] at h
    obtain ⟨i, m₁, -, hg⟩ := bind_eq_ok h
    cases hg
    have hpending : (Frame.complete { f with slots } i).pending = f.pending.tail := rfl
    rw [hpending, List.length_tail]
    omega
  | none =>
    rw [hr] at h
    obtain ⟨_, m₁, -, hrest⟩ := bind_eq_ok h
    obtain ⟨i, m₂, -, hg⟩ := bind_eq_ok hrest
    cases hg
    exact hpos

/-- Every round takes one operator from those that are pending. -/
theorem pendingCount_reduce (h : self.algebra.Obeys (.keeps fun _ => True)) {m' : Machine}
    (hreduce : self.reduce m = .ok () m') (hp : (pendingCount m).1 ≠ 0) :
    (pendingCount m').1 < (pendingCount m).1 := by
  match hframes : m.frames with
  | [] =>
    refine absurd ?_ hp
    show (m.frames.head?.map _).getD 0 = 0
    rw [hframes]
    rfl
  | f :: rest =>
    have hm : m.withFrames (f :: rest) = m := by rw [← hframes]; rfl
    have hcount : (pendingCount m).1 = f.pending.length := by
      show (m.frames.head?.map _).getD 0 = _
      rw [hframes]
      rfl
    rw [hcount] at hp ⊢
    have hover := onTop_reduce h m f rest
    rw [hm, hreduce] at hover
    generalize hr : self.algebra.reduce f m = r at hover
    cases hover with
    | ok hg =>
      cases hg
      exact pending_reduce hr fun hnil => hp (by rw [hnil]; rfl)

/-- A loop that goes on only while an operator is pending ends within as many rounds as operators
are pending. -/
theorem loops_reduceWhile (h : self.algebra.Obeys (.keeps fun _ => True))
    {p : Frame Delayed → Bool} (hp : ∀ f, p f → f.pending ≠ []) {n : Nat}
    (hn : (pendingCount m).1 ≤ n) : self.Loops p m (self.reduceWhile p n m) := by
  have hpending {m : Machine} (hm : (frameHas p m).1 = true) : (pendingCount m).1 ≠ 0 := by
    have hany : m.frames.head?.any p = true := hm
    show (m.frames.head?.map _).getD 0 ≠ 0
    cases hhead : m.frames.head? with
    | none =>
      rw [hhead] at hany
      cases hany
    | some f =>
      rw [hhead] at hany
      exact Nat.ne_of_gt (List.length_pos_iff.mpr (hp f hany))
  induction n generalizing m with
  | zero =>
    refine .stop (Bool.eq_false_iff.mpr fun hm => hpending hm (Nat.le_zero.mp hn))
  | succ n ih =>
    have hround : self.reduceWhile p (n + 1) m =
        (if (frameHas p m).1 then do self.reduce; self.reduceWhile p n else return () : Run Unit) m :=
      rfl
    rw [hround]
    cases hm : (frameHas p m).1 with
    | false => exact .stop hm
    | true =>
      cases hreduce : self.reduce m with
      | error c m' =>
        rw [if_pos rfl, bind_error hreduce]
        exact .fail hm hreduce
      | ok _ m' =>
        rw [if_pos rfl, bind_ok hreduce]
        have hless := pendingCount_reduce h hreduce (hpending hm)
        exact .again hm hreduce (ih (Nat.le_of_lt_succ (Nat.lt_of_lt_of_le hless hn)))

theorem unfailing_algebra (self : Inner) : self.algebra.Unfailing where
  blank := fun ⟨_, _, _, h⟩ => nomatch h
  malformed := fun ⟨_, _, _, h⟩ => nomatch h

/-- The evaluation of an expression that is built term by term, with a log of what it does on its
own frame. It reports the expression just where that is neither empty nor well-formed; it runs out
of fuel only where a part or an operator does; it applies only operators that fit their operands, so
that it never does what is left over for the others; and its loops end by themselves. -/
theorem reported_iff_malformed (n : Nat) (ts : List Term) (m : Machine) :
    let self := withFuel n
    let e := Expr.ofTerms ts
    let run := self.algebra.logged.run e (m, [])
    Logged.forget run = self.terms e m ∧
    (∀ d m', self.terms e m = .ok d m' →
      (.malformed ∈ Logged.deeds run ↔ ¬ (e = [] ∨ e.wellFormed false))) ∧
    (∀ c m', self.terms e m = .error c m' → self.algebra.Stalled e (Logged.deeds run)) ∧
    (∀ r, .applied r ∈ Logged.deeds run → r.fits) ∧
    (self.apply = self.applyOr leftOver ∧
      ∀ r other, self.applyOr other r = if r.fits then self.apply r else other) ∧
    ∀ p, p = Frame.hasPending ∨ (∃ o, p = (·.shouldReduce o)) → ∀ m,
      self.Loops p m (self.reduceWhile p (pendingCount m).1 m) := by
  intro self e run
  have hforget : Logged.forget run = self.terms e m := by
    rw [terms_withFuel]
    exact self.algebra.logged_run e m []
  have hdoes := Algebra.does_run (unfailing_algebra self) (Expr.spaced_ofTerms ts)
  refine ⟨hforget, ?_, ?_, ?_, ⟨apply_eq_applyOr self, fun r other => applyOr_eq self other r⟩, ?_⟩
  · intro d m' hok
    rw [hok] at hforget
    cases hrun : run with
    | ok a s =>
      rw [← (hdoes.ok hrun).2, not_not]
      rfl
    | error c s =>
      rw [hrun] at hforget
      cases hforget
  · intro c m' herror
    rw [herror] at hforget
    cases hrun : run with
    | ok a s =>
      rw [hrun] at hforget
      cases hforget
    | error c s => exact (hdoes.error hrun).2
  · cases hrun : run with
    | ok a s => exact (hdoes.ok hrun).1
    | error c s => exact (hdoes.error hrun).1
  · intro p hp m
    refine loops_reduceWhile (keeps_algebra_any (keptBy_any n)) (fun f hf hnil => ?_) (Nat.le_refl _)
    obtain rfl | ⟨o, rfl⟩ := hp
    · rw [Frame.hasPending, hnil] at hf
      cases hf
    · simp [Frame.shouldReduce, hnil] at hf

/-- `x - y` written as `x` and `- y` is well-formed, as a concatenation goes between the two. -/
example : (Expr.ofTerms [.var "x", .op .neg, .var "y"]).wellFormed false = true := by decide

/-- `x + * y` is not. -/
example : (Expr.ofTerms [.var "x", .op .add, .op .mul, .var "y"]).wellFormed false = false := by
  decide

end Inner

end Awk
