import Awk.Grammar.Expr
import Awk.Proofs.Grammar.Ensures

/-! More fuel for the parser. Whatever an expression's parser comes to, a result or a syntax error,
it comes to with more fuel. -/

namespace Awk.Parser

variable {α β : Type}

/-- Whatever `p` comes to, `q` comes to, too. -/
def Below (p q : Parser α) : Prop := ∀ c r, p c = some r → q c = some r

namespace Below

theorem refl (p : Parser α) : p.Below p := fun _ _ h => h

theorem outOfFuel (p : Parser α) : (Parser.outOfFuel : Parser α).Below p := fun _ _ h => nomatch h

theorem bind {p q : Parser α} {f g : α → Parser β} (hpq : p.Below q)
    (hfg : ∀ a, (f a).Below (g a)) : (p >>= f).Below (q >>= g) := by
  intro c r h
  rw [bind_apply] at h ⊢
  cases hp : p c with
  | none =>
    rw [hp] at h
    cases h
  | some s =>
    rw [hp] at h
    rw [hpq c s hp]
    obtain ⟨_ | a, c'⟩ := s
    · exact h
    · exact hfg a c' r h

/-- A step that is the same on both sides. -/
theorem step {p : Parser α} {f g : α → Parser β} (hfg : ∀ a, (f a).Below (g a)) :
    (p >>= f).Below (p >>= g) := (refl p).bind hfg

/-- What follows is the same on both sides. -/
theorem andThen {p q : Parser α} (hpq : p.Below q) (f : α → Parser β) :
    (p >>= f).Below (q >>= f) := hpq.bind fun a => refl (f a)

theorem ite {b : Prop} [Decidable b] {p q p' q' : Parser α} (hp : p.Below p') (hq : q.Below q') :
    (if b then p else q).Below (if b then p' else q') := by
  split
  · exact hp
  · exact hq

theorem withRedirects {p q : Parser α} (redirects : Bool) (h : p.Below q) :
    (withRedirects redirects p).Below (withRedirects redirects q) := by
  intro c r hr
  unfold Parser.withRedirects at hr ⊢
  cases hp : p { c with redirects } with
  | none =>
    rw [hp] at hr
    cases hr
  | some s =>
    rw [hp] at hr
    rw [h _ _ hp]
    exact hr

end Below

/-- The functions of the grammar with fuel `n` come to nothing that they do not come to with `m`. -/
structure Grows (n m : Nat) : Prop where
  expr : (expr n).Below (expr m)
  exprList : ∀ close, (exprList n close).Below (exprList m close)
  exprListRest : (exprListRest n).Below (exprListRest m)
  exprInto : ∀ e, (exprInto n e).Below (exprInto m e)
  conditionalInto : ∀ e, (conditionalInto n e).Below (conditionalInto m e)
  orInto : ∀ e, (orInto n e).Below (orInto m e)
  orRest : ∀ e, (orRest n e).Below (orRest m e)
  andInto : ∀ e, (andInto n e).Below (andInto m e)
  andRest : ∀ e, (andRest n e).Below (andRest m e)
  memInto : ∀ e, (memInto n e).Below (memInto m e)
  memRest : ∀ e, (memRest n e).Below (memRest m e)
  matchInto : ∀ e, (matchInto n e).Below (matchInto m e)
  matchRest : ∀ e, (matchRest n e).Below (matchRest m e)
  comparisonInto : ∀ e, (comparisonInto n e).Below (comparisonInto m e)
  comparisonRest : ∀ e, (comparisonRest n e).Below (comparisonRest m e)
  concatInto : ∀ e, (concatInto n e).Below (concatInto m e)
  concatRest : ∀ start e, (concatRest n start e).Below (concatRest m start e)
  additiveInto : ∀ e, (additiveInto n e).Below (additiveInto m e)
  additiveRest : ∀ e, (additiveRest n e).Below (additiveRest m e)
  multiplicativeInto : ∀ e, (multiplicativeInto n e).Below (multiplicativeInto m e)
  multiplicativeRest : ∀ e, (multiplicativeRest n e).Below (multiplicativeRest m e)
  unaryInto : ∀ e, (unaryInto n e).Below (unaryInto m e)
  powerInto : ∀ e, (powerInto n e).Below (powerInto m e)
  stepInto : ∀ e, (stepInto n e).Below (stepInto m e)
  operandInto : ∀ e, (operandInto n e).Below (operandInto m e)
  stepBeforeInto : ∀ o place e, (stepBeforeInto n o place e).Below (stepBeforeInto m o place e)
  arguments : (arguments n).Below (arguments m)
  subscript : (subscript n).Below (subscript m)
  target : (target? n).Below (target? m)

namespace Grows

theorem zero (m : Nat) : Grows 0 m := by
  constructor
  all_goals intros
  all_goals exact .outOfFuel _

variable {n m : Nat} (ih : Grows n m)

include ih

omit ih in
/-- A level whose operators group to the left, over a tighter level. -/
theorem rest_succ (look : Parser (Option Operator)) {next rest : Nat → Expr → Parser Expr}
    (hnext : ∀ e, (next n e).Below (next m e)) (hrest : ∀ e, (rest n e).Below (rest m e))
    (e : Expr) :
    (do
      match ← look with
      | some o =>
        advance
        rest n (← next n (e.push (.op o)))
      | none => return e : Parser Expr).Below (do
      match ← look with
      | some o =>
        advance
        rest m (← next m (e.push (.op o)))
      | none => return e) := by
  refine .step fun o => ?_
  cases o with
  | none => exact .refl _
  | some o => exact .step fun _ => (hnext _).bind hrest

theorem exprList_succ (close : Symbol) :
    (Parser.exprList (n + 1) close).Below (Parser.exprList (m + 1) close) :=
  .step fun _ => .step fun _ => .ite (.refl _) ih.exprListRest

theorem exprListRest_succ : (Parser.exprListRest (n + 1)).Below (Parser.exprListRest (m + 1)) :=
  ih.expr.bind fun _ => .step fun _ =>
    .ite (.step fun _ => ih.exprListRest.andThen _) (.refl _)

theorem exprInto_succ (e : Expr) :
    (Parser.exprInto (n + 1) e).Below (Parser.exprInto (m + 1) e) := by
  refine (ih.conditionalInto e).bind fun l => .step fun t => ?_
  cases assignment? t with
  | none => exact .refl _
  | some o => exact .step fun _ => .step fun _ => ih.exprInto _

theorem conditionalInto_succ (e : Expr) :
    (Parser.conditionalInto (n + 1) e).Below (Parser.conditionalInto (m + 1) e) :=
  (ih.orInto e).bind fun _ => .step fun _ =>
    .ite (.step fun _ => ih.expr.bind fun _ => .step fun _ => .step fun _ => .step fun _ =>
      (ih.conditionalInto []).andThen _) (.refl _)

theorem orRest_succ (e : Expr) : (Parser.orRest (n + 1) e).Below (Parser.orRest (m + 1) e) :=
  .step fun _ => .ite (.step fun _ => (ih.andInto []).bind fun _ => ih.orRest _) (.refl _)

theorem andRest_succ (e : Expr) : (Parser.andRest (n + 1) e).Below (Parser.andRest (m + 1) e) :=
  .step fun _ => .ite (.step fun _ => (ih.memInto []).bind fun _ => ih.andRest _) (.refl _)

theorem memRest_succ (e : Expr) : (Parser.memRest (n + 1) e).Below (Parser.memRest (m + 1) e) := by
  refine .step fun _ => .ite (.step fun t => ?_) (.refl _)
  split
  · exact .step fun _ => ih.memRest _
  · exact .refl _

theorem concatRest_succ (start : Nat) (e : Expr) :
    (Parser.concatRest (n + 1) start e).Below (Parser.concatRest (m + 1) start e) := by
  refine .step fun _ => .step fun _ => .ite ?_ (.step fun _ => .ite ?_ (.refl _))
  · exact .step fun _ => .step fun _ => ih.target.bind fun _ => ih.concatRest start _
  · exact (ih.additiveInto e).bind fun _ => ih.concatRest start _

theorem unaryInto_succ (e : Expr) :
    (Parser.unaryInto (n + 1) e).Below (Parser.unaryInto (m + 1) e) := by
  refine .step fun t => ?_
  cases sign? t with
  | none => exact ih.powerInto e
  | some o => exact .step fun _ => ih.unaryInto _

theorem powerInto_succ (e : Expr) :
    (Parser.powerInto (n + 1) e).Below (Parser.powerInto (m + 1) e) :=
  (ih.stepInto e).bind fun _ => .step fun _ => .ite (ih.unaryInto _) (.refl _)

theorem operandInto_succ (e : Expr) :
    (Parser.operandInto (n + 1) e).Below (Parser.operandInto (m + 1) e) := by
  refine .step fun place => .step fun t => ?_
  split
  · refine .step fun _ => .step fun t => ?_
    split
    · exact .step fun _ => (ih.operandInto _).andThen _
    · exact (ih.operandInto _).andThen _
  · exact ih.stepBeforeInto _ _ _
  · exact ih.stepBeforeInto _ _ _
  · exact .refl _
  · exact .refl _
  · exact .refl _
  · exact .step fun _ => ((ih.exprList .rparen).withRedirects false).andThen _
  · exact .step fun _ => ih.arguments.andThen _
  · rename_i name
    refine .step fun _ => ?_
    cases Builtin.ofName? name with
    | none => exact .step fun _ => .ite (ih.subscript.andThen _) (.refl _)
    | some b => exact .step fun _ => .ite (ih.arguments.andThen _) (.refl _)
  · exact .step fun _ => ih.target.bind fun _ => .step fun _ =>
      .ite ((ih.operandInto []).andThen _) (.refl _)
  · exact (ih.unaryInto e).andThen _
  · exact (ih.unaryInto e).andThen _
  · exact (ih.unaryInto e).andThen _
  · exact .refl _

theorem arguments_succ : (Parser.arguments (n + 1)).Below (Parser.arguments (m + 1)) :=
  .step fun _ => ((ih.exprList .rparen).withRedirects false).andThen _

theorem subscript_succ : (Parser.subscript (n + 1)).Below (Parser.subscript (m + 1)) :=
  ((ih.exprList .rbracket).withRedirects false).andThen _

theorem target_succ : (target? (n + 1)).Below (target? (m + 1)) := by
  refine .step fun t => ?_
  split
  · exact .step fun _ => (ih.operandInto []).andThen _
  · exact .ite (.refl _) (.step fun _ => .step fun _ => .ite (ih.subscript.andThen _) (.refl _))
  · exact .refl _

theorem succ : Grows (n + 1) (m + 1) where
  expr := ih.exprInto []
  exprList := ih.exprList_succ
  exprListRest := ih.exprListRest_succ
  exprInto := ih.exprInto_succ
  conditionalInto := ih.conditionalInto_succ
  orInto e := (ih.andInto e).bind ih.orRest
  orRest := ih.orRest_succ
  andInto e := (ih.memInto e).bind ih.andRest
  andRest := ih.andRest_succ
  memInto e := (ih.matchInto e).bind ih.memRest
  memRest := ih.memRest_succ
  matchInto e := (ih.comparisonInto e).bind ih.matchRest
  matchRest :=
    rest_succ (do return matching? (← token)) ih.comparisonInto ih.matchRest
  comparisonInto e := (ih.concatInto e).bind ih.comparisonRest
  comparisonRest :=
    rest_succ (do return comparison? (← get).redirects (← token)) ih.concatInto
      ih.comparisonRest
  concatInto e := (ih.additiveInto e).bind (ih.concatRest e.length)
  concatRest := ih.concatRest_succ
  additiveInto e := (ih.multiplicativeInto e).bind ih.additiveRest
  additiveRest :=
    rest_succ (do return additive? (← token)) ih.multiplicativeInto ih.additiveRest
  multiplicativeInto e := (ih.unaryInto e).bind ih.multiplicativeRest
  multiplicativeRest :=
    rest_succ (do return multiplicative? (← token)) ih.unaryInto ih.multiplicativeRest
  unaryInto := ih.unaryInto_succ
  powerInto := ih.powerInto_succ
  stepInto e := (ih.operandInto e).andThen _
  operandInto := ih.operandInto_succ
  stepBeforeInto _ _ _ := .step fun _ => (ih.operandInto _).andThen _
  arguments := ih.arguments_succ
  subscript := ih.subscript_succ
  target := ih.target_succ

end Grows

/-- More fuel changes nothing that the parser comes to with less. -/
theorem grows {n m : Nat} (h : n ≤ m) : Grows n m := by
  induction n generalizing m with
  | zero => exact .zero m
  | succ n ih =>
    obtain ⟨m, rfl⟩ := Nat.exists_eq_add_of_lt h
    exact (ih (Nat.le_add_right n m)).succ

end Awk.Parser
