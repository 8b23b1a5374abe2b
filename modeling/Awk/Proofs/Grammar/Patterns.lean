import Awk.Proofs.Control.Fuel
import Awk.Proofs.Grammar.Fuel
import Awk.Proofs.Grammar.Layering

/-! Compound patterns and expressions. What the grammar reads as a pattern made of `&&`, `||` and
negated regular expressions, it also reads as one expression, and the two mean the same: the pattern
selects the record where the expression is true, and both leave the same machine. -/

namespace Awk

open Machine Run

theorem Expr.eq_of_regex? {e : Expr} {p : String} (h : e.regex? = some p) : e = [.regex p] := by
  unfold Expr.regex? at h
  split at h
  · cases h
    rfl
  · cases h

namespace Pattern

/-- The pattern and the tree are made of the same parts by `&&` and `||`, none looser than `k`. The
right operand of either operator stands in the tree as an expression of its own. -/
inductive Mirrors : Nat → Pattern → Tree → Prop
  | regex {k : Nat} {p : String} : k ≤ 5 → Mirrors k (.regex p) (.operand (.regex p))
  | negated {k : Nat} {p : String} : k ≤ 5 →
      Mirrors k (.not (.regex p)) (.before .not (.operand (.regex p)))
  | expr {k : Nat} {t : Tree} : k ≤ 5 → t.Placed → t.Tight → Mirrors k (.expr t.written) t
  | and {k : Nat} {l r : Pattern} {s t : Tree} : k ≤ 4 → Mirrors 4 l s → Mirrors 5 r t →
      Mirrors k (.and l r) (.between .and s (.lazily t.written))
  | or {k : Nat} {l r : Pattern} {s t : Tree} : k ≤ 3 → Mirrors 3 l s → Mirrors 4 r t →
      Mirrors k (.or l r) (.between .or s (.lazily t.written))

namespace Mirrors

variable {j k : Nat} {p : Pattern} {t : Tree}

theorem mono (h : p.Mirrors j t) (hkj : k ≤ j) : p.Mirrors k t := by
  cases h with
  | regex hj => exact .regex (Nat.le_trans hkj hj)
  | negated hj => exact .negated (Nat.le_trans hkj hj)
  | expr hj hp ht => exact .expr (Nat.le_trans hkj hj) hp ht
  | and hj hl hr => exact .and (Nat.le_trans hkj hj) hl hr
  | or hj hl hr => exact .or (Nat.le_trans hkj hj) hl hr

theorem layered (h : p.Mirrors k t) : t.Layered k := by
  induction h with
  | regex hk => exact .tight hk (.operand nofun) (.operand _)
  | negated hk =>
    exact .tight hk (.before rfl (.operand nofun)) (.before rfl (.operand _))
  | expr hk hp ht => exact .tight hk hp ht
  | and hk _ _ ihl => exact .and hk ihl (Tree.deferred_lazily _)
  | or hk _ _ ihl => exact .or hk ihl (Tree.deferred_lazily _)

end Mirrors

end Pattern

namespace Parser

/-! A negated regular expression that ends a part of a pattern is an expression of its own. -/

/-- No operator and no operand goes on with this token. -/
structure Stops (t : Token) : Prop where
  stepAfter : stepAfter? t = none
  caret : t ≠ .symbol .caret
  multiplicative : multiplicative? t = none
  additive : additive? t = none
  pipe : t ≠ .symbol .pipe
  operand : startsOperand t = false
  comparison : ∀ redirects, comparison? redirects t = none
  matching : matching? t = none
  mem : t ≠ .keyword .in_

theorem stops_of_endsNegation {t : Token} (h : endsNegation t) : Stops t := by
  unfold endsNegation at h
  split at h
  · exact ⟨rfl, nofun, rfl, rfl, nofun, rfl, fun _ => rfl, rfl, nofun⟩
  · exact ⟨rfl, nofun, rfl, rfl, nofun, rfl, fun _ => rfl, rfl, nofun⟩
  · unfold endsPattern at h
    split at h
    · exact ⟨rfl, nofun, rfl, rfl, nofun, rfl, fun _ => rfl, rfl, nofun⟩
    · exact ⟨rfl, nofun, rfl, rfl, nofun, rfl, fun _ => rfl, rfl, nofun⟩
    · exact ⟨rfl, nofun, rfl, rfl, nofun, rfl, fun _ => rfl, rfl, nofun⟩
    · exact ⟨rfl, nofun, rfl, rfl, nofun, rfl, fun _ => rfl, rfl, nofun⟩
    · exact ⟨rfl, nofun, rfl, rfl, nofun, rfl, fun _ => rfl, rfl, nofun⟩
    · cases h

/-- Neither a conditional nor an assignment goes on where a pattern ends. -/
theorem not_goesOn_of_endsPattern {t : Token} (h : endsPattern t) :
    t ≠ .symbol .question ∧ assignment? t = none := by
  unfold endsPattern at h
  split at h
  · exact ⟨nofun, rfl⟩
  · exact ⟨nofun, rfl⟩
  · exact ⟨nofun, rfl⟩
  · exact ⟨nofun, rfl⟩
  · exact ⟨nofun, rfl⟩
  · cases h

/-- A level that does not find its operator. -/
theorem look_none {α : Type} (look : Parser (Option Operator)) {f : Operator → Parser α}
    {q : Parser α} {c : Cursor} {o : Option Operator} (hlook : look c = some (.ok o, c))
    (ho : o = none) :
    (do
      match ← look with
      | some o => f o
      | none => q : Parser α) c = q c := by
  rw [bind_ok hlook, ho]

namespace Stops

variable {c : Cursor} (h : Stops c.token)

include h

theorem multiplicativeRest (n : Nat) (e : Expr) :
    multiplicativeRest (n + 1) e c = some (.ok e, c) :=
  look_none (do return multiplicative? (← token)) rfl h.multiplicative

theorem additiveRest (n : Nat) (e : Expr) : additiveRest (n + 1) e c = some (.ok e, c) :=
  look_none (do return additive? (← token)) rfl h.additive

theorem concatRest (n start : Nat) (e : Expr) :
    concatRest (n + 1) start e c = some (.ok e, c) := by
  have hread : Parser.concatRest (n + 1) start e c =
      (if decide (c.token = .symbol .pipe) && decide (c.peek 1 = .keyword .getline) then do
        advance
        advance
        let target ← target? n
        let read := Term.getline target (.command (e.drop start))
        Parser.concatRest n start (Expr.push (e.take start) read)
      else do
        if startsOperand (← token) then Parser.concatRest n start (← additiveInto n e)
        else return e : Parser Expr) c := rfl
  rw [hread, decide_eq_false h.pipe]
  show (if startsOperand c.token then _ else (return e : Parser Expr)) c = _
  rw [h.operand]
  rfl

theorem comparisonRest (n : Nat) (e : Expr) : comparisonRest (n + 1) e c = some (.ok e, c) :=
  look_none (do return comparison? (← get).redirects (← token)) rfl (h.comparison c.redirects)

theorem matchRest (n : Nat) (e : Expr) : matchRest (n + 1) e c = some (.ok e, c) :=
  look_none (do return matching? (← token)) rfl h.matching

theorem memRest (n : Nat) (e : Expr) : memRest (n + 1) e c = some (.ok e, c) :=
  bind_ok (eat_ne h.mem)

end Stops

/-- What is read with nothing behind it that goes on is an operand of `&&`. -/
theorem memInto_of_unaryInto {n : Nat} {e e' : Expr} {c c' : Cursor} (hstops : Stops c'.token)
    (h : unaryInto (n + 1) e c = some (.ok e', c')) :
    memInto (n + 7) e c = some (.ok e', c') := by
  have hmultiplicative : multiplicativeInto (n + 2) e c = some (.ok e', c') :=
    (bind_ok h).trans (hstops.multiplicativeRest n e')
  have hadditive : additiveInto (n + 3) e c = some (.ok e', c') :=
    (bind_ok hmultiplicative).trans (hstops.additiveRest (n + 1) e')
  have hconcat : concatInto (n + 4) e c = some (.ok e', c') :=
    (bind_ok hadditive).trans (hstops.concatRest (n + 2) e.length e')
  have hcomparison : comparisonInto (n + 5) e c = some (.ok e', c') :=
    (bind_ok hconcat).trans (hstops.comparisonRest (n + 3) e')
  have hmatch : matchInto (n + 6) e c = some (.ok e', c') :=
    (bind_ok hcomparison).trans (hstops.matchRest (n + 4) e')
  exact (bind_ok hmatch).trans (hstops.memRest (n + 5) e')

/-- A regular expression with nothing behind it that goes on. -/
theorem unaryInto_regex (n : Nat) (e : Expr) {p : String} {c : Cursor} (htoken : c.token = .regex p)
    (hstops : Stops c.advance.token) :
    unaryInto (n + 4) e c = some (.ok (e.push (.regex p)), c.advance) := by
  have hread : token c = some (.ok (.regex p), c) := by
    rw [← htoken]
    rfl
  have hoperand : operandInto (n + 1) e c = some (.ok (e.push (.regex p), false), c.advance) :=
    (bind_ok (p := span) rfl).trans (bind_ok hread)
  have hstep : stepInto (n + 2) e c = some (.ok (e.push (.regex p)), c.advance) :=
    (bind_ok hoperand).trans (look_none (do return stepAfter? (← token)) rfl hstops.stepAfter)
  have hpower : powerInto (n + 3) e c = some (.ok (e.push (.regex p)), c.advance) :=
    (bind_ok hstep).trans (bind_ok (eat_ne hstops.caret))
  have hsign : sign? c.token = none := by rw [htoken]; rfl
  exact (look_none (do return sign? (← token)) rfl hsign).trans hpower

/-- A negated regular expression that ends a part of a pattern. -/
theorem memInto_negated (n : Nat) {p : String} {c : Cursor} (hbang : c.token = .symbol .bang)
    (hregex : c.peek 1 = .regex p) (hends : endsNegation (c.peek 2)) :
    memInto (n + 11) [] c = some (.ok [.op .not, .regex p], c.advance.advance) := by
  have hnext : c.advance.token = .regex p ∧ Stops c.advance.advance.token := by
    obtain ⟨rest, redirects, ranges⟩ := c
    match rest with
    | [] => cases hregex
    | [_] => cases hregex
    | [_, r] =>
      have hr : r.token = .regex p := hregex
      refine ⟨hr, ?_⟩
      show Stops r.token
      rw [hr]
      exact ⟨rfl, nofun, rfl, rfl, nofun, rfl, fun _ => rfl, rfl, nofun⟩
    | _ :: r :: l :: rest => exact ⟨hregex, stops_of_endsNegation hends⟩
  have hread : token c = some (.ok (.symbol .bang), c) := by
    rw [← hbang]
    rfl
  have hunary : unaryInto (n + 5) [] c = some (.ok [.op .not, .regex p], c.advance.advance) :=
    (bind_ok hread).trans (unaryInto_regex n [.op .not] hnext.1 hnext.2)
  exact memInto_of_unaryInto hnext.2 hunary

/-! Each part of a compound pattern is read as a part of an expression. -/

variable {n : Nat} {c c' : Cursor} {p : Pattern}

theorem patternLeaf_reads (h : patternLeaf n c = some (.ok p, c')) :
    ∃ t, p.Mirrors 5 t ∧ ∀ k, n + 11 ≤ k → memInto k [] c = some (.ok t.written, c') := by
  obtain ⟨_, _, hfirst, h⟩ := bind_eq_ok h
  cases hfirst
  obtain ⟨_, _, hsecond, h⟩ := bind_eq_ok h
  cases hsecond
  obtain ⟨_, _, hthird, h⟩ := bind_eq_ok h
  cases hthird
  generalize hfirst : c.token = first, hsecond : c.peek 1 = second,
    hthird : endsNegation (c.peek 2) = third at h
  split at h
  · rename_i p
    cases h
    refine ⟨_, .negated (Nat.le_refl _), fun k hk => ?_⟩
    obtain ⟨m, rfl⟩ := Nat.exists_eq_add_of_le' hk
    exact memInto_negated (m + n) hfirst hsecond hthird
  · obtain ⟨e, c₁, he, h⟩ := bind_eq_ok h
    cases h
    have hread (k : Nat) (hk : n + 11 ≤ k) : memInto k [] c = some (.ok e, c') :=
      (grows (Nat.le_trans (Nat.le_add_right n 11) hk)).memInto [] c _ he
    cases hregex : e.regex? with
    | some p =>
      cases Expr.eq_of_regex? hregex
      exact ⟨_, .regex (Nat.le_refl _), hread⟩
    | none =>
      rw [memInto_eq rfl] at he
      obtain ⟨t, ht, rfl⟩ := map_ok he
      have hplaced := ((derives n).memTree c t c' ht).conforms.placed
      exact ⟨t, .expr (Nat.le_refl _) hplaced (memTree_tight n c t c' ht), hread⟩

theorem patternAndRest_reads {l : Pattern} {s : Tree} (hl : l.Mirrors 4 s)
    (h : patternAndRest n l c = some (.ok p, c')) :
    ∃ t, p.Mirrors 4 t ∧
      ∀ k, n + 11 ≤ k → andRest k s.written c = some (.ok t.written, c') := by
  induction n generalizing l s c with
  | zero => cases h
  | succ n ih =>
    obtain ⟨found, c₁, hfound, h⟩ := bind_eq_ok h
    cases found with
    | false =>
      cases h
      refine ⟨s, hl, fun k hk => ?_⟩
      obtain ⟨k, rfl⟩ := Nat.exists_eq_succ_of_ne_zero (show k ≠ 0 by omega)
      exact bind_ok hfound
    | true =>
      obtain ⟨_, c₂, hskip, h⟩ := bind_eq_ok h
      obtain ⟨r, c₃, hr, h⟩ := bind_eq_ok h
      obtain ⟨t, ht, hleaf⟩ := patternLeaf_reads hr
      obtain ⟨u, hu, hrest⟩ := ih (.and (Nat.le_refl _) hl ht) h
      refine ⟨u, hu, fun k hk => ?_⟩
      obtain ⟨k, rfl⟩ := Nat.exists_eq_succ_of_ne_zero (show k ≠ 0 by omega)
      have hk : n + 11 ≤ k := by omega
      have hand : (s.written.push (.op .and)).pushLazy t.written =
          (Tree.between .and s (.lazily t.written)).written := pushLazy_eq _ _
      refine (bind_ok hfound).trans ((bind_ok hskip).trans ((bind_ok (hleaf k hk)).trans ?_))
      rw [hand]
      exact hrest k hk

/-- The operands of `||`. -/
theorem patternAnd_reads {l : Pattern} {c₁ : Cursor} (hl : patternLeaf n c = some (.ok l, c₁))
    (h : patternAndRest n l c₁ = some (.ok p, c')) :
    ∃ t, p.Mirrors 4 t ∧ ∀ k, n + 12 ≤ k → andInto k [] c = some (.ok t.written, c') := by
  obtain ⟨s, hs, hleaf⟩ := patternLeaf_reads hl
  obtain ⟨t, ht, hrest⟩ := patternAndRest_reads (hs.mono (by decide)) h
  refine ⟨t, ht, fun k hk => ?_⟩
  obtain ⟨k, rfl⟩ := Nat.exists_eq_succ_of_ne_zero (show k ≠ 0 by omega)
  have hk : n + 11 ≤ k := by omega
  exact (bind_ok (hleaf k hk)).trans (hrest k hk)

theorem patternOrRest_reads {l : Pattern} {s : Tree} (hl : l.Mirrors 3 s)
    (h : patternOrRest n l c = some (.ok p, c')) :
    ∃ t, p.Mirrors 3 t ∧
      ∀ k, n + 12 ≤ k → orRest k s.written c = some (.ok t.written, c') := by
  induction n generalizing l s c with
  | zero => cases h
  | succ n ih =>
    obtain ⟨found, c₁, hfound, h⟩ := bind_eq_ok h
    cases found with
    | false =>
      cases h
      refine ⟨s, hl, fun k hk => ?_⟩
      obtain ⟨k, rfl⟩ := Nat.exists_eq_succ_of_ne_zero (show k ≠ 0 by omega)
      exact bind_ok hfound
    | true =>
      obtain ⟨_, c₂, hskip, h⟩ := bind_eq_ok h
      obtain ⟨first, c₃, hfirst, h⟩ := bind_eq_ok h
      obtain ⟨r, c₄, hr, h⟩ := bind_eq_ok h
      obtain ⟨t, ht, hleaf⟩ := patternAnd_reads hfirst hr
      obtain ⟨u, hu, hrest⟩ := ih (.or (Nat.le_refl _) hl ht) h
      refine ⟨u, hu, fun k hk => ?_⟩
      obtain ⟨k, rfl⟩ := Nat.exists_eq_succ_of_ne_zero (show k ≠ 0 by omega)
      have hk : n + 12 ≤ k := by omega
      have hor : (s.written.push (.op .or)).pushLazy t.written =
          (Tree.between .or s (.lazily t.written)).written := pushLazy_eq _ _
      refine (bind_ok hfound).trans ((bind_ok hskip).trans ((bind_ok (hleaf k hk)).trans ?_))
      rw [hor]
      exact hrest k hk

/-- A compound pattern is read as an expression, too. -/
theorem compoundPattern_reads (h : compoundPattern n c = some (.ok p, c')) :
    ∃ t, p.Mirrors 3 t ∧ ∀ k, n + 16 ≤ k → expr k c = some (.ok t.written, c') := by
  obtain ⟨l, c₁, hl, h⟩ := bind_eq_ok h
  obtain ⟨q, c₂, hq, h⟩ := bind_eq_ok h
  obtain ⟨r, c₃, hr, h⟩ := bind_eq_ok h
  obtain ⟨s, hs, hand⟩ := patternAnd_reads hl hq
  obtain ⟨t, ht, hrest⟩ := patternOrRest_reads (hs.mono (by decide)) hr
  have hread : (if endsPattern c₃.token then return r else failUnexpected : Parser Pattern) c₃ =
      some (.ok p, c') := h
  split at hread
  · rename_i hends
    cases hread
    obtain ⟨hquestion, hassignment⟩ := not_goesOn_of_endsPattern hends
    refine ⟨t, ht, fun k hk => ?_⟩
    obtain ⟨k, rfl⟩ := Nat.exists_eq_add_of_le' hk
    have hor : orInto (k + n + 13) [] c = some (.ok t.written, c') :=
      (bind_ok (hand _ (by omega))).trans (hrest _ (by omega))
    have hconditional : conditionalInto (k + n + 14) [] c = some (.ok t.written, c') :=
      (bind_ok hor).trans (bind_ok (eat_ne hquestion))
    exact (bind_ok hconditional).trans
      (look_none (do return assignment? (← token)) rfl hassignment)
  · cases hread

end Parser

theorem Value.toBool_ofBool (b : Bool) : (Value.ofBool b).toBool = b := by cases b <;> rfl

/-- A deferred operand is the expression itself or a group of it. -/
theorem Expr.lazyTerm_cases (e : Expr) : [e.lazyTerm] = e ∨ e.lazyTerm = .group e := by
  unfold Expr.lazyTerm
  split
  · exact .inl rfl
  · exact .inl rfl
  · exact .inl rfl
  · exact .inl rfl
  · exact .inr rfl

theorem Tree.written_lazily (e : Expr) : (Tree.lazily e).written = [e.lazyTerm] := by
  unfold Tree.lazily Expr.lazyTerm
  split <;> rfl

namespace Inner

/-- Whether an expression is true. -/
def truth (self : Inner) (e : Expr) : Run Bool := do return (← self.value e).toBool

theorem Below.truth {self other : Inner} (h : self.Below other) (e : Expr) :
    (self.truth e).Below (other.truth e) := (h.value e).andThen _

theorem truth_zero (e : Expr) (x : Run Bool) : ((withFuel 0).truth e).Below x :=
  fun _ _ _ h => nomatch h

/-! The parts of an expression. -/

/-- An operand by itself. -/
theorem value_operand {x : Term} (hx : ∀ o, x ≠ .op o) (n : Nat) :
    (withFuel (n + 1)).value [x] =
      (do (withFuel n).force (← (withFuel n).algebra.operand x) : Run Value) := by
  have hrun : (withFuel n).terms [x] = (withFuel n).algebra.operand x := by
    rw [terms_withFuel]
    exact (Algebra.comes_operand Frame.hasPending rfl hx).run_eq
  show (do valueOf (← (do (withFuel n).settle (← (withFuel n).terms [x])))) = _
  rw [hrun, bind_assoc]
  rfl

theorem truth_regex (n : Nat) (p : String) :
    (withFuel (n + 1)).truth [.regex p] = (liftM (recordMatches p) : Run Bool) := by
  rw [truth, value_operand (x := .regex p) nofun]
  funext m
  show EStateM.Result.ok (Value.ofBool _).toBool _ = _
  rw [Value.toBool_ofBool]
  rfl

theorem truth_group (n : Nat) (e : Expr) :
    (withFuel (n + 1)).truth [.group e] = (withFuel n).truth e := by
  rw [truth, value_operand (x := .group e) nofun]
  rfl

theorem truth_negated (n : Nat) (p : String) :
    (withFuel (n + 1)).truth [.op .not, .regex p] =
      (do return !(← recordMatches p) : Run Bool) := by
  have hrun : (withFuel n).terms [.op .not, .regex p] =
      (withFuel n).applyUnary .not (.ready (.regex p)) := by
    rw [terms_withFuel]
    rfl
  have hvalue : (withFuel (n + 1)).value [.op .not, .regex p] =
      (do return .ofBool !(Value.ofBool (← recordMatches p)).toBool : Run Value) := by
    show (do valueOf (← (do (withFuel n).settle (← (withFuel n).terms _)))) = _
    rw [hrun]
    rfl
  rw [truth, hvalue]
  simp only [Value.toBool_ofBool, bind_assoc, pure_bind]

/-- The truth of a value that is a truth value. -/
theorem value_toBool (x : Run Value) :
    (do
      let o : Operand ← (do return .value (.ofBool (← x).toBool) : Run Operand)
      let v ← valueOf o
      return v.toBool : Run Bool) = (do return (← x).toBool) := by
  simp only [bind_assoc, pure_bind]
  refine bind_congr fun v => ?_
  exact congrArg (Pure.pure : Bool → Run Bool) (Value.toBool_ofBool v.toBool)

theorem truth_and {s : Tree} (hs : s.Layered 4) (e : Expr) (n : Nat) :
    (withFuel (n + 1)).truth (Tree.between .and s (.lazily e)).written = (do
      if ← (withFuel (n + 1)).truth s.written then (withFuel (n + 1)).truth [e.lazyTerm]
      else return false) := by
  have hoperand := hs.evalOperand_and (Tree.deferred_lazily e) n
  rw [Tree.written_lazily] at hoperand
  show (do return (← (do valueOf (← evalOperand (n + 1) _))).toBool) = _
  rw [hoperand]
  simp only [truth, bind_assoc, pure_bind]
  refine bind_congr fun v => ?_
  cases v.toBool with
  | true => exact value_toBool _
  | false => rfl

theorem truth_or {s : Tree} (hs : s.Layered 3) (e : Expr) (n : Nat) :
    (withFuel (n + 1)).truth (Tree.between .or s (.lazily e)).written = (do
      if ← (withFuel (n + 1)).truth s.written then return true
      else (withFuel (n + 1)).truth [e.lazyTerm]) := by
  have hoperand := hs.evalOperand_or (Tree.deferred_lazily e) n
  rw [Tree.written_lazily] at hoperand
  show (do return (← (do valueOf (← evalOperand (n + 1) _))).toBool) = _
  rw [hoperand]
  simp only [truth, bind_assoc, pure_bind]
  refine bind_congr fun v => ?_
  cases v.toBool with
  | true => rfl
  | false => exact value_toBool _

theorem truth_lazily_below (e : Expr) (n : Nat) :
    ((withFuel n).truth [e.lazyTerm]).Below ((withFuel n).truth e) := by
  obtain he | he := e.lazyTerm_cases
  · rw [he]
    exact .refl _
  · rw [he]
    cases n with
    | zero => exact truth_zero _ _
    | succ n =>
      rw [truth_group]
      exact (below_withFuel (Nat.le_succ n)).truth e

theorem truth_below_lazily (e : Expr) (n : Nat) :
    ((withFuel n).truth e).Below ((withFuel (n + 1)).truth [e.lazyTerm]) := by
  obtain he | he := e.lazyTerm_cases
  · rw [he]
    exact (below_withFuel (Nat.le_succ n)).truth e
  · rw [he, truth_group]
    exact .refl _

end Inner

namespace Pattern.Mirrors

variable {k : Nat} {p : Pattern} {t : Tree}

open Awk.Inner

/-- What the expression ends with, the pattern ends with. -/
theorem truth_below (h : p.Mirrors k t) (n : Nat) :
    ((withFuel n).truth t.written).Below ((withFuel n).selects p) := by
  cases n with
  | zero => exact truth_zero _ _
  | succ n =>
    induction h with
    | @regex _ q =>
      show ((withFuel (n + 1)).truth [.regex q]).Below _
      rw [truth_regex]
      exact .refl _
    | @negated _ q =>
      show ((withFuel (n + 1)).truth [.op .not, .regex q]).Below _
      rw [truth_negated]
      exact .refl _
    | expr => exact .refl _
    | and _ hl _ ihl ihr =>
      rw [truth_and hl.layered]
      exact ihl.bind fun _ => .ite ((truth_lazily_below _ _).trans ihr) (.refl _)
    | or _ hl _ ihl ihr =>
      rw [truth_or hl.layered]
      exact ihl.bind fun _ => .ite (.refl _) ((truth_lazily_below _ _).trans ihr)

/-- What the pattern ends with, the expression ends with; a deferred operand takes one more unit of
fuel. -/
theorem selects_below (h : p.Mirrors k t) {n m : Nat} (hnm : n + 6 ≤ m + k) :
    ((withFuel n).selects p).Below ((withFuel m).truth t.written) := by
  induction h generalizing m with
  | @regex _ q hk =>
    obtain ⟨m, rfl⟩ := Nat.exists_eq_succ_of_ne_zero (show m ≠ 0 by omega)
    show Run.Below _ ((withFuel (m + 1)).truth [.regex q])
    rw [truth_regex]
    exact .refl _
  | @negated _ q hk =>
    obtain ⟨m, rfl⟩ := Nat.exists_eq_succ_of_ne_zero (show m ≠ 0 by omega)
    show Run.Below _ ((withFuel (m + 1)).truth [.op .not, .regex q])
    rw [truth_negated]
    exact .refl _
  | expr hk => exact (below_withFuel (show n ≤ m by omega)).truth _
  | and hk hl _ ihl ihr =>
    obtain ⟨m, rfl⟩ := Nat.exists_eq_succ_of_ne_zero (show m ≠ 0 by omega)
    rw [truth_and hl.layered]
    refine (ihl (by omega)).bind fun _ => .ite ?_ (.refl _)
    exact (ihr (show n + 6 ≤ m + 5 by omega)).trans (truth_below_lazily _ _)
  | or hk hl _ ihl ihr =>
    obtain ⟨m, rfl⟩ := Nat.exists_eq_succ_of_ne_zero (show m ≠ 0 by omega)
    rw [truth_or hl.layered]
    refine (ihl (by omega)).bind fun _ => .ite (.refl _) ?_
    exact (ihr (show n + 6 ≤ m + 4 by omega)).trans (truth_below_lazily _ _)

end Pattern.Mirrors

/-- From the lexemes of a compound pattern the grammar also reads an expression, which ends where
the pattern does; and from any machine the pattern selects the record or not, and leaves a machine,
just where the expression is true or not, and leaves that machine. -/
theorem compoundPattern_iff_expr {n : Nat} {c c' : Cursor} {p : Pattern}
    (h : Parser.compoundPattern n c = some (.ok p, c')) :
    ∃ e, (∀ k, n + 16 ≤ k → Parser.expr k c = some (.ok e, c')) ∧
      ∀ m selected m', (∃ k, (Inner.withFuel k).selects p m = .ok selected m') ↔
        ∃ k v, (Inner.withFuel k).value e m = .ok v m' ∧ v.toBool = selected := by
  obtain ⟨t, ht, hexpr⟩ := Parser.compoundPattern_reads h
  refine ⟨t.written, hexpr, fun m selected m' => ⟨?_, ?_⟩⟩
  · rintro ⟨k, hk⟩
    obtain ⟨v, m₁, hv, hselected⟩ :=
      bind_eq_ok (ht.selects_below (show k + 6 ≤ k + 3 + 3 by omega) m selected m' hk)
    cases hselected
    exact ⟨k + 3, v, hv, rfl⟩
  · rintro ⟨k, v, hv, rfl⟩
    exact ⟨k, ht.truth_below k m v.toBool m' (bind_ok hv)⟩

/-- `$1 > 2 && !/x/ || y++` before an action. -/
def comparing : Cursor :=
  .start ([.symbol .dollar, .number ⟨"1"⟩, .symbol .greater, .number ⟨"2"⟩, .symbol .andand,
    .symbol .bang, .regex "x", .symbol .oror, .ident "y", .symbol .incr, .symbol .lbrace, .eof].map
      (⟨·, ⟨0, 0⟩⟩))

def comparingPattern : Pattern :=
  .or
    (.and (.expr [.op .field, .value ⟨"1"⟩, .op .greater, .value ⟨"2"⟩]) (.not (.regex "x")))
    (.expr [.var "y", .op .postIncr])

/-- Where the action starts. -/
def comparingEnd : Cursor := .start ([.symbol .lbrace, .eof].map (⟨·, ⟨0, 0⟩⟩))

/-- As an expression it has the step of `y` in a group of its own. -/
theorem compoundPattern_comparing :
    Parser.compoundPattern 20 comparing = some (.ok comparingPattern, comparingEnd) ∧
      ∃ e, Parser.expr 36 comparing = some (.ok e, comparingEnd) ∧
        e = [.op .field, .value ⟨"1"⟩, .op .greater, .value ⟨"2"⟩, .op .and,
          .group [.op .not, .regex "x"], .op .or, .group [.var "y", .op .postIncr]] ∧
        ∀ m selected m', (∃ k, (Inner.withFuel k).selects comparingPattern m = .ok selected m') ↔
          ∃ k v, (Inner.withFuel k).value e m = .ok v m' ∧ v.toBool = selected := by
  have hpattern : Parser.compoundPattern 20 comparing =
      some (.ok comparingPattern, comparingEnd) := rfl
  obtain ⟨e, hexpr, hselects⟩ := compoundPattern_iff_expr hpattern
  have hread : Parser.expr 36 comparing = some (.ok [.op .field, .value ⟨"1"⟩, .op .greater,
      .value ⟨"2"⟩, .op .and, .group [.op .not, .regex "x"], .op .or,
      .group [.var "y", .op .postIncr]], comparingEnd) := rfl
  have he := hexpr 36 (Nat.le_refl _)
  rw [hread] at he
  cases he
  exact ⟨hpattern, _, hread, rfl, hselects⟩

end Awk
