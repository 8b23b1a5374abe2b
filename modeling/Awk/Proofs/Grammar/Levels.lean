import Awk.Proofs.Ast.Parts
import Awk.Proofs.Expression.Conforming
import Awk.Proofs.Grammar.Writing

/-! The levels of the grammar. A tree of a level has no operator on its edges that is looser than
the level, and conforms to precedence, since the levels follow precedence; only what `$`, `++` and
`--` are applied to may be signed. -/

namespace Awk

/-- What a tree that conforms to precedence is written as. -/
def Expr.Derived (e : Expr) : Prop := ∃ t : Tree, t.Conforms ∧ t.written = e

namespace Operator

theorem before_levels {o : Operator} (h : o.fixity = .before) :
    11 ≤ o.precedence ∧ (o.isSign ∨ 14 ≤ o.precedence) := by
  cases o <;> first | decide | exact absurd h (by decide)

theorem sign_lt {o : Operator} (h : o.isSign) : o.precedence < 13 := by
  cases o <;> first | decide | exact absurd h (by decide)

theorem pow_not_bindsTighter {p : Operator} (h : 13 ≤ p.precedence) : ¬ pow.bindsTighter p := by
  cases p <;> first | decide | exact absurd h (by decide)

theorem rightToLeft_of_precedence {p : Operator} (h : p.precedence = 1) :
    p.associativity = .rightToLeft := by
  cases p <;> first | rfl | exact absurd h (by decide)

theorem after_level {o : Operator} (h : o.fixity = .after) :
    o.precedence = 14 ∧ o.associativity = .leftToRight := by
  cases o <;> first | exact ⟨rfl, rfl⟩ | exact absurd h (by decide)

end Operator

namespace Parser

theorem sign?_spec {t : Token} {o : Operator} (h : sign? t = some o) :
    o.fixity = .before ∧ o.isSign := by
  unfold sign? at h
  split at h <;> cases h <;> exact ⟨rfl, rfl⟩

theorem stepBefore?_fixity {t : Token} {o : Operator} (h : stepBefore? t = some o) :
    o.fixity = .before := by
  unfold stepBefore? at h
  split at h <;> cases h <;> rfl

theorem stepAfter?_fixity {t : Token} {o : Operator} (h : stepAfter? t = some o) :
    o.fixity = .after := by
  unfold stepAfter? at h
  split at h <;> cases h <;> rfl

end Parser

namespace Tree

/-- The operands from left to right. -/
def operands : Tree → List Term
  | operand t => [t]
  | before _ t => t.operands
  | after t _ => t.operands
  | between _ l r => l.operands ++ r.operands

/-- A tree that conforms, with operators of the given precedences at least on its spines, and in
whose operands all expressions are written by trees that conform. -/
structure Level (left right : Nat) (t : Tree) : Prop where
  conforms : t.Conforms
  left : ∀ p ∈ t.leftSpine, left ≤ p.precedence
  right : ∀ q ∈ t.rightSpine, right ≤ q.precedence
  parts : ∀ x ∈ t.operands, ∀ p ∈ x.parts, p.Everywhere Expr.Derived

/-- What a step and a power can be applied to: a sign shows on the right spine, or nothing there is
looser than a step. -/
structure Primary (left : Nat) (t : Tree) : Prop extends Level left 11 t where
  firm : (∃ q ∈ t.rightSpine, q.isSign) ∨ ∀ q ∈ t.rightSpine, 14 ≤ q.precedence

theorem Level.mono {l r l' r' : Nat} {t : Tree} (h : t.Level l r) (hle : l' ≤ l ∧ r' ≤ r) :
    t.Level l' r' :=
  ⟨h.conforms, fun p hp => Nat.le_trans hle.1 (h.left p hp),
    fun q hq => Nat.le_trans hle.2 (h.right q hq), h.parts⟩

/-- No operator has precedence sixteen. -/
theorem Level.leftSpine_nil {r : Nat} {t : Tree} (h : t.Level 16 r) (p : Operator) :
    p ∉ t.leftSpine := fun hp => by
  have hle := p.precedence_le
  have hge := h.left p hp
  omega

theorem Primary.operand {x : Term} (hx : ∀ o, x ≠ .op o)
    (hp : ∀ p ∈ x.parts, p.Everywhere Expr.Derived) : (operand x).Primary 16 where
  conforms := .operand hx
  left := fun _ h => nomatch h
  right := fun _ h => nomatch h
  parts := fun y hy => by
    cases List.mem_singleton.mp hy
    exact hp
  firm := .inr fun _ h => nomatch h

theorem Primary.lazily {e : Expr} (h : e.Everywhere Expr.Derived) : (lazily e).Primary 16 := by
  have hgroup (g : Expr) (hg : g.Everywhere Expr.Derived) :
      ∀ p ∈ (Term.group g).parts, p.Everywhere Expr.Derived := fun p hp => by
    cases List.mem_singleton.mp hp
    exact hg
  unfold Tree.lazily Expr.lazyTerm
  split
  · exact .operand nofun nofun
  · exact .operand nofun nofun
  · exact .operand nofun nofun
  · exact .operand nofun (hgroup _ (h.part (.head _) (.head _)))
  · exact .operand nofun (hgroup _ h)

theorem Primary.before {o : Operator} {t : Tree} (ho : o.fixity = .before) (h : t.Primary 16) :
    (before o t).Primary 16 where
  conforms := .before ho h.conforms fun p hp => absurd hp (h.leftSpine_nil p)
  left := fun _ hp => nomatch hp
  right := List.forall_mem_cons.mpr ⟨(Operator.before_levels ho).1, h.right⟩
  parts := h.parts
  firm := by
    rcases (Operator.before_levels ho).2 with hsign | hstep
    · exact .inl ⟨o, .head _, hsign⟩
    · rcases h.firm with ⟨q, hq, hqs⟩ | hfirm
      · exact .inl ⟨q, .tail _ hq, hqs⟩
      · exact .inr (List.forall_mem_cons.mpr ⟨hstep, hfirm⟩)

/-- A sign over what is signed or a power. -/
theorem Primary.sign {o : Operator} {t : Tree} (ho : o.fixity = .before) (hs : o.isSign)
    (h : t.Level 13 11) : (Tree.before o t).Primary 16 where
  conforms := .before ho h.conforms fun p hp =>
    Operator.not_bindsTighter_of_lt (Nat.lt_of_lt_of_le (Operator.sign_lt hs) (h.left p hp))
  left := fun _ hp => nomatch hp
  right := List.forall_mem_cons.mpr ⟨(Operator.before_levels ho).1, h.right⟩
  parts := h.parts
  firm := .inl ⟨o, .head _, hs⟩

theorem Primary.after {o : Operator} {t : Tree} (ho : o.fixity = .after) (h : t.Primary 16) :
    (Tree.after t o).Primary 14 where
  conforms := by
    refine .after ho h.conforms (h.firm.imp_right fun hfirm q hq => ?_)
    obtain ⟨hprec, hassoc⟩ := Operator.after_level ho
    exact Operator.bindsTighter_of_le (by rw [hprec]; exact hfirm q hq) hassoc
  left := List.forall_mem_cons.mpr
    ⟨Nat.le_of_eq (Operator.after_level ho).1.symm, fun p hp => absurd hp (h.leftSpine_nil p)⟩
  right := fun q hq => by
    cases List.mem_singleton.mp hq
    rw [(Operator.after_level ho).1]
    decide
  parts := h.parts
  firm := .inr fun q hq => by
    cases List.mem_singleton.mp hq
    exact Nat.le_of_eq (Operator.after_level ho).1.symm

/-- A step is one that nothing is done to, too. -/
theorem Primary.step {t : Tree} (h : t.Primary 16) : t.Primary 14 :=
  { h.toLevel.mono (by decide) with firm := h.firm }

theorem Level.pow {l r : Tree} (hl : l.Primary 14) (hr : r.Level 13 11) :
    (between .pow l r).Level 13 11 where
  conforms := by
    refine .between rfl hl.conforms hr.conforms ?_ fun p hp => ?_
    · refine hl.firm.imp (⟨rfl, ·⟩) fun hfirm q hq => ?_
      exact Operator.bindsTighter_of_lt (Nat.lt_of_lt_of_le (by decide) (hfirm q hq))
    · exact Operator.pow_not_bindsTighter (hr.left p hp)
  left := List.forall_mem_cons.mpr ⟨by decide, fun p hp => Nat.le_trans (by decide) (hl.left p hp)⟩
  right := List.forall_mem_cons.mpr ⟨by decide, hr.right⟩
  parts := fun x hx => (List.mem_append.mp hx).elim (hl.parts x) (hr.parts x)

/-- An operator that groups to the left, over a tree of its own level and one of a tighter level. -/
theorem Level.between {k : Nat} {o : Operator} {l r : Tree} (ho : Parser.OfLevel k o)
    (hk : 3 ≤ k) (hk' : k ≠ 13) (hl : l.Level k k) (hr : r.Level (k + 1) k) :
    (Tree.between o l r).Level k k where
  conforms := by
    obtain ⟨hfix, hprec⟩ := ho
    have hpow : o ≠ .pow := by
      rintro rfl
      exact hk' hprec.symm
    have hassoc := Operator.leftToRight_of_precedence (o := o) (by omega) hpow
    refine .between hfix hl.conforms hr.conforms (.inr fun q hq => ?_) fun p hp => ?_
    · exact Operator.bindsTighter_of_le (by rw [hprec]; exact hl.right q hq) hassoc
    · exact Operator.not_bindsTighter_of_lt (by rw [hprec]; exact hr.left p hp)
  left := List.forall_mem_cons.mpr ⟨Nat.le_of_eq ho.2.symm, hl.left⟩
  right := List.forall_mem_cons.mpr ⟨Nat.le_of_eq ho.2.symm, hr.right⟩
  parts := fun x hx => (List.mem_append.mp hx).elim (hl.parts x) (hr.parts x)

theorem Level.assignment {o : Operator} {l r : Tree} (ho : Parser.OfLevel 1 o) (hl : l.Level 2 2)
    (hr : r.Level 1 1) : (Tree.between o l r).Level 1 1 where
  conforms := by
    obtain ⟨hfix, hprec⟩ := ho
    refine .between hfix hl.conforms hr.conforms (.inr fun q hq => ?_) fun p hp => ?_
    · exact Operator.bindsTighter_of_lt (by rw [hprec]; exact hl.right q hq)
    · rcases Nat.lt_or_eq_of_le (hr.left p hp) with hlt | heq
      · exact Operator.not_bindsTighter_of_lt (by rw [hprec]; exact hlt)
      · have hassoc := Operator.rightToLeft_of_precedence heq.symm
        exact Operator.not_bindsTighter_of_le (by rw [hprec]; exact hr.left p hp) hassoc
  left := List.forall_mem_cons.mpr
    ⟨Nat.le_of_eq ho.2.symm, fun p hp => Nat.le_trans (by decide) (hl.left p hp)⟩
  right := List.forall_mem_cons.mpr ⟨Nat.le_of_eq ho.2.symm, hr.right⟩
  parts := fun x hx => (List.mem_append.mp hx).elim (hl.parts x) (hr.parts x)

theorem Level.conditional {c yes no : Tree} (hc : c.Level 3 3) (hy : yes.Primary 16)
    (hn : no.Primary 16) :
    (Tree.between .colon (.between .question c yes) no).Level 2 2 where
  conforms := by
    have hchosen : (Tree.between .question c yes).Conforms := by
      refine .between rfl hc.conforms hy.conforms (.inr fun q hq => ?_) fun p hp =>
        absurd hp (hy.leftSpine_nil p)
      exact Operator.bindsTighter_of_lt (hc.right q hq)
    refine .between rfl hchosen hn.conforms (.inr ?_) fun p hp => absurd hp (hn.leftSpine_nil p)
    refine List.forall_mem_cons.mpr ⟨by decide, fun q hq => ?_⟩
    exact Operator.bindsTighter_of_lt (Nat.lt_of_lt_of_le (by decide) (hy.right q hq))
  left := List.forall_mem_cons.mpr ⟨by decide, List.forall_mem_cons.mpr
    ⟨by decide, fun p hp => Nat.le_trans (by decide) (hc.left p hp)⟩⟩
  right := List.forall_mem_cons.mpr
    ⟨by decide, fun q hq => Nat.le_trans (by decide) (hn.right q hq)⟩
  parts := fun x hx => (List.mem_append.mp hx).elim
    (fun hx => (List.mem_append.mp hx).elim (hc.parts x) (hy.parts x)) (hn.parts x)

end Tree

end Awk
