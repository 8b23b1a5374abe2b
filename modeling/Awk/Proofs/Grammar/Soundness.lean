import Awk.Proofs.Grammar.Ensures
import Awk.Proofs.Grammar.Levels

/-! Every level derives trees of its level, and every expression that is read is written by a tree
that conforms to precedence, as are all expressions inside of it. -/

namespace Awk

open Awk.Tree (into written)

theorem Expr.mem_push {e : Expr} {t x : Term} (h : x ∈ e.push t) :
    x ∈ e ∨ x = t ∨ x = .op .concat := by
  unfold push at h
  split at h
  · split at h
    · rcases List.mem_append.mp h with h | h
      · exact .inl h
      · rcases List.mem_cons.mp h with h | h
        · exact .inr (.inr h)
        · exact .inr (.inl (List.mem_singleton.mp h))
    · exact (List.mem_append.mp h).imp_right fun h => .inl (List.mem_singleton.mp h)
  · exact (List.mem_append.mp h).imp_right fun h => .inl (List.mem_singleton.mp h)

/-- Writing a tree adds its operands, and operators. -/
theorem Tree.mem_into {t : Tree} {e : Expr} {x : Term} (h : x ∈ into e t) :
    x ∈ e ∨ x ∈ t.operands ∨ ∃ o, x = .op o := by
  have hpush (o : Operator) {e : Expr} (h : x ∈ e.push (.op o)) : x ∈ e ∨ ∃ o, x = .op o := by
    rcases Expr.mem_push h with h | h | h
    · exact .inl h
    · exact .inr ⟨o, h⟩
    · exact .inr ⟨.concat, h⟩
  induction t generalizing e with
  | operand t =>
    rcases Expr.mem_push h with h | h | h
    · exact .inl h
    · exact .inr (.inl (List.mem_singleton.mpr h))
    · exact .inr (.inr ⟨.concat, h⟩)
  | before o t ih =>
    rcases ih h with h | h
    · exact (hpush o h).imp_right .inr
    · exact .inr h
  | after t o ih =>
    rcases hpush o h with h | h
    · exact ih h
    · exact .inr (.inr h)
  | between o l r ihl ihr =>
    have hleft : x ∈ into e l → x ∈ e ∨ x ∈ (Tree.between o l r).operands ∨ ∃ o, x = .op o :=
      fun h => (ihl h).imp_right (·.imp_left (List.mem_append_left _))
    rcases ihr h with h | h | h
    · split at h
      · exact hleft h
      · rcases hpush o h with h | h
        · exact hleft h
        · exact .inr (.inr h)
    · exact .inr (.inl (List.mem_append_right _ h))
    · exact .inr (.inr h)

theorem Tree.Level.everywhere {t : Tree} {l r : Nat} (h : t.Level l r) :
    t.written.Everywhere Expr.Derived := by
  refine .intro ⟨t, h.conforms, rfl⟩ fun x hx p hp => ?_
  rcases Tree.mem_into hx with hx | hx | ⟨o, rfl⟩
  · cases hx
  · exact h.parts x hx p hp
  · cases hp

namespace Parser

/-- What the functions of the grammar read with some fuel. -/
structure Derives (n : Nat) : Prop where
  expr : Ensures (expr n) (Expr.Everywhere Expr.Derived)
  exprList : ∀ close, Ensures (exprList n close) fun es => ∀ e ∈ es, e.Everywhere Expr.Derived
  exprListRest : Ensures (exprListRest n) fun es => ∀ e ∈ es, e.Everywhere Expr.Derived
  arguments : Ensures (arguments n) fun es => ∀ e ∈ es, e.Everywhere Expr.Derived
  subscript : Ensures (subscript n) fun es => ∀ e ∈ es, e.Everywhere Expr.Derived
  target : Ensures (target? n) fun t => ∀ x ∈ t, ∀ e ∈ x.parts, e.Everywhere Expr.Derived
  exprTree : Ensures (exprTree n) (Tree.Level 1 1)
  conditionalTree : Ensures (conditionalTree n) (Tree.Level 2 2)
  orRestTree : ∀ {l}, l.Level 3 3 → Ensures (orRestTree n l) (Tree.Level 3 3)
  orTree : Ensures (orTree n) (Tree.Level 3 3)
  andRestTree : ∀ {l}, l.Level 4 4 → Ensures (andRestTree n l) (Tree.Level 4 4)
  andTree : Ensures (andTree n) (Tree.Level 4 4)
  memRestTree : ∀ {l}, l.Level 5 5 → Ensures (memRestTree n l) (Tree.Level 5 5)
  memTree : Ensures (memTree n) (Tree.Level 5 5)
  matchRestTree : ∀ {l}, l.Level 6 6 → Ensures (matchRestTree n l) (Tree.Level 6 6)
  matchTree : Ensures (matchTree n) (Tree.Level 6 6)
  comparisonRestTree : ∀ {l}, l.Level 7 7 → Ensures (comparisonRestTree n l) (Tree.Level 7 7)
  comparisonTree : Ensures (comparisonTree n) (Tree.Level 7 7)
  concatRestTree : ∀ {l}, l.Level 8 8 → Ensures (concatRestTree n l) (Tree.Level 8 8)
  concatTree : Ensures (concatTree n) (Tree.Level 8 8)
  additiveRestTree : ∀ {l}, l.Level 9 9 → Ensures (additiveRestTree n l) (Tree.Level 9 9)
  additiveTree : Ensures (additiveTree n) (Tree.Level 9 9)
  multiplicativeRestTree : ∀ {l}, l.Level 10 10 →
    Ensures (multiplicativeRestTree n l) (Tree.Level 10 10)
  multiplicativeTree : Ensures (multiplicativeTree n) (Tree.Level 10 10)
  unaryTree : Ensures (unaryTree n) (Tree.Level 13 11)
  /-- Where a sign comes first, it is the root. -/
  signTree : ∀ c, (sign? c.token).isSome →
    EnsuresAt (Parser.unaryTree n) c (Tree.Primary 16)
  powerTree : Ensures (powerTree n) (Tree.Level 13 11)
  stepTree : Ensures (stepTree n) (Tree.Primary 14)
  operandTree : Ensures (operandTree n) fun r => r.1.Primary 16
  stepBeforeTree : ∀ {o} place, o.fixity = .before →
    Ensures (stepBeforeTree n o place) fun r => r.1.Primary 16

namespace Derives

variable {n : Nat}

theorem zero : Derives 0 := by
  constructor
  case signTree => exact fun c _ => Ensures.outOfFuel c
  all_goals intros
  all_goals exact .outOfFuel

/-! Lists. -/

theorem written_of_level {p : Parser Expr} {q : Parser Tree} {l r : Nat}
    (hpq : p = into [] <$> q) (hq : Ensures q (Tree.Level l r)) :
    Ensures p (Expr.Everywhere Expr.Derived) := by
  rw [hpq]
  exact hq.map fun t ht => ht.everywhere

/-- The parts of a `getline`. -/
theorem getline_parts {target : Option (Target Expr)} {source : InputSource Expr}
    (ht : ∀ x ∈ target, ∀ e ∈ x.parts, e.Everywhere Expr.Derived)
    (hs : ∀ e ∈ source.parts, e.Everywhere Expr.Derived) :
    ∀ e ∈ (Term.getline target source).parts, e.Everywhere Expr.Derived := by
  intro e he
  rcases List.mem_append.mp he with he | he
  · cases target with
    | none => cases he
    | some t => exact ht t rfl e he
  · exact hs e he

variable (ih : Derives n)

include ih

theorem expr_succ : Ensures (Parser.expr (n + 1)) (Expr.Everywhere Expr.Derived) :=
  written_of_level (exprInto_eq rfl n) ih.exprTree

theorem exprListRest_succ :
    Ensures (Parser.exprListRest (n + 1)) fun es => ∀ e ∈ es, e.Everywhere Expr.Derived := by
  refine ih.expr.bind fun e he => .andThen fun more => .ite (.andThen fun _ => ?_) (.pure ?_)
  · exact ih.exprListRest.bind fun es hes => .pure (List.forall_mem_cons.mpr ⟨he, hes⟩)
  · exact List.forall_mem_cons.mpr ⟨he, nofun⟩

theorem exprList_succ (close : Symbol) :
    Ensures (Parser.exprList (n + 1) close) fun es => ∀ e ∈ es, e.Everywhere Expr.Derived :=
  .andThen fun _ => .andThen fun _ => .ite (.pure nofun) ih.exprListRest

theorem arguments_succ :
    Ensures (Parser.arguments (n + 1)) fun es => ∀ e ∈ es, e.Everywhere Expr.Derived := by
  refine .andThen fun _ => ((ih.exprList .rparen).withRedirects false).bind fun es hes => ?_
  exact .andThen fun _ => .andThen fun _ => .pure hes

theorem subscript_succ :
    Ensures (Parser.subscript (n + 1)) fun es => ∀ e ∈ es, e.Everywhere Expr.Derived := by
  refine ((ih.exprList .rbracket).withRedirects false).bind fun es hes => ?_
  exact .ite (.failExpected _) (.andThen fun _ => .andThen fun _ => .pure hes)

theorem operandInto_nil : Ensures (operandInto n []) fun r => r.1.Everywhere Expr.Derived := by
  rw [(writes n).operand]
  exact ih.operandTree.map fun r hr => hr.everywhere

theorem target_succ :
    Ensures (Parser.target? (n + 1)) fun t =>
      ∀ x ∈ t, ∀ e ∈ x.parts, e.Everywhere Expr.Derived := by
  have hvar (name : Name) : ∀ x ∈ some (Target.var (ε := Expr) name), ∀ e ∈ x.parts,
      e.Everywhere Expr.Derived := by
    rintro _ ⟨⟩ e ⟨⟩
  refine .andThen fun t => ?_
  split
  · refine .andThen fun _ => (operandInto_nil ih).bind fun r hr => .pure ?_
    rintro _ ⟨⟩ e he
    cases List.mem_singleton.mp he
    exact hr
  · refine .ite (.pure nofun) (.andThen fun _ => .andThen fun _ => .ite ?_ (.pure (hvar _)))
    refine ih.subscript.bind fun es hes => .pure ?_
    rintro _ ⟨⟩ e he
    exact hes e he
  · exact .pure nofun

/-! Trees, from the loosest level to operands. -/

theorem exprTree_succ : Ensures (Parser.exprTree (n + 1)) (Tree.Level 1 1) := by
  refine ih.conditionalTree.bind fun l hl => .andThen fun t => ?_
  cases ho : assignment? t with
  | none => exact .pure (hl.mono (by decide))
  | some o =>
    refine .andThen fun _ => .andThen fun _ => ih.exprTree.bind fun r hr => .pure ?_
    exact .assignment (assignment?_level ho) hl hr

theorem conditionalTree_succ : Ensures (Parser.conditionalTree (n + 1)) (Tree.Level 2 2) := by
  refine ih.orTree.bind fun c hc => .andThen fun found => .ite ?_ (.pure (hc.mono (by decide)))
  refine .andThen fun _ => ih.expr.bind fun yes hy => ?_
  refine .andThen fun _ => .andThen fun _ => .andThen fun _ => ?_
  have hno := written_of_level (conditionalInto_eq rfl n) ih.conditionalTree
  exact hno.bind fun no hn => .pure (.conditional hc (.lazily hy) (.lazily hn))

theorem orRestTree_succ {l : Tree} (hl : l.Level 3 3) :
    Ensures (Parser.orRestTree (n + 1) l) (Tree.Level 3 3) := by
  refine .andThen fun found => .ite (.andThen fun _ => ?_) (.pure hl)
  refine (written_of_level (andInto_eq rfl n) ih.andTree).bind fun e he => ?_
  have hr : (Tree.lazily e).Level 4 3 := (Tree.Primary.lazily he).mono (by decide)
  exact ih.orRestTree (.between ⟨rfl, rfl⟩ (by decide) (by decide) hl hr)

theorem orTree_succ : Ensures (Parser.orTree (n + 1)) (Tree.Level 3 3) :=
  ih.andTree.bind fun _ hl => ih.orRestTree (hl.mono (by decide))

theorem andRestTree_succ {l : Tree} (hl : l.Level 4 4) :
    Ensures (Parser.andRestTree (n + 1) l) (Tree.Level 4 4) := by
  refine .andThen fun found => .ite (.andThen fun _ => ?_) (.pure hl)
  refine (written_of_level (memInto_eq rfl n) ih.memTree).bind fun e he => ?_
  have hr : (Tree.lazily e).Level 5 4 := (Tree.Primary.lazily he).mono (by decide)
  exact ih.andRestTree (.between ⟨rfl, rfl⟩ (by decide) (by decide) hl hr)

theorem andTree_succ : Ensures (Parser.andTree (n + 1)) (Tree.Level 4 4) :=
  ih.memTree.bind fun _ hl => ih.andRestTree (hl.mono (by decide))

theorem memRestTree_succ {l : Tree} (hl : l.Level 5 5) :
    Ensures (Parser.memRestTree (n + 1) l) (Tree.Level 5 5) := by
  refine .andThen fun found => .ite (.andThen fun t => ?_) (.pure hl)
  split
  · rename_i array
    have hr : (Tree.operand (.var array)).Primary 16 := .operand nofun nofun
    exact .andThen fun _ =>
      ih.memRestTree (.between ⟨rfl, rfl⟩ (by decide) (by decide) hl (hr.mono (by decide)))
  · exact .failExpected _

theorem memTree_succ : Ensures (Parser.memTree (n + 1)) (Tree.Level 5 5) :=
  ih.matchTree.bind fun _ hl => ih.memRestTree (hl.mono (by decide))

theorem matchRestTree_succ {l : Tree} (hl : l.Level 6 6) :
    Ensures (Parser.matchRestTree (n + 1) l) (Tree.Level 6 6) := by
  refine .andThen fun t => ?_
  cases ho : matching? t with
  | none => exact .pure hl
  | some o =>
    refine .andThen fun _ => ih.comparisonTree.bind fun r hr => ih.matchRestTree ?_
    exact .between (matching?_level ho) (by decide) (by decide) hl (hr.mono (by decide))

theorem matchTree_succ : Ensures (Parser.matchTree (n + 1)) (Tree.Level 6 6) :=
  ih.comparisonTree.bind fun _ hl => ih.matchRestTree (hl.mono (by decide))

theorem comparisonRestTree_succ {l : Tree} (hl : l.Level 7 7) :
    Ensures (Parser.comparisonRestTree (n + 1) l) (Tree.Level 7 7) := by
  refine .andThen fun c => .andThen fun t => ?_
  cases ho : comparison? c.redirects t with
  | none => exact .pure hl
  | some o =>
    refine .andThen fun _ => ih.concatTree.bind fun r hr => ih.comparisonRestTree ?_
    exact .between (comparison?_level ho) (by decide) (by decide) hl (hr.mono (by decide))

theorem comparisonTree_succ : Ensures (Parser.comparisonTree (n + 1)) (Tree.Level 7 7) :=
  ih.concatTree.bind fun _ hl => ih.comparisonRestTree (hl.mono (by decide))

theorem concatRestTree_succ {l : Tree} (hl : l.Level 8 8) :
    Ensures (Parser.concatRestTree (n + 1) l) (Tree.Level 8 8) := by
  refine .andThen fun t => .andThen fun t' => .ite ?_ (.andThen fun t => .ite ?_ (.pure hl))
  · refine .andThen fun _ => .andThen fun _ => ih.target.bind fun target ht => ih.concatRestTree ?_
    have hread : (Tree.operand (.getline target (.command l.written))).Primary 16 := by
      refine .operand nofun (getline_parts ht fun e he => ?_)
      cases List.mem_singleton.mp he
      exact hl.everywhere
    exact hread.mono (by decide)
  · refine ih.additiveTree.bind fun r hr => ih.concatRestTree ?_
    exact .between ⟨rfl, rfl⟩ (by decide) (by decide) hl (hr.mono (by decide))

theorem concatTree_succ : Ensures (Parser.concatTree (n + 1)) (Tree.Level 8 8) :=
  ih.additiveTree.bind fun _ hl => ih.concatRestTree (hl.mono (by decide))

theorem additiveRestTree_succ {l : Tree} (hl : l.Level 9 9) :
    Ensures (Parser.additiveRestTree (n + 1) l) (Tree.Level 9 9) := by
  refine .andThen fun t => ?_
  cases ho : additive? t with
  | none => exact .pure hl
  | some o =>
    refine .andThen fun _ => ih.multiplicativeTree.bind fun r hr => ih.additiveRestTree ?_
    exact .between (additive?_level ho) (by decide) (by decide) hl (hr.mono (by decide))

theorem additiveTree_succ : Ensures (Parser.additiveTree (n + 1)) (Tree.Level 9 9) :=
  ih.multiplicativeTree.bind fun _ hl => ih.additiveRestTree (hl.mono (by decide))

theorem multiplicativeRestTree_succ {l : Tree} (hl : l.Level 10 10) :
    Ensures (Parser.multiplicativeRestTree (n + 1) l) (Tree.Level 10 10) := by
  refine .andThen fun t => ?_
  cases ho : multiplicative? t with
  | none => exact .pure hl
  | some o =>
    refine .andThen fun _ => ih.unaryTree.bind fun r hr => ih.multiplicativeRestTree ?_
    exact .between (multiplicative?_level ho) (by decide) (by decide) hl (hr.mono (by decide))

theorem multiplicativeTree_succ : Ensures (Parser.multiplicativeTree (n + 1)) (Tree.Level 10 10) :=
  ih.unaryTree.bind fun _ hl => ih.multiplicativeRestTree (hl.mono (by decide))

theorem unaryTree_succ : Ensures (Parser.unaryTree (n + 1)) (Tree.Level 13 11) := by
  refine .andThen fun t => ?_
  cases ho : sign? t with
  | none => exact ih.powerTree
  | some o =>
    refine .andThen fun _ => ih.unaryTree.bind fun t ht => .pure ?_
    exact (Tree.Primary.sign (sign?_spec ho).1 (sign?_spec ho).2 ht).mono (by decide)

theorem signTree_succ (c : Cursor) (hc : (sign? c.token).isSome) :
    EnsuresAt (Parser.unaryTree (n + 1)) c (Tree.Primary 16) := by
  refine .token_bind ?_
  cases ho : sign? c.token with
  | none =>
    rw [ho] at hc
    cases hc
  | some o =>
    refine Ensures.andThen (fun _ => ih.unaryTree.bind fun t ht => .pure ?_) c
    exact .sign (sign?_spec ho).1 (sign?_spec ho).2 ht

theorem powerTree_succ : Ensures (Parser.powerTree (n + 1)) (Tree.Level 13 11) := by
  refine ih.stepTree.bind fun l hl => .andThen fun found => .ite ?_ (.pure (hl.mono (by decide)))
  exact ih.unaryTree.bind fun r hr => .pure (.pow hl hr)

theorem stepTree_succ : Ensures (Parser.stepTree (n + 1)) (Tree.Primary 14) := by
  refine ih.operandTree.bind fun r hr => .andThen fun t => ?_
  cases ho : stepAfter? t with
  | none => exact .pure hr.step
  | some o => exact .ite (.andThen fun _ => .pure (hr.after (stepAfter?_fixity ho))) (.pure hr.step)

theorem stepBeforeTree_succ {o : Operator} (place : Span) (ho : o.fixity = .before) :
    Ensures (Parser.stepBeforeTree (n + 1) o place) fun r => r.1.Primary 16 := by
  refine .andThen fun _ => ih.operandTree.bind fun r hr => .ite (.pure (hr.before ho)) ?_
  exact .fail _ _

theorem operandTree_succ :
    Ensures (Parser.operandTree (n + 1)) fun r => r.1.Primary 16 := by
  have hlist := (ih.exprList .rparen).withRedirects false
  intro c
  have hsign (hc : (sign? c.token).isSome) :
      EnsuresAt (do return (← Parser.unaryTree n, false)) c
        fun r : Tree × Bool => r.1.Primary 16 :=
    (ih.signTree c hc).bind fun t c' ht =>
      Ensures.pure (Q := fun r : Tree × Bool => r.1.Primary 16) ht c'
  refine .span_bind (.token_bind ?_)
  split
  · refine Ensures.andThen (fun _ => .andThen fun t => ?_) c
    cases ho : (stepBefore? t).or (sign? t) with
    | none => exact ih.operandTree.bind fun r hr => .pure (hr.before rfl)
    | some o =>
      have hfix : o.fixity = .before := by
        rcases Option.or_eq_some_iff.mp ho with ho | ⟨-, ho⟩
        · exact stepBefore?_fixity ho
        · exact (sign?_spec ho).1
      exact .andThen fun _ => ih.operandTree.bind fun r hr => .pure ((hr.before hfix).before rfl)
  · exact ih.stepBeforeTree _ rfl c
  · exact ih.stepBeforeTree _ rfl c
  · exact Ensures.andThen (fun _ => .pure (.operand nofun nofun)) c
  · exact Ensures.andThen (fun _ => .pure (.operand nofun nofun)) c
  · exact Ensures.andThen (fun _ => .pure (.operand nofun nofun)) c
  · refine Ensures.andThen (fun _ => ?_) c
    refine hlist.bind fun es hes => .andThen fun _ => .andThen fun _ => ?_
    split
    · exact .fail _ _
    · exact .pure (.operand nofun hes)
    · exact .andThen fun _ => .ite (.pure (.operand nofun hes)) (.failExpected _)
  · exact Ensures.andThen (fun _ => ih.arguments.bind fun es hes => .pure (.operand nofun hes)) c
  · refine Ensures.andThen (fun _ => ?_) c
    split
    · refine .andThen fun _ => .ite ?_ (.ite (.pure (.operand nofun nofun)) (.fail _ _))
      exact ih.arguments.bind fun es hes => .pure (.operand nofun hes)
    · refine .andThen fun _ => .ite ?_ (.pure (.operand nofun nofun))
      exact ih.subscript.bind fun es hes => .pure (.operand nofun hes)
  · refine Ensures.andThen (fun _ => ih.target.bind fun target ht => .andThen fun _ => .ite ?_ ?_) c
    · refine (operandInto_nil ih).bind fun r hr => .pure (.operand nofun (getline_parts ht ?_))
      intro e he
      cases List.mem_singleton.mp he
      exact hr
    · exact .pure (.operand nofun (getline_parts ht nofun))
  · rename_i hc
    exact hsign (by rw [hc]; rfl)
  · rename_i hc
    exact hsign (by rw [hc]; rfl)
  · rename_i hc
    exact hsign (by rw [hc]; rfl)
  · exact Ensures.failUnexpected c

end Derives

/-- What the grammar reads, whatever the fuel. -/
theorem derives (n : Nat) : Derives n := by
  induction n with
  | zero => exact .zero
  | succ n ih =>
    exact {
      expr := ih.expr_succ
      exprList := ih.exprList_succ
      exprListRest := ih.exprListRest_succ
      arguments := ih.arguments_succ
      subscript := ih.subscript_succ
      target := ih.target_succ
      exprTree := ih.exprTree_succ
      conditionalTree := ih.conditionalTree_succ
      orRestTree := ih.orRestTree_succ
      orTree := ih.orTree_succ
      andRestTree := ih.andRestTree_succ
      andTree := ih.andTree_succ
      memRestTree := ih.memRestTree_succ
      memTree := ih.memTree_succ
      matchRestTree := ih.matchRestTree_succ
      matchTree := ih.matchTree_succ
      comparisonRestTree := ih.comparisonRestTree_succ
      comparisonTree := ih.comparisonTree_succ
      concatRestTree := ih.concatRestTree_succ
      concatTree := ih.concatTree_succ
      additiveRestTree := ih.additiveRestTree_succ
      additiveTree := ih.additiveTree_succ
      multiplicativeRestTree := ih.multiplicativeRestTree_succ
      multiplicativeTree := ih.multiplicativeTree_succ
      unaryTree := ih.unaryTree_succ
      signTree := ih.signTree_succ
      powerTree := ih.powerTree_succ
      stepTree := ih.stepTree_succ
      operandTree := ih.operandTree_succ
      stepBeforeTree := ih.stepBeforeTree_succ }

end Parser

end Awk
