import Awk.Proofs.Grammar.Soundness

/-! Programs that the parser reads: every expression anywhere in them is written by a tree that
conforms to precedence; the actions of items, and nothing inside of them, are blocks of a program,
the functions have routines for bodies, loops have iterations, and all other blocks are simple. -/

namespace Awk

open Awk.Expr (Derived)

/-- A block of the grammar of the given kind. -/
structure Block.Sound (kind : BlockKind) (b : Block) : Prop where
  kind : b.kind = kind
  everywhere : b.Everywhere Derived
  structured : b.Structured

/-- What is inside of a statement of the grammar. -/
structure Statement.Sound (s : Statement) : Prop where
  exprs : ∀ e ∈ s.exprs, e.Everywhere Derived
  blocks : ∀ b ∈ s.blocks, b.Sound s.bodyKind

theorem Block.sound_mk {kind : BlockKind} {ss : List Statement} (h : ∀ s ∈ ss, s.Sound) :
    (Block.mk kind ss).Sound kind where
  kind := rfl
  everywhere := by
    refine .intro (fun s hs => (h s hs).exprs) (fun s hs b hb => ?_)
      fun s hs b hb => ((h s hs).blocks b hb).everywhere
    rw [((h s hs).blocks b hb).kind]
    exact s.bodyKind_ne_program
  structured :=
    .intro (fun s hs b hb => ((h s hs).blocks b hb).kind)
      fun s hs b hb => ((h s hs).blocks b hb).structured

/-- A function of the grammar: its parameters are all different. -/
structure Function.Sound (f : Function) : Prop where
  parameters : f.parameters.Nodup
  body : f.body.Sound .routine

/-- A program of the grammar. -/
structure Program.Sound (p : Program) : Prop where
  everywhere : p.Everywhere Derived
  structured : p.Structured
  parameters : ∀ f ∈ p.functions, f.parameters.Nodup

namespace Parser

theorem optionalExpr_ensures (n : Nat) :
    Ensures (optionalExpr n) fun o => ∀ e ∈ o, e.Everywhere Derived := by
  refine .andThen fun _ => .ite (.pure nofun) ((derives n).expr.bind fun e he => .pure ?_)
  rintro _ ⟨⟩
  exact he

theorem condition_ensures (n : Nat) : Ensures (condition n) (Expr.Everywhere Derived) := by
  refine .andThen fun _ => ?_
  refine Ensures.bind (.withRedirects false ?_) fun e he => .andThen fun _ => .pure he
  exact .andThen fun _ => (derives n).expr.bind fun e he => .andThen fun _ => .pure he

theorem forClause_ensures (n : Nat) (close : Symbol) :
    Ensures (forClause n close) fun o => ∀ e ∈ o, e.Everywhere Derived := by
  refine .andThen fun _ => .ite (.pure nofun) ((derives n).expr.bind fun e he => .pure ?_)
  rintro _ ⟨⟩
  exact he

theorem parenthesizedList_ensures (n : Nat) :
    Ensures (parenthesizedList n) fun es => ∀ e ∈ es, e.Everywhere Derived := by
  have hlist := ((derives n).exprList .rparen).withRedirects false
  refine .andThen fun _ => hlist.bind fun es hes => ?_
  exact .andThen fun _ => .andThen fun _ => .ite (.pure hes) .failUnexpected

theorem printList_ensures (n : Nat) :
    Ensures (printList n) fun es => ∀ e ∈ es, e.Everywhere Derived := by
  have hlist := (derives n).exprList .semicolon
  refine .andThen fun _ => .ite (.pure nofun) (.andThen fun _ => .ite ?_ hlist)
  refine (parenthesizedList_ensures n).attempt.bind fun r hr => ?_
  cases r with
  | none => exact hlist
  | some es => exact .pure (hr es rfl)

theorem printRest_ensures (n : Nat) :
    Ensures (printRest n) fun r => (∀ e ∈ r.1, e.Everywhere Derived) ∧
      ∀ o ∈ r.2, o.target.Everywhere Derived := by
  refine (printList_ensures n).bind fun es hes => .andThen fun t => ?_
  cases redirection? t with
  | none => exact .pure ⟨hes, nofun⟩
  | some kind =>
    have htarget := Derives.written_of_level (concatInto_eq rfl n) (derives n).concatTree
    refine .andThen fun _ => htarget.bind fun e he => .pure ⟨hes, ?_⟩
    rintro _ ⟨⟩
    exact he

/-- A statement that holds expressions and no blocks. -/
theorem sound_of_exprs {s : Statement} (hs : s.blocks = [])
    (h : ∀ e ∈ s.exprs, e.Everywhere Derived) :
    s.Sound :=
  ⟨h, by rw [hs]; nofun⟩

/-- A statement with a single block. -/
theorem sound_of_block {s : Statement} {b : Block} (hb : b.Sound s.bodyKind) (hs : s.blocks = [b])
    (h : ∀ e ∈ s.exprs, e.Everywhere Derived) : s.Sound where
  exprs := h
  blocks := by
    rw [hs]
    exact List.forall_mem_singleton.mpr hb

theorem output_parts {o : Option Redirect} (h : ∀ r ∈ o, r.target.Everywhere Derived) :
    ∀ e ∈ (o.map Redirect.target).toList, e.Everywhere Derived := by
  cases o with
  | none => nofun
  | some r =>
    intro e he
    cases List.mem_singleton.mp he
    exact h r rfl

theorem optional_parts {o : Option Expr} (h : ∀ e ∈ o, e.Everywhere Derived) :
    ∀ e ∈ o.toList, e.Everywhere Derived := fun e he => h e (Option.mem_toList.mp he)

theorem print_ensures (n : Nat) : Ensures (print n) Statement.Sound := by
  refine .andThen fun _ => ((printRest_ensures n).withRedirects true).bind fun r hr => .pure ?_
  refine sound_of_exprs rfl fun e he => ?_
  exact (List.mem_append.mp he).elim (hr.1 e) (output_parts hr.2 e)

theorem printf_ensures (n : Nat) : Ensures (printf n) Statement.Sound := by
  refine .andThen fun _ => .andThen fun _ => ?_
  refine ((printRest_ensures n).withRedirects true).bind fun r hr => .ite (.fail _ _) (.pure ?_)
  refine sound_of_exprs rfl fun e he => ?_
  exact (List.mem_append.mp he).elim (hr.1 e) (output_parts hr.2 e)

theorem delete_ensures (n : Nat) : Ensures (delete n) Statement.Sound := by
  refine .andThen fun _ => .andThen fun t => ?_
  split
  · refine .andThen fun _ => .andThen fun _ => .ite ?_ (.pure (sound_of_exprs rfl nofun))
    refine ((derives n).exprList .rbracket).bind fun es hes => .andThen fun _ => .pure ?_
    exact sound_of_exprs rfl hes
  · exact .failExpected _

theorem ended_ensures {s : Statement} (h : s.Sound) : Ensures (ended s) Statement.Sound :=
  .andThen fun _ => .ite (.pure h) .failUnexpected

/-- What the functions for statements read with some fuel. -/
structure Reads (n : Nat) : Prop where
  block : ∀ kind, Ensures (block n kind) (Block.Sound kind)
  statements : Ensures (statements n) fun ss => ∀ s ∈ ss, s.Sound
  body : ∀ kind, Ensures (body n kind) (Block.Sound kind)
  statement : Ensures (statement n) Statement.Sound
  ifStatement : Ensures (ifStatement n) Statement.Sound
  forStatement : Ensures (forStatement n) Statement.Sound

namespace Reads

variable {n : Nat}

theorem zero : Reads 0 := by
  constructor
  all_goals intros
  all_goals exact .outOfFuel

variable (ih : Reads n)

include ih

theorem block_succ (kind : BlockKind) : Ensures (Parser.block (n + 1) kind) (Block.Sound kind) :=
  .andThen fun _ => ih.statements.bind fun _ hss => .pure (Block.sound_mk hss)

theorem statements_succ : Ensures (Parser.statements (n + 1)) fun ss => ∀ s ∈ ss, s.Sound := by
  refine .andThen fun _ => .andThen fun _ => .ite (.pure nofun) (.andThen fun _ => .ite ?_ ?_)
  · exact .failExpected _
  · refine ih.statement.bind fun s hs => ih.statements.bind fun ss hss => .pure ?_
    exact List.forall_mem_cons.mpr ⟨hs, hss⟩

theorem body_succ (kind : BlockKind) : Ensures (Parser.body (n + 1) kind) (Block.Sound kind) := by
  refine .andThen fun _ => .andThen fun _ => .ite (ih.block kind) (.andThen fun _ => .ite ?_ ?_)
  · exact .pure (Block.sound_mk nofun)
  · refine ih.statement.bind fun s hs => .pure (Block.sound_mk ?_)
    exact List.forall_mem_cons.mpr ⟨hs, nofun⟩

theorem statement_succ : Ensures (Parser.statement (n + 1)) Statement.Sound := by
  refine .andThen fun t => ?_
  split
  · exact (ih.block .simple).bind fun b hb => .pure (sound_of_block hb rfl nofun)
  · exact ih.ifStatement
  · refine .andThen fun _ => (condition_ensures n).bind fun e he => ?_
    refine (ih.body .iteration).bind fun b hb => .pure (sound_of_block hb rfl ?_)
    exact List.forall_mem_singleton.mpr he
  · exact ih.forStatement
  · refine .andThen fun _ => (ih.body .iteration).bind fun b hb => ?_
    refine .andThen fun _ => .andThen fun _ => .ite ?_ (.failExpected _)
    refine (condition_ensures n).bind fun e he => ended_ensures (sound_of_block hb rfl ?_)
    exact List.forall_mem_singleton.mpr he
  · exact .andThen fun _ => ended_ensures (sound_of_exprs rfl nofun)
  · exact .andThen fun _ => ended_ensures (sound_of_exprs rfl nofun)
  · exact .andThen fun _ => ended_ensures (sound_of_exprs rfl nofun)
  · refine .andThen fun _ => (optionalExpr_ensures n).bind fun o ho => ?_
    exact ended_ensures (sound_of_exprs rfl (optional_parts ho))
  · refine .andThen fun _ => (optionalExpr_ensures n).bind fun o ho => ?_
    exact ended_ensures (sound_of_exprs rfl (optional_parts ho))
  · exact (delete_ensures n).bind fun s hs => ended_ensures hs
  · exact (print_ensures n).bind fun s hs => ended_ensures hs
  · exact (printf_ensures n).bind fun s hs => ended_ensures hs
  · refine (derives n).expr.bind fun e he => ended_ensures (sound_of_exprs rfl ?_)
    exact List.forall_mem_singleton.mpr he

theorem ifStatement_succ : Ensures (Parser.ifStatement (n + 1)) Statement.Sound := by
  refine .andThen fun _ => (condition_ensures n).bind fun e he => ?_
  refine (ih.body .simple).bind fun yes hyes => .andThen fun before => .andThen fun _ => ?_
  have hexprs : ∀ x ∈ [e], x.Everywhere Derived := List.forall_mem_singleton.mpr he
  refine .andThen fun _ => .ite ?_ (.andThen fun _ => .pure ?_)
  · refine (ih.body .simple).bind fun no hno => .pure ⟨hexprs, ?_⟩
    exact List.forall_mem_cons.mpr ⟨hyes, List.forall_mem_singleton.mpr hno⟩
  · exact sound_of_block hyes rfl hexprs

theorem forStatement_succ : Ensures (Parser.forStatement (n + 1)) Statement.Sound := by
  refine .andThen fun _ => .andThen fun _ => .andThen fun c => ?_
  split
  · refine .andThen fun _ => .andThen fun _ => .andThen fun _ => .andThen fun _ => ?_
    exact (ih.body .iteration).bind fun b hb => .pure (sound_of_block hb rfl nofun)
  · have hclauses : Ensures (do
        let start ← forClause n .semicolon
        expect .semicolon
        skipNewlines
        let test ← forClause n .semicolon
        expect .semicolon
        skipNewlines
        return (start, test, ← forClause n .rparen))
        fun r => ∀ e ∈ r.1.toList ++ r.2.1.toList ++ r.2.2.toList, e.Everywhere Derived := by
      refine (forClause_ensures n _).bind fun start hstart => .andThen fun _ => .andThen fun _ => ?_
      refine (forClause_ensures n _).bind fun test htest => .andThen fun _ => .andThen fun _ => ?_
      refine (forClause_ensures n _).bind fun step hstep => .pure fun e he => ?_
      rcases List.mem_append.mp he with he | he
      · exact (List.mem_append.mp he).elim (optional_parts hstart e) (optional_parts htest e)
      · exact optional_parts hstep e he
    refine (hclauses.withRedirects false).bind fun r hr => .andThen fun _ => ?_
    exact (ih.body .iteration).bind fun b hb => .pure (sound_of_block hb rfl hr)

end Reads

/-- What the functions for statements read, whatever the fuel. -/
theorem reads (n : Nat) : Reads n := by
  induction n with
  | zero => exact .zero
  | succ n ih =>
    exact {
      block := ih.block_succ
      statements := ih.statements_succ
      body := ih.body_succ
      statement := ih.statement_succ
      ifStatement := ih.ifStatement_succ
      forStatement := ih.forStatement_succ }

/-! Patterns, items and functions. -/

/-- The expressions of a pattern. -/
abbrev SoundPattern (p : Pattern) : Prop := ∀ e ∈ p.exprs, e.Everywhere Derived

theorem patternLeaf_ensures (n : Nat) : Ensures (patternLeaf n) SoundPattern := by
  refine .andThen fun t => .andThen fun t₁ => .andThen fun t₂ => ?_
  split
  · exact .andThen fun _ => .andThen fun _ => .pure nofun
  · refine (Derives.written_of_level (memInto_eq rfl n) (derives n).memTree).bind fun e he => ?_
    refine .pure ?_
    split
    · exact nofun
    · exact List.forall_mem_singleton.mpr he

theorem sound_of_both {l r p : Pattern} (hp : p.exprs = l.exprs ++ r.exprs) (hl : SoundPattern l)
    (hr : SoundPattern r) : SoundPattern p := fun e he => by
  rw [hp] at he
  exact (List.mem_append.mp he).elim (hl e) (hr e)

theorem patternAndRest_ensures (n : Nat) {l : Pattern} (hl : SoundPattern l) :
    Ensures (patternAndRest n l) SoundPattern := by
  induction n generalizing l with
  | zero => exact .outOfFuel
  | succ n ih =>
    refine .andThen fun _ => .ite (.andThen fun _ => ?_) (.pure hl)
    exact (patternLeaf_ensures n).bind fun r hr => ih (sound_of_both rfl hl hr)

theorem patternOrRest_ensures (n : Nat) {l : Pattern} (hl : SoundPattern l) :
    Ensures (patternOrRest n l) SoundPattern := by
  induction n generalizing l with
  | zero => exact .outOfFuel
  | succ n ih =>
    refine .andThen fun _ => .ite (.andThen fun _ => ?_) (.pure hl)
    refine (patternLeaf_ensures n).bind fun r hr => ?_
    exact (patternAndRest_ensures n hr).bind fun r hr => ih (sound_of_both rfl hl hr)

theorem compoundPattern_ensures (n : Nat) : Ensures (compoundPattern n) SoundPattern := by
  refine (patternLeaf_ensures n).bind fun l hl => (patternAndRest_ensures n hl).bind fun l hl => ?_
  exact (patternOrRest_ensures n hl).bind fun p hp =>
    .andThen fun _ => .ite (.pure hp) .failUnexpected

theorem pattern_ensures (n : Nat) : Ensures (pattern n) SoundPattern := by
  refine (compoundPattern_ensures n).attempt.bind fun r hr => ?_
  cases r with
  | some p => exact .pure (hr p rfl)
  | none => exact (derives n).expr.bind fun e he => .pure (List.forall_mem_singleton.mpr he)

theorem itemPattern_ensures (n : Nat) : Ensures (itemPattern n) SoundPattern := by
  refine .andThen fun t => ?_
  split
  · exact .andThen fun _ => .pure nofun
  · exact .andThen fun _ => .pure nofun
  · exact .pure nofun
  · refine (pattern_ensures n).bind fun first hf => .andThen fun _ => .ite ?_ (.pure hf)
    refine .andThen fun _ => (pattern_ensures n).bind fun last hl => ?_
    exact .andThen fun _ => .andThen fun _ => .pure (sound_of_both rfl hf hl)

/-- The pattern and the action of an item. -/
abbrev SoundItem (i : Item) : Prop := SoundPattern i.pattern ∧ i.action.Sound .program

theorem item_ensures (n : Nat) : Ensures (item n) SoundItem := by
  refine (itemPattern_ensures n).bind fun p hp => .andThen fun _ => .ite ?_ (.ite ?_ ?_)
  · exact ((reads n).block .program).bind fun b hb => .pure ⟨hp, hb⟩
  · exact .failExpected _
  · refine .pure ⟨hp, Block.sound_mk (List.forall_mem_singleton.mpr ?_)⟩
    exact sound_of_exprs rfl nofun

theorem parameters_ensures (n : Nat) {before : List Name} (h : before.Nodup) :
    Ensures (parameters n before) List.Nodup := by
  induction n generalizing before with
  | zero => exact .outOfFuel
  | succ n ih =>
    refine .andThen fun t => ?_
    split
    · rename_i name
      split
      · exact .andThen fun _ => .fail _ _
      · rename_i hnew
        have hmore : (before ++ [name]).Nodup := by
          refine List.nodup_append.mpr ⟨h, List.pairwise_singleton _ name, fun x hx y hy => ?_⟩
          rintro rfl
          exact hnew (List.contains_iff_mem.mpr (List.mem_singleton.mp hy ▸ hx))
        refine .andThen fun _ => .andThen fun _ => .andThen fun comma => .ite ?_ (.pure hmore)
        exact .andThen fun _ => ih hmore
    · exact .pure h

theorem function_ensures (n : Nat) : Ensures (function n) Function.Sound := by
  refine .andThen fun first => .andThen fun _ => .andThen fun t => ?_
  have hrest (name : Name) : Ensures (do
      advance
      expect .lparen
      skipNewlines
      let ps ← parameters n []
      expect .rparen
      skipNewlines
      let b ← block n .routine
      return (⟨name, ps, b, first.merge (← span)⟩ : Function)) Function.Sound := by
    refine .andThen fun _ => .andThen fun _ => .andThen fun _ => ?_
    refine (parameters_ensures n .nil).bind fun ps hps => .andThen fun _ => .andThen fun _ => ?_
    exact ((reads n).block .routine).bind fun b hb => .andThen fun _ => .pure ⟨hps, hb⟩
  split
  · exact .andThen fun name => hrest name
  · exact .andThen fun name => hrest name
  · exact .andThen fun name => hrest name

theorem sound_addFunction {p : Program} {f : Function} (hp : p.Sound) (hf : f.Sound) :
    Program.Sound { p with functions := p.functions ++ [f] } where
  everywhere := ⟨hp.everywhere.patterns, hp.everywhere.actions, List.forall_mem_append.mpr
    ⟨hp.everywhere.functions, List.forall_mem_singleton.mpr ⟨hf.body.kind, hf.body.everywhere⟩⟩⟩
  structured := ⟨hp.structured.actions, List.forall_mem_append.mpr
    ⟨hp.structured.functions, List.forall_mem_singleton.mpr ⟨hf.body.kind, hf.body.structured⟩⟩⟩
  parameters := List.forall_mem_append.mpr
    ⟨hp.parameters, List.forall_mem_singleton.mpr hf.parameters⟩

theorem sound_addItem {p : Program} {i : Item} (hp : p.Sound) (hi : SoundItem i) :
    Program.Sound { p with items := p.items ++ [i] } where
  everywhere := {
    patterns := List.forall_mem_append.mpr
      ⟨hp.everywhere.patterns, List.forall_mem_singleton.mpr hi.1⟩
    actions := List.forall_mem_append.mpr
      ⟨hp.everywhere.actions, List.forall_mem_singleton.mpr ⟨hi.2.kind, hi.2.everywhere⟩⟩
    functions := hp.everywhere.functions }
  structured := ⟨List.forall_mem_append.mpr
    ⟨hp.structured.actions, List.forall_mem_singleton.mpr ⟨hi.2.kind, hi.2.structured⟩⟩,
    hp.structured.functions⟩
  parameters := hp.parameters

theorem program_ensures (n : Nat) {p : Program} (h : p.Sound) :
    Ensures (program n p) Program.Sound := by
  induction n generalizing p with
  | zero => exact .outOfFuel
  | succ n ih =>
    refine .andThen fun _ => .andThen fun _ => .ite ?_ (.andThen fun _ => .ite ?_ ?_)
    · exact .andThen fun _ => .pure
        ⟨⟨h.everywhere.patterns, h.everywhere.actions, h.everywhere.functions⟩,
          ⟨h.structured.actions, h.structured.functions⟩, h.parameters⟩
    · exact (function_ensures n).bind fun f hf => .ite (.fail _ _) (ih (sound_addFunction h hf))
    · exact (item_ensures n).bind fun i hi => ih (sound_addItem h hi)

end Parser

/-- Every expression anywhere in a program that is read is written by a tree that conforms to
precedence, and the blocks are of the kinds that go with what they are in. -/
theorem parse_sound {source : String} {p : Program} (h : parse source = .ok p) : p.Sound := by
  unfold parse at h
  split at h
  · cases h
  · rename_i lexemes hlex
    unfold parseLexemes at h
    cases hp : Parser.program (Parser.fuelFor lexemes.length) .empty (.start lexemes) with
    | none =>
      rw [hp] at h
      cases h
    | some r =>
      obtain ⟨r, c⟩ := r
      rw [hp] at h
      cases h
      have hempty : Program.empty.Sound := ⟨⟨nofun, nofun, nofun⟩, ⟨nofun, nofun⟩, nofun⟩
      exact Parser.program_ensures _ hempty _ _ _ hp

theorem Expr.Derived.wellFormed {e : Expr} (h : e.Derived) : e.wellFormed false := by
  obtain ⟨t, ht, rfl⟩ := h
  exact ht.placed.wellFormed_written

theorem parse_wellFormed {source : String} {p : Program} (h : parse source = .ok p) :
    p.Everywhere (·.wellFormed false) :=
  (parse_sound h).everywhere.mono fun _ he => he.here.wellFormed

end Awk
