import Awk.Proofs.Grammar.CarriedStatements
import Awk.Proofs.Grammar.Numbering
import Awk.Proofs.Grammar.Reading

/-! Every change is carried over by the parsers of patterns, items and functions. -/

namespace Awk

namespace Pattern

/-- The pattern with `k` more ranges before its own. -/
def renumber (k : Nat) : Pattern → Pattern
  | not inner => not (inner.renumber k)
  | and left right => and (left.renumber k) (right.renumber k)
  | or left right => or (left.renumber k) (right.renumber k)
  | range id first last => range (k + id) (first.renumber k) (last.renumber k)
  | p => p

theorem renumber_of_ranges {p : Pattern} (k : Nat) (h : p.ranges = []) : p.renumber k = p := by
  induction p with
  | not inner ih => exact congrArg not (ih h)
  | and l r ihl ihr =>
    obtain ⟨hl, hr⟩ := List.append_eq_nil_iff.mp h
    exact congrArg₂ and (ihl hl) (ihr hr)
  | or l r ihl ihr =>
    obtain ⟨hl, hr⟩ := List.append_eq_nil_iff.mp h
    exact congrArg₂ or (ihl hl) (ihr hr)
  | range id first last => cases h
  | _ => rfl

theorem isBegin_renumber (k : Nat) (p : Pattern) : (p.renumber k).isBegin = p.isBegin := by
  cases p <;> rfl

theorem isEnd_renumber (k : Nat) (p : Pattern) : (p.renumber k).isEnd = p.isEnd := by
  cases p <;> rfl

end Pattern

/-- The item with `k` more ranges before its own. -/
def Item.renumber (k : Nat) (i : Item) : Item := { i with pattern := i.pattern.renumber k }

namespace Parser

variable {M : Change} {n m b : Nat}

/-- The regular expression of a negation that is a part of a pattern, if that is what comes next. -/
def negated? (c : Cursor) : Option String :=
  match c.token, c.peek 1, endsNegation (c.peek 2) with
  | .symbol .bang, .regex p, true => some p
  | _, _, _ => none

theorem negated?_eq_some {c : Cursor} {p : String} :
    negated? c = some p ↔ c.peek 0 = .symbol .bang ∧ c.peek 1 = .regex p ∧
      endsNegation (c.peek 2) = true := by
  show (match c.peek 0, c.peek 1, endsNegation (c.peek 2) with
    | .symbol .bang, .regex p, true => some p
    | _, _, _ => none) = _ ↔ _
  split
  · rename_i h₀ h₁ h₂
    rw [h₀, h₁, h₂]
    simp
  · rename_i hother
    exact ⟨nofun, fun ⟨h₀, h₁, h₂⟩ => absurd h₂ (hother _ h₀ h₁)⟩

theorem Change.Turns.negated? {c d : Cursor} (hcd : M.Turns c d) : negated? d = negated? c := by
  refine Option.ext fun p => ?_
  rw [negated?_eq_some, negated?_eq_some]
  have hfirst : d.peek 0 = .symbol .bang ↔ c.peek 0 = .symbol .bang :=
    hcd.peek_eq_iff (k := 0) nofun nofun nofun
  refine (and_congr_left' hfirst).trans (and_congr_right fun h₀ => ?_)
  have hplain₁ := plain_lt_succ (k := 0) nofun h₀ rfl
  have hsecond : d.peek 1 = .regex p ↔ c.peek 1 = .regex p := hcd.peek_eq_iff hplain₁ nofun nofun
  refine (and_congr_left' hsecond).trans (and_congr_right fun h₁ => ?_)
  obtain ⟨turns, -, hleft, hright⟩ := hcd.ahead 2 (plain_lt_succ hplain₁ h₁ rfl)
  rw [← hleft, ← hright]
  rcases turns.token with hd | ⟨-, hc, hd⟩
  · rw [hd]
  · rw [hc, hd]
    exact ⟨fun _ => rfl, fun _ => rfl⟩

theorem patternLeaf_apply (fuel : Nat) (c : Cursor) :
    patternLeaf fuel c = match negated? c with
      | some p => some (.ok (.not (.regex p)), Cursor.advance^[2] c)
      | none => (do
        let e ← memInto fuel []
        return match e.regex? with
          | some p => .regex p
          | none => .expr e : Parser Pattern) c := by
  have hread : patternLeaf fuel c = (match c.token, c.peek 1, endsNegation (c.peek 2) with
      | .symbol .bang, .regex p, true => do
        advance
        advance
        return .not (.regex p)
      | _, _, _ => do
        let e ← memInto fuel []
        return match e.regex? with
          | some p => .regex p
          | none => .expr e : Parser Pattern) c := rfl
  rw [hread]
  unfold negated?
  generalize c.token = first, c.peek 1 = second, endsNegation (c.peek 2) = third
  split <;> rfl

theorem patternLeaf_carried (hnm : n ≤ m) (h : 32 * b + 10 ≤ n) :
    M.Carries anyToken b true Eq (patternLeaf n) (patternLeaf m) := by
  intro c d hcd hT hb
  rw [patternLeaf_apply, patternLeaf_apply, hcd.negated?]
  cases hnegated : Parser.negated? c with
  | none =>
    have hmem : M.Carries anyToken b true Eq
        (do
          let e ← memInto n []
          return match e.regex? with
            | some p => Pattern.regex p
            | none => .expr e)
        (do
          let e ← memInto m []
          return match e.regex? with
            | some p => Pattern.regex p
            | none => .expr e) :=
      ((carriedExprs M hnm).memInto [] h).first fun _ _ => .pure rfl
    exact hmem c d hcd hT hb
  | some p =>
    obtain ⟨h₀, h₁, -⟩ := negated?_eq_some.mp hnegated
    have hplain : ∀ i < 2, (c.peek i).plain = true :=
      plain_lt_succ (plain_lt_succ (k := 0) nofun h₀ rfl) h₁ rfl
    exact hcd.past_ahead (p := pure _) (q := pure _) (k := 2) (by decide) hplain hb
      fun _ => .pure rfl

theorem patternAndRest_carried (hnm : n ≤ m) (h : 32 * b + 1 ≤ n) (l : Pattern) :
    M.Carries anyToken b false Eq (patternAndRest n l) (patternAndRest m l) := by
  induction n generalizing m b l with
  | zero => omega
  | succ n ih =>
    obtain ⟨m, rfl⟩ := Nat.exists_eq_add_of_lt hnm
    refine .eat nofun (.opens rfl (.newlines _) (.newlines _)) (fun _ => .skipNewlines ?_) (.pure rfl)
    refine (patternLeaf_carried (by omega) (by omega)).first fun _ _ => ?_
    exact ih (by omega) (by omega) _

theorem patternOrRest_carried (hnm : n ≤ m) (h : 32 * b + 1 ≤ n) (l : Pattern) :
    M.Carries anyToken b false Eq (patternOrRest n l) (patternOrRest m l) := by
  induction n generalizing m b l with
  | zero => omega
  | succ n ih =>
    obtain ⟨m, rfl⟩ := Nat.exists_eq_add_of_lt hnm
    refine .eat nofun (.opens rfl (.newlines _) (.newlines _)) (fun _ => .skipNewlines ?_) (.pure rfl)
    refine (patternLeaf_carried (by omega) (by omega)).first fun _ _ => ?_
    refine (patternAndRest_carried (by omega) (by omega) _).bind fun _ => ?_
    exact ih (by omega) (by omega) _

theorem patternParts_carried (hnm : n ≤ m) (h : 32 * b + 10 ≤ n) :
    M.Carries anyToken b true Eq (patternParts n) (patternParts m) :=
  (patternLeaf_carried hnm h).first fun _ _ =>
    (patternAndRest_carried hnm (by omega) _).bind fun _ => patternOrRest_carried hnm (by omega) _

theorem compoundPattern_carried (hnm : n ≤ m) (h : 32 * b + 10 ≤ n) :
    M.Carries anyToken b true Eq (compoundPattern n) (compoundPattern m) := by
  rw [compoundPattern_eq, compoundPattern_eq]
  exact (patternParts_carried hnm h).first fun _ _ => .token rfl fun _ _ =>
    .ite (.pure rfl) .failUnexpected

theorem pattern_carried (hnm : n ≤ m) (h : 32 * b + 15 ≤ n) :
    M.Carries anyToken b true Eq (pattern n) (pattern m) := by
  have hexpr : M.Carries anyToken b true Eq (do return Pattern.expr (← expr n))
      (do return .expr (← expr m)) := ((carriedExprs M hnm).expr h).first fun _ _ => .pure rfl
  refine .attempt (stays_compoundPattern n) (stays_compoundPattern m)
    (compoundPattern_carried hnm (by omega)) (fun _ _ ha => ha ▸ .pure rfl) hexpr ?_
  rintro - c d hcd - hb ⟨e, c', hleft⟩ ⟨_, _, hright⟩
  obtain ⟨_, _, hexpr, -⟩ := bind_eq_ok hright
  obtain ⟨p, c₁, hparts⟩ := patternParts_of_expr hexpr
  obtain ⟨_, _, hparts', -, turns, -⟩ :=
    (patternParts_carried hnm (by omega)).of_ok hcd trivial hb hparts
  rw [compoundPattern_eq, bind_ok hparts] at hleft
  rw [compoundPattern_eq, bind_ok hparts']
  exact turns.unended rfl hleft

/-! Items. -/

/-- A range takes the next number, which is higher by those met before. -/
theorem itemPattern_carried (hnm : n ≤ m) (h : 32 * b + 15 ≤ n) :
    M.Carries (· ≠ .symbol .lbrace) b true (fun p p' => p' = p.renumber M.ranges) (itemPattern n)
      (itemPattern m) := by
  have hpattern := (pattern_carried (M := M) hnm h).ensures (pattern_ranges n)
  refine .token rfl fun t ht => ?_
  split
  · exact .advance (.plain rfl) fun _ => .pure rfl
  · exact .advance (.plain rfl) fun _ => .pure rfl
  · exact absurd rfl ht
  · refine .firstRel hpattern.on fun _ first _ hfirst => ?_
    obtain ⟨rfl, hfirst⟩ := hfirst
    refine .eat nofun (.opens rfl (.newlines _) (.newlines _)) (fun _ => .skipNewlines ?_)
      (.pure (Pattern.renumber_of_ranges _ hfirst).symm)
    refine (hpattern.mono (by omega)).firstRel fun _ last _ hlast => ?_
    obtain ⟨rfl, hlast⟩ := hlast
    intro c d hcd _ _
    have hrange : Pattern.range d.ranges first last =
        (Pattern.range c.ranges first last).renumber M.ranges := by
      unfold Pattern.renumber
      rw [hcd.ranges, Pattern.renumber_of_ranges _ hfirst, Pattern.renumber_of_ranges _ hlast]
    refine .ok hrange ⟨hcd.lexemes, hcd.redirects, ?_⟩ (Nat.le_refl _) nofun
    exact (congrArg (· + 1) hcd.ranges).trans (Nat.add_assoc _ _ _)

theorem itemPattern_all {c : Cursor} (hc : c.token = .symbol .lbrace) :
    itemPattern n c = some (.ok .all, c) := by
  have htoken : token c = some (.ok (.symbol .lbrace), c) := by
    rw [← hc]
    rfl
  exact bind_ok htoken

theorem item_carried (hnm : n ≤ m) (h : 32 * b + 15 ≤ n) :
    M.Carries anyToken b true (fun i i' => i' = i.renumber M.ranges) (item n) (item m) := by
  have hblock (p : Pattern) {b : Nat} (hb : 32 * b + 1 ≤ n) :
      M.Carries anyToken b true (fun i i' => i' = i.renumber M.ranges)
        (do return Item.mk p (← block n .program))
        (do return Item.mk (p.renumber M.ranges) (← block m .program)) :=
    ((carriedStatements M hnm).block .program hb).first fun _ _ => .pure rfl
  intro c d hcd _ hb
  by_cases hc : c.token = .symbol .lbrace
  · have hd : d.token = .symbol .lbrace := (hcd.token_eq_iff (t := .symbol .lbrace) nofun nofun).mpr hc
    unfold item
    rw [bind_ok (itemPattern_all hc), bind_ok (itemPattern_all hd), check_ite_apply,
      check_ite_apply, if_pos hc, if_pos hd]
    exact hblock .all (by omega) c d hcd trivial hb
  · refine Change.Carries.firstRel (itemPattern_carried hnm h) (fun _ p p' hp => ?_) c d hcd hc hb
    obtain rfl := hp
    refine .check nofun nofun (fun _ => (hblock p (by omega)).weaken.on) ?_
    rw [Pattern.isBegin_renumber, Pattern.isEnd_renumber]
    exact .ite .failExpected (.pure rfl)

/-! Functions. -/

/-- What a change makes of a function: only its place in the text may be another. -/
structure Change.TurnsFunction (M : Change) (f f' : Function) : Prop where
  name : f'.name = f.name
  parameters : f'.parameters = f.parameters
  body : f'.body = f.body
  place : M.Place f.span f'.span

theorem parameters_bind {α : Type} (n : Nat) (before : List Name) (k : List Name → Parser α) :
    (parameters (n + 1) before >>= k) = (do
      match ← token with
      | .ident name =>
        if before.contains name then (do fail (.duplicateParameter name) (← span)) >>= k
        else
          advance
          skipNewlines
          if ← eat (.symbol .comma) then
            skipNewlines
            parameters n (before ++ [name]) >>= k
          else k (before ++ [name])
      | _ => k before) := by
  refine Eq.trans (bind_assoc token _ k) (bind_congr fun t => ?_)
  cases t with
  | ident name =>
    by_cases h : before.contains name = true
    · simp only [if_pos h]
    · simp only [if_neg h, bind_assoc]
      refine bind_congr fun _ => bind_congr fun _ => bind_congr fun comma => ?_
      cases comma with
      | true => exact bind_assoc _ _ _
      | false => exact pure_bind _ _
  | _ => exact pure_bind _ _

/-- Newlines are left out at the end of a parameter list, so it is what comes behind it that tells
whether the lexemes have ended. -/
theorem parameters_carried {α β : Type} {R : α → β → Prop} {k : List Name → Parser α}
    {k' : List Name → Parser β} (hnm : n ≤ m) (h : 32 * b + 1 ≤ n) (before : List Name)
    (hk : ∀ ps, M.Carries anyToken b true R (k ps) (k' ps)) :
    M.Carries anyToken b true R (parameters n before >>= k) (parameters m before >>= k') := by
  induction n generalizing m b before with
  | zero => omega
  | succ n ih =>
    obtain ⟨m, rfl⟩ := Nat.exists_eq_add_of_lt hnm
    rw [parameters_bind, parameters_bind]
    refine .token rfl fun t _ => ?_
    split
    · rename_i name _
      refine .ite (.first (.span fun _ _ hplace => .fail hplace) fun _ ps => ?_) ?_
      · exact ((hk ps).mono (by omega)).weaken
      · refine .advance (.plain rfl) fun _ => .skipNewlines ?_
        refine .eat nofun (.opens rfl (.newlines _) (.newlines _)) (fun _ => .skipNewlines ?_) ?_
        · exact ih (by omega) (by omega) _ fun ps => (hk ps).mono (by omega)
        · exact (hk _).mono (by omega)
    · exact (hk before).on

theorem function_carried (hnm : n ≤ m) (h : 32 * b + 1 ≤ n) :
    M.Carries (· = .keyword .function) b true M.TurnsFunction (function n) (function m) := by
  refine .span fun first first' hfirst => .advance (.plain rfl) fun _ => .token rfl fun t _ => ?_
  have hrest (name : Name) {t : Token} (ht : t.plain = true) :
      M.Carries (· = t) (b - 1) false M.TurnsFunction
        (do
          advance
          expect .lparen
          skipNewlines
          let ps ← parameters n []
          expect .rparen
          skipNewlines
          let b ← block n .routine
          return (⟨name, ps, b, first.merge (← span)⟩ : Function))
        (do
          advance
          expect .lparen
          skipNewlines
          let ps ← parameters m []
          expect .rparen
          skipNewlines
          let b ← block m .routine
          return (⟨name, ps, b, first'.merge (← span)⟩ : Function)) := by
    refine .advance (.plain ht) fun _ => .expect (.plain rfl) fun _ => .skipNewlines ?_
    refine parameters_carried hnm (by omega) [] fun ps => ?_
    refine .expect (.plain rfl) fun _ => .skipNewlines ?_
    refine ((carriedStatements M hnm).block .routine (by omega)).first fun _ body => ?_
    exact .span fun _ _ hlast => .pure ⟨rfl, rfl, rfl, M.merge hfirst hlast⟩
  split
  · exact hrest _ rfl
  · exact hrest _ rfl
  · exact .failExpected

/-! Programs. -/

/-- What a change makes of the items and functions read so far. -/
structure Change.TurnsProgram (M : Change) (p p' : Program) : Prop where
  items : p'.items = p.items.map (Item.renumber M.ranges)
  functions : List.Forall₂ M.TurnsFunction p.functions p'.functions

theorem Change.TurnsFunction.names {l l' : List Function} (h : List.Forall₂ M.TurnsFunction l l') :
    l'.map (·.name) = l.map (·.name) := by
  induction h with
  | nil => rfl
  | cons hf _ ih => rw [List.map_cons, List.map_cons, hf.name, ih]

namespace Change.TurnsProgram

variable {p p' : Program}

theorem names (h : M.TurnsProgram p p') : p'.names = p.names :=
  TurnsFunction.names h.functions

theorem addItem (h : M.TurnsProgram p p') (i : Item) :
    M.TurnsProgram { p with items := p.items ++ [i] }
      { p' with items := p'.items ++ [i.renumber M.ranges] } where
  items := by simp only [h.items, List.map_append, List.map_cons, List.map_nil]
  functions := h.functions

theorem addFunction (h : M.TurnsProgram p p') {f f' : Function} (hf : M.TurnsFunction f f') :
    M.TurnsProgram { p with functions := p.functions ++ [f] }
      { p' with functions := p'.functions ++ [f'] } where
  items := h.items
  functions := List.rel_append h.functions (.cons hf .nil)

end Change.TurnsProgram

/-- Where nothing more comes than before, a change is carried over by the parser of programs. -/
theorem program_carried (hends : ¬ M.goesOn) (hnm : n ≤ m) (h : 32 * b + 16 ≤ n) {p p' : Program}
    (hp : M.TurnsProgram p p') :
    M.Carries anyToken b false
      (fun q q' => M.TurnsProgram q q' ∧ q'.ranges = M.ranges + q.ranges)
      (program n p) (program m p') := by
  induction n generalizing m b p p' with
  | zero => omega
  | succ n ih =>
    obtain ⟨m, rfl⟩ := Nat.exists_eq_add_of_lt hnm
    have hfunction := function_carried (M := M) (n := n) (m := n + m) (b := b) (by omega) (by omega)
    have hitem := item_carried (M := M) (n := n) (m := n + m) (b := b) (by omega) (by omega)
    intro c d hcd _ hb
    have hle := length_skip_le terminates c
    obtain ⟨d₁, turns, -, hd⟩ := hcd.skip fun _ => Change.Carries.plain_of_terminates
    obtain rfl := hd.resolve_right fun hmore => hends hmore.1
    have htoken := turns.token.resolve_right fun hmore => hends hmore.1
    rw [program_succ_apply, program_succ_apply, htoken]
    split
    · exact .ok ⟨⟨hp.items, hp.functions⟩, turns.ranges⟩ turns hle nofun
    · split
      · rename_i hc
        refine (hfunction.firstRel (fun hb f f' hf => ?_) _ _ turns hc (Nat.le_trans hle hb)).before
          hle .inl
        have hsame : (p'.function? f'.name).isSome = (p.function? f.name).isSome := by
          rw [Bool.eq_iff_iff, Program.function?_isSome, Program.function?_isSome, hp.names, hf.name]
        rw [hsame, hf.name]
        exact .ite (.fail hf.place) (ih (by omega) (by omega) (hp.addFunction hf))
      · refine (hitem.firstRel (fun hb i i' hi => ?_) _ _ turns trivial
          (Nat.le_trans hle hb)).before hle .inl
        obtain rfl := hi
        exact ih (by omega) (by omega) (hp.addItem i)

end Parser

end Awk
