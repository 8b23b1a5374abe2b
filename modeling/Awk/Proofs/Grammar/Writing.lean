import Awk.Proofs.Grammar.Derivation

/-! The parser writes derivation trees: what each level of the grammar appends to an expression is
the tree that the level derives. -/

namespace Awk.Parser

open Awk.Tree

/-! What operators the tokens of a level stand for. -/

/-- An operator between two operands, of the given precedence. -/
def OfLevel (k : Nat) (o : Operator) : Prop := o.fixity = .between ∧ o.precedence = k

theorem OfLevel.ne_concat {k : Nat} {o : Operator} (h : OfLevel k o) (hk : k ≠ 8) :
    o ≠ .concat := by
  rintro rfl
  exact hk h.2.symm

theorem assignment?_level {t : Token} {o : Operator} (h : assignment? t = some o) :
    OfLevel 1 o := by
  unfold assignment? at h
  split at h <;> cases h <;> exact ⟨rfl, rfl⟩

theorem matching?_level {t : Token} {o : Operator} (h : matching? t = some o) : OfLevel 6 o := by
  unfold matching? at h
  split at h <;> cases h <;> exact ⟨rfl, rfl⟩

theorem comparison?_level {redirects : Bool} {t : Token} {o : Operator}
    (h : comparison? redirects t = some o) : OfLevel 7 o := by
  unfold comparison? at h
  split at h
  case h_6 =>
    split at h <;> cases h
    exact ⟨rfl, rfl⟩
  all_goals cases h <;> exact ⟨rfl, rfl⟩

theorem additive?_level {t : Token} {o : Operator} (h : additive? t = some o) : OfLevel 9 o := by
  unfold additive? at h
  split at h <;> cases h <;> exact ⟨rfl, rfl⟩

theorem multiplicative?_level {t : Token} {o : Operator} (h : multiplicative? t = some o) :
    OfLevel 10 o := by
  unfold multiplicative? at h
  split at h <;> cases h <;> exact ⟨rfl, rfl⟩

/-- The levels from signs down to operands append their trees to any expression. -/
structure Writes (n : Nat) : Prop where
  unary : ∀ e, unaryInto n e = into e <$> unaryTree n
  power : ∀ e, powerInto n e = into e <$> powerTree n
  step : ∀ e, stepInto n e = into e <$> stepTree n
  operand : ∀ e, operandInto n e = (fun r => (into e r.1, r.2)) <$> operandTree n
  stepBefore : ∀ o place e,
    stepBeforeInto n o place e = (fun r => (into e r.1, r.2)) <$> stepBeforeTree n o place

@[simp] theorem map_fail {α β : Type} (f : α → β) (cause : SyntaxCause) (span : Span) :
    f <$> (fail cause span : Parser α) = fail cause span := rfl

@[simp] theorem map_failExpected {α β : Type} (f : α → β) (what : String) :
    f <$> (failExpected what : Parser α) = failExpected what := rfl

@[simp] theorem map_failUnexpected {α β : Type} (f : α → β) :
    f <$> (failUnexpected : Parser α) = failUnexpected := rfl

theorem writes (n : Nat) : Writes n := by
  induction n with
  | zero => exact ⟨fun _ => rfl, fun _ => rfl, fun _ => rfl, fun _ => rfl, fun _ _ _ => rfl⟩
  | succ n ih =>
    refine ⟨fun e => ?_, fun e => ?_, fun e => ?_, fun e => ?_, fun o place e => ?_⟩
    · simp only [unaryInto, unaryTree, map_bind, ih.unary, ih.power]
      refine bind_congr fun t => ?_
      cases sign? t with
      | none => rfl
      | some o => simp [into]
    · simp only [powerInto, powerTree, map_bind, ih.unary, ih.step, bind_map_left]
      refine bind_congr fun t => bind_congr fun found => ?_
      cases found <;> simp [into]
    · simp only [stepInto, stepTree, map_bind, ih.operand, bind_map_left]
      refine bind_congr fun r => bind_congr fun t => ?_
      cases stepAfter? t with
      | none => simp
      | some o => cases r.2 <;> simp [into]
    · simp only [operandInto, operandTree, map_bind, ih.operand, ih.stepBefore, ih.unary,
        bind_map_left]
      refine bind_congr fun place => bind_congr fun t => ?_
      split
      · simp only [map_bind]
        refine bind_congr fun _ => bind_congr fun t => ?_
        cases (stepBefore? t).or (sign? t) <;> simp [into]
      · rfl
      · rfl
      · simp [into]
      · simp [into]
      · simp [into]
      · simp only [map_bind]
        refine bind_congr fun _ => bind_congr fun list => bind_congr fun _ => bind_congr fun _ => ?_
        split
        · simp
        · simp [into]
        · simp only [map_bind]
          refine bind_congr fun found => ?_
          cases found <;> simp [into]
      · simp [into]
      · rename_i name
        simp only [map_bind]
        refine bind_congr fun _ => ?_
        cases Builtin.ofName? name with
        | none =>
          simp only [map_bind]
          refine bind_congr fun found => ?_
          cases found <;> simp [into]
        | some b =>
          simp only [map_bind]
          refine bind_congr fun found => ?_
          cases found with
          | true => simp [into]
          | false => by_cases hb : b = .length <;> simp [hb, into]
      · simp only [map_bind]
        refine bind_congr fun _ => bind_congr fun target => bind_congr fun found => ?_
        cases found <;> simp [into]
      · simp
      · simp
      · simp
      · simp
    · simp only [stepBeforeInto, stepBeforeTree, map_bind, ih.operand, bind_map_left]
      refine bind_congr fun _ => bind_congr fun r => ?_
      cases r.2 with
      | true => simp [into]
      | false => simp

/-! The levels from factors up. From concatenation up an expression has to stand open, for a
`| getline` takes what the level has appended. -/

theorem into_between {o : Operator} (h : o ≠ .concat) (e : Expr) (l r : Tree) :
    into e (.between o l r) = into ((into e l).push (.op o)) r := by
  rw [into, if_neg h]

theorem multiplicativeRest_into (n : Nat) (e : Expr) (l : Tree) :
    multiplicativeRest n (into e l) = into e <$> multiplicativeRestTree n l := by
  induction n generalizing l with
  | zero => rfl
  | succ n ih =>
    simp only [multiplicativeRest, multiplicativeRestTree, map_bind]
    refine bind_congr fun t => ?_
    cases ho : multiplicative? t with
    | none => rfl
    | some o =>
      simp only [map_bind, (writes n).unary, bind_map_left, ← ih,
        into_between ((multiplicative?_level ho).ne_concat (by decide))]

theorem multiplicativeInto_eq (n : Nat) (e : Expr) :
    multiplicativeInto n e = into e <$> multiplicativeTree n := by
  cases n with
  | zero => rfl
  | succ n =>
    simp only [multiplicativeInto, multiplicativeTree, map_bind, (writes n).unary, bind_map_left,
      multiplicativeRest_into]

theorem additiveRest_into (n : Nat) (e : Expr) (l : Tree) :
    additiveRest n (into e l) = into e <$> additiveRestTree n l := by
  induction n generalizing l with
  | zero => rfl
  | succ n ih =>
    simp only [additiveRest, additiveRestTree, map_bind]
    refine bind_congr fun t => ?_
    cases ho : additive? t with
    | none => rfl
    | some o =>
      simp only [map_bind, multiplicativeInto_eq, bind_map_left, ← ih,
        into_between ((additive?_level ho).ne_concat (by decide))]

theorem additiveInto_eq (n : Nat) (e : Expr) : additiveInto n e = into e <$> additiveTree n := by
  cases n with
  | zero => rfl
  | succ n =>
    simp only [additiveInto, additiveTree, map_bind, multiplicativeInto_eq, bind_map_left,
      additiveRest_into]

theorem concatRest_into {e : Expr} (h : e.endsWithValue = false) (n : Nat) (l : Tree) :
    concatRest n e.length (into e l) = into e <$> concatRestTree n l := by
  induction n generalizing l with
  | zero => rfl
  | succ n ih =>
    have hcut : (into e l).drop e.length = l.written ∧ (into e l).take e.length = e := by
      rw [into_eq_append h]
      exact ⟨List.drop_left, List.take_left⟩
    have hread (t : Option (Target Expr)) : Expr.push e (.getline t (.command l.written)) =
        into e (.operand (.getline t (.command l.written))) := rfl
    have hconcat (r : Tree) : into (into e l) r = into e (.between .concat l r) := rfl
    simp only [concatRest, concatRestTree, map_bind, hcut, hread, ih]
    refine bind_congr fun t => bind_congr fun t' => ?_
    split
    · simp only [map_bind]
    · simp only [map_bind]
      refine bind_congr fun t => ?_
      split
      · simp only [map_bind, additiveInto_eq, bind_map_left, hconcat, ih]
      · rfl

theorem concatInto_eq {e : Expr} (h : e.endsWithValue = false) (n : Nat) :
    concatInto n e = into e <$> concatTree n := by
  cases n with
  | zero => rfl
  | succ n =>
    simp only [concatInto, concatTree, map_bind, additiveInto_eq, bind_map_left,
      concatRest_into h]

/-- An operator between operands leaves an expression open. -/
theorem open_between {o : Operator} (h : o.fixity = .between) (e : Expr) :
    (e.push (.op o)).endsWithValue = false := by
  rw [Expr.endsWithValue_push]
  exact Operator.isAfter_eq_false (Operator.fixity_ne h (by decide))

theorem comparisonRest_into (e : Expr) (n : Nat) (l : Tree) :
    comparisonRest n (into e l) = into e <$> comparisonRestTree n l := by
  induction n generalizing l with
  | zero => rfl
  | succ n ih =>
    simp only [comparisonRest, comparisonRestTree, map_bind]
    refine bind_congr fun c => bind_congr fun t => ?_
    cases ho : comparison? c.redirects t with
    | none => rfl
    | some o =>
      have hlevel := comparison?_level ho
      simp only [map_bind, concatInto_eq (open_between hlevel.1 _), bind_map_left, ← ih,
        into_between (hlevel.ne_concat (by decide))]

theorem comparisonInto_eq {e : Expr} (h : e.endsWithValue = false) (n : Nat) :
    comparisonInto n e = into e <$> comparisonTree n := by
  cases n with
  | zero => rfl
  | succ n =>
    simp only [comparisonInto, comparisonTree, map_bind, concatInto_eq h, bind_map_left,
      comparisonRest_into]

theorem matchRest_into (e : Expr) (n : Nat) (l : Tree) :
    matchRest n (into e l) = into e <$> matchRestTree n l := by
  induction n generalizing l with
  | zero => rfl
  | succ n ih =>
    simp only [matchRest, matchRestTree, map_bind]
    refine bind_congr fun t => ?_
    cases ho : matching? t with
    | none => rfl
    | some o =>
      have hlevel := matching?_level ho
      simp only [map_bind, comparisonInto_eq (open_between hlevel.1 _), bind_map_left, ← ih,
        into_between (hlevel.ne_concat (by decide))]

theorem matchInto_eq {e : Expr} (h : e.endsWithValue = false) (n : Nat) :
    matchInto n e = into e <$> matchTree n := by
  cases n with
  | zero => rfl
  | succ n =>
    simp only [matchInto, matchTree, map_bind, comparisonInto_eq h, bind_map_left, matchRest_into]

theorem memRest_into (e : Expr) (n : Nat) (l : Tree) :
    memRest n (into e l) = into e <$> memRestTree n l := by
  induction n generalizing l with
  | zero => rfl
  | succ n ih =>
    have hmem (array : Name) : ((into e l).push (.op .mem)).push (.var array) =
        into e (.between .mem l (.operand (.var array))) := rfl
    simp only [memRest, memRestTree, map_bind]
    refine bind_congr fun found => ?_
    cases found with
    | false => simp
    | true =>
      simp only [if_true, map_bind]
      refine bind_congr fun t => ?_
      cases t with
      | ident array => simp only [map_bind, hmem, ih]
      | _ => rfl

theorem memInto_eq {e : Expr} (h : e.endsWithValue = false) (n : Nat) :
    memInto n e = into e <$> memTree n := by
  cases n with
  | zero => rfl
  | succ n => simp only [memInto, memTree, map_bind, matchInto_eq h, bind_map_left, memRest_into]

/-- An operand that may be skipped is appended as one term. -/
theorem pushLazy_eq (e operand : Expr) : e.pushLazy operand = into e (.lazily operand) := by
  unfold Expr.pushLazy lazily
  split <;> simp_all [into, Expr.lazyTerm]

theorem andRest_into (e : Expr) (n : Nat) (l : Tree) :
    andRest n (into e l) = into e <$> andRestTree n l := by
  induction n generalizing l with
  | zero => rfl
  | succ n ih =>
    have hand (x : Expr) : ((into e l).push (.op .and)).pushLazy x =
        into e (.between .and l (.lazily x)) := pushLazy_eq _ x
    simp only [andRest, andRestTree, map_bind]
    refine bind_congr fun found => ?_
    cases found with
    | false => simp
    | true => simp only [if_true, map_bind, hand, ih]

theorem andInto_eq {e : Expr} (h : e.endsWithValue = false) (n : Nat) :
    andInto n e = into e <$> andTree n := by
  cases n with
  | zero => rfl
  | succ n => simp only [andInto, andTree, map_bind, memInto_eq h, bind_map_left, andRest_into]

theorem orRest_into (e : Expr) (n : Nat) (l : Tree) :
    orRest n (into e l) = into e <$> orRestTree n l := by
  induction n generalizing l with
  | zero => rfl
  | succ n ih =>
    have hor (x : Expr) : ((into e l).push (.op .or)).pushLazy x =
        into e (.between .or l (.lazily x)) := pushLazy_eq _ x
    simp only [orRest, orRestTree, map_bind]
    refine bind_congr fun found => ?_
    cases found with
    | false => simp
    | true => simp only [if_true, map_bind, hor, ih]

theorem orInto_eq {e : Expr} (h : e.endsWithValue = false) (n : Nat) :
    orInto n e = into e <$> orTree n := by
  cases n with
  | zero => rfl
  | succ n => simp only [orInto, orTree, map_bind, andInto_eq h, bind_map_left, orRest_into]

theorem conditionalInto_eq {e : Expr} (h : e.endsWithValue = false) (n : Nat) :
    conditionalInto n e = into e <$> conditionalTree n := by
  cases n with
  | zero => rfl
  | succ n =>
    have hboth (l : Tree) (yes no : Expr) :
        ((((into e l).push (.op .question)).pushLazy yes).push (.op .colon)).pushLazy no =
          into e (.between .colon (.between .question l (.lazily yes)) (.lazily no)) := by
      rw [pushLazy_eq, pushLazy_eq]
      rfl
    simp only [conditionalInto, conditionalTree, map_bind, orInto_eq h, bind_map_left]
    refine bind_congr fun l => bind_congr fun found => ?_
    cases found with
    | false => simp
    | true => simp only [if_true, map_bind, hboth, map_pure]

theorem exprInto_eq {e : Expr} (h : e.endsWithValue = false) (n : Nat) :
    exprInto n e = into e <$> exprTree n := by
  induction n generalizing e with
  | zero => rfl
  | succ n ih =>
    simp only [exprInto, exprTree, map_bind, conditionalInto_eq h, bind_map_left]
    refine bind_congr fun l => bind_congr fun t => ?_
    cases ho : assignment? t with
    | none => rfl
    | some o =>
      have hlevel := assignment?_level ho
      have hbetween (r : Tree) : into ((into e l).push (.op o)) r = into e (.between o l r) :=
        (into_between (hlevel.ne_concat (by decide)) e l r).symm
      simp only [ih (open_between hlevel.1 _), map_eq_pure_bind, bind_assoc, pure_bind,
        hbetween]

end Awk.Parser
