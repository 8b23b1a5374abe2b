import Awk.Eval.Frame
import Awk.Proofs.Ast.Parts
import Awk.Proofs.Expression.Reduction

/-! What a program may assign to, by its text. The operators of an expression apply to the operands
that precedence gives them, so its tree says which places they may be applied to. -/

namespace Awk

/-- What is assigned to: the scalar or the array of a name, or a field. -/
inductive Site where
  | scalar (name : Name)
  | array (name : Name)
  | field
  deriving DecidableEq

def Place.site : Place → Site
  | scalar name => .scalar name
  | element name _ => .array name
  | field _ => .field

def Target.site : Target Expr → Site
  | var name => .scalar name
  | element name _ => .array name
  | field _ => .field

namespace Delayed

/-- Neither a place nor a group. -/
def isPlain : Delayed → Bool
  | ready (.place _) | group _ => false
  | ready _ => true

end Delayed

namespace Operator

/-- `++` and `--`, on either side. -/
def isStep : Operator → Bool
  | preIncr | preDecr | postIncr | postDecr => true
  | _ => false

end Operator

/-- What an operand may be: a place or a group only where it is written as one. -/
inductive Term.Gives : Term → Delayed → Prop
  | plain {x : Term} {d : Delayed} : d.isPlain → Gives x d
  | scalar (name : Name) : Gives (.var name) (.ready (.place (.scalar name)))
  | element (name : Name) (parts : List Expr) (key : String) :
      Gives (.element name parts) (.ready (.place (.element name key)))
  | group (e : Expr) : Gives (.group e) (.group e)

namespace Reduction

/-- What applying an operator may come to: a place or a group only where it is a field, what is
assigned to, or one of the operands. -/
inductive Gives : Reduction Delayed → Delayed → Prop
  | plain {r : Reduction Delayed} {d : Delayed} : d.isPlain → Gives r d
  | field (i : Delayed) (index : Nat) : Gives (unary .field i) (.ready (.place (.field index)))
  | assigned {o : Operator} (p : Place) (j : Delayed) : o.isAssignment →
      Gives (binary o (.ready (.place p)) j) (.ready (.place p))
  | chosen (i j : Delayed) : Gives (binary .question i j) j
  | yes (i j : Delayed) : Gives (binary .colon i j) i
  | no (i j : Delayed) : Gives (binary .colon i j) j

/-- What applying an operator may assign to. -/
inductive Assigns : Reduction Delayed → Site → Prop
  | assignment {o : Operator} (p : Place) (j : Delayed) : o.isAssignment →
      Assigns (binary o (.ready (.place p)) j) p.site
  | step {o : Operator} (p : Place) : o.isStep → Assigns (unary o (.ready (.place p))) p.site

end Reduction

namespace Tree

/-- What a tree may come to. -/
inductive Leads : Tree → Delayed → Prop
  | operand {x : Term} {d : Delayed} : x.Gives d → Leads (operand x) d
  | before {o : Operator} {t : Tree} {i d : Delayed} : Leads t i → (Reduction.unary o i).Gives d →
      Leads (before o t) d
  | after {o : Operator} {t : Tree} {i d : Delayed} : Leads t i → (Reduction.unary o i).Gives d →
      Leads (after t o) d
  | between {o : Operator} {l r : Tree} {i j d : Delayed} : Leads l i → Leads r j →
      (Reduction.binary o i j).Gives d → Leads (between o l r) d

/-- What the operators of a tree may assign to. -/
inductive Assigns : Tree → Site → Prop
  | before {o : Operator} {t : Tree} {i : Delayed} {s : Site} : t.Leads i →
      (Reduction.unary o i).Assigns s → Assigns (before o t) s
  | after {o : Operator} {t : Tree} {i : Delayed} {s : Site} : t.Leads i →
      (Reduction.unary o i).Assigns s → Assigns (after t o) s
  | between {o : Operator} {l r : Tree} {i j : Delayed} {s : Site} : l.Leads i → r.Leads j →
      (Reduction.binary o i j).Assigns s → Assigns (between o l r) s
  | beforePart {o : Operator} {t : Tree} {s : Site} : Assigns t s → Assigns (before o t) s
  | afterPart {o : Operator} {t : Tree} {s : Site} : Assigns t s → Assigns (after t o) s
  | left {o : Operator} {l r : Tree} {s : Site} : Assigns l s → Assigns (between o l r) s
  | right {o : Operator} {l r : Tree} {s : Site} : Assigns r s → Assigns (between o l r) s

end Tree

/-- The places that an expression may be evaluated to. -/
inductive Expr.Denotes : Expr → Place → Prop
  | place {e : Expr} {t : Tree} {p : Place} : Tree.build e = some t →
      t.Leads (.ready (.place p)) → Denotes e p
  | group {e inner : Expr} {t : Tree} {p : Place} : Tree.build e = some t →
      t.Leads (.group inner) → Denotes inner p → Denotes e p

/-- What a term may assign to apart from the expressions inside of it, where `denotes` says to which
places these may be evaluated. `match` sets `RSTART` and `RLENGTH`; a record from a command counts in
`NR`. -/
inductive Term.Assigns (denotes : Expr → Place → Prop) : Term → Site → Prop
  | substitute {b : Builtin} {parts : List Expr} {e : Expr} {p : Place} : b = .sub ∨ b = .gsub →
      parts[2]? = some e → denotes e p → Assigns denotes (.call (.builtin b) parts) p.site
  | substituteRecord {b : Builtin} {parts : List Expr} : b = .sub ∨ b = .gsub →
      parts[2]? = none → Assigns denotes (.call (.builtin b) parts) .field
  | split {parts : List Expr} {e : Expr} {name : Name} : parts[1]? = some e →
      denotes e (.scalar name) → Assigns denotes (.call (.builtin .split) parts) (.array name)
  | matchStart (parts : List Expr) :
      Assigns denotes (.call (.builtin .matches) parts) (.scalar "RSTART")
  | matchLength (parts : List Expr) :
      Assigns denotes (.call (.builtin .matches) parts) (.scalar "RLENGTH")
  | getline (target : Target Expr) (source : InputSource Expr) :
      Assigns denotes (.getline (some target) source) target.site
  | getlineRecord (source : InputSource Expr) : Assigns denotes (.getline none source) .field
  | getlineCount (target : Option (Target Expr)) (command : Expr) :
      Assigns denotes (.getline target (.command command)) (.scalar "NR")

/-- What an expression may assign to apart from the expressions inside of it. -/
inductive Expr.Assigns : Expr → Site → Prop
  | tree {e : Expr} {t : Tree} {s : Site} : Tree.build e = some t → t.Assigns s → Assigns e s
  | term {e : Expr} {x : Term} {s : Site} : x ∈ e → x.Assigns Expr.Denotes s → Assigns e s

/-- What a statement may assign to apart from its expressions and blocks. -/
inductive Statement.Assigns : Statement → Site → Prop
  | forIn (name array : Name) (body : Block) : Assigns (.forIn name array body) (.scalar name)
  | delete (array : Name) (subscript : Option (List Expr)) :
      Assigns (.delete array subscript) (.array array)

/-- What an expression may assign to, with the expressions inside of it. -/
inductive Expr.AssignsWithin : Expr → Site → Prop
  | here {e : Expr} {s : Site} : e.Assigns s → AssignsWithin e s
  | part {e p : Expr} {x : Term} {s : Site} : x ∈ e → p ∈ x.parts → AssignsWithin p s →
      AssignsWithin e s

/-- What a block may assign to. -/
inductive Block.Assigns : Block → Site → Prop
  | statement {b : Block} {s : Statement} {site : Site} : s ∈ b.statements → s.Assigns site →
      Assigns b site
  | expr {b : Block} {s : Statement} {e : Expr} {site : Site} : s ∈ b.statements → e ∈ s.exprs →
      e.AssignsWithin site → Assigns b site
  | block {b c : Block} {s : Statement} {site : Site} : s ∈ b.statements → c ∈ s.blocks →
      Assigns c site → Assigns b site

/-- What a program may assign to. -/
inductive Program.Assigns (p : Program) : Site → Prop
  | pattern {i : Item} {e : Expr} {site : Site} : i ∈ p.items → e ∈ i.pattern.exprs →
      e.AssignsWithin site → Assigns p site
  | action {i : Item} {site : Site} : i ∈ p.items → i.action.Assigns site → Assigns p site
  | body {f : Function} {site : Site} : f ∈ p.functions → f.body.Assigns site → Assigns p site

/-! The same as equivalences, down to the single terms. -/

theorem Expr.assigns_singleton_iff {x : Term} (hx : ∀ o, x ≠ .op o) {site : Site} :
    Expr.Assigns [x] site ↔ x.Assigns Expr.Denotes site := by
  refine ⟨fun h => ?_, fun h => .term List.mem_cons_self h⟩
  cases h with
  | tree ht hs =>
    have hbuild : Tree.build [x] = some (.operand x) := by
      cases x with
      | op o => exact absurd rfl (hx o)
      | _ => rfl
    cases hbuild.symm.trans ht
    cases hs
  | term hmem hs => exact List.mem_singleton.mp hmem ▸ hs

theorem Expr.assignsWithin_singleton_iff {x : Term} (hx : ∀ o, x ≠ .op o) {site : Site} :
    Expr.AssignsWithin [x] site ↔
      x.Assigns Expr.Denotes site ∨ ∃ p ∈ x.parts, p.AssignsWithin site := by
  constructor
  · intro h
    cases h with
    | here h => exact .inl ((assigns_singleton_iff hx).mp h)
    | part hmem hp h => exact .inr ⟨_, List.mem_singleton.mp hmem ▸ hp, h⟩
  · rintro (h | ⟨p, hp, h⟩)
    · exact .here ((assigns_singleton_iff hx).mpr h)
    · exact .part List.mem_cons_self hp h

/-- A record of the main input that is asked for with a target without subscripts. -/
theorem Expr.assignsWithin_getline_iff {target : Option (Target Expr)} {site : Site}
    (hparts : ∀ t ∈ target, t.parts = []) :
    Expr.AssignsWithin [.getline target .main] site ↔ site = (target.map (·.site)).getD .field := by
  have hno : (Term.getline target .main).parts = [] := by
    cases target with
    | none => rfl
    | some t => simp [Term.parts, InputSource.parts, hparts t rfl]
  rw [assignsWithin_singleton_iff fun _ => Term.noConfusion]
  simp only [hno, List.not_mem_nil, false_and, exists_false, or_false]
  constructor
  · rintro (_ | _) <;> rfl
  · rintro rfl
    cases target with
    | none => exact .getlineRecord _
    | some t => exact .getline t _

/-- Statements without blocks inside of them. -/
theorem Block.assigns_flat_iff {kind : BlockKind} {ss : List Statement}
    (hss : ∀ s ∈ ss, s.blocks = []) {site : Site} : (Block.mk kind ss).Assigns site ↔
      ∃ s ∈ ss, s.Assigns site ∨ ∃ e ∈ s.exprs, e.AssignsWithin site := by
  constructor
  · rintro (⟨hs, h⟩ | ⟨hs, he, h⟩ | ⟨hs, hc, -⟩)
    · exact ⟨_, hs, .inl h⟩
    · exact ⟨_, hs, .inr ⟨_, he, h⟩⟩
    · rw [hss _ hs] at hc
      cases hc
  · rintro ⟨s, hs, h | ⟨e, he, h⟩⟩
    · exact .statement hs h
    · exact .expr hs he h

theorem Program.assigns_iff {p : Program} {site : Site} :
    p.Assigns site ↔ (∃ i ∈ p.items, (∃ e ∈ i.pattern.exprs, e.AssignsWithin site) ∨
      i.action.Assigns site) ∨ ∃ f ∈ p.functions, f.body.Assigns site := by
  constructor
  · rintro (⟨hi, he, h⟩ | ⟨hi, h⟩ | ⟨hf, h⟩)
    · exact .inl ⟨_, hi, .inl ⟨_, he, h⟩⟩
    · exact .inl ⟨_, hi, .inr h⟩
    · exact .inr ⟨_, hf, h⟩
  · rintro (⟨i, hi, ⟨e, he, h⟩ | h⟩ | ⟨f, hf, h⟩)
    · exact .pattern hi he h
    · exact .action hi h
    · exact .body hf h

end Awk
