import Awk.Grammar.Program
import Awk.Proofs.Fields.Runs
import Awk.Proofs.Fields.Splitting

/-! Several subscripts. Their values make one key, with `SUBSEP` between them. Where that is a
character which occurs in none of them, the key tells all of them, and `split` takes it apart. -/

namespace Awk

/-! Keys. -/

namespace Value

/-- The key of values with a text between them. -/
def key (separator : String) (values : List Value) : String :=
  separator.intercalate (values.map (·.text))

/-- A subscript that a character can separate from others: it lacks the character and is not
empty. -/
structure Separable (c : Char) (v : Value) : Prop where
  nonempty : v.text ≠ ""
  lacks : c ∉ v.text.toList

variable {c : Char} {values others : List Value}

theorem Separable.word {v : Value} (h : v.Separable c) :
    Separator.Word (· = c) v.text.toList where
  nonempty := fun hnil => h.nonempty (String.toList_eq_nil_iff.mp hnil)
  unbroken _ hd := decide_eq_false fun heq => h.lacks (heq ▸ hd)

theorem fields_key (h : ∀ v ∈ values, v.Separable c) :
    (Separator.char c).split (key (.singleton c) values) = values.map (·.text) := by
  have hwords : ∀ w ∈ values.map (·.text.toList), Separator.Word (· = c) w := by
    intro w hw
    obtain ⟨v, hv, rfl⟩ := List.mem_map.mp hw
    exact (h v hv).word
  have hkey : (key (.singleton c) values).toList =
      [c].intercalate (values.map (·.text.toList)) := by
    rw [key, String.toList_intercalate, String.toList_singleton, List.map_map]
    rfl
  have hruns := Separator.runs_intercalate (decide_eq_true rfl) hwords
  rw [Separator.split, hkey, Separator.fields, hruns, List.map_map]
  exact List.map_congr_left fun v _ => String.ofList_toList

/-- A separator that is a character, but not one with a meaning of its own, divides a key into the
values. -/
theorem divide_key (hspace : c ≠ ' ') (hescape : c ≠ '\\')
    (h : ∀ v ∈ values, v.Separable c) :
    Separator.divide (.singleton c) (key (.singleton c) values) = values.map (·.text) := by
  have hsimple : Separator.simple? (.singleton c) = some (.char c) := by
    rw [Separator.simple?, String.toList_singleton]
    dsimp only
    rw [if_neg hspace, if_pos hescape]
  rw [Separator.divide, hsimple]
  exact fields_key h

theorem text_injective : Function.Injective Value.text := by
  rintro ⟨s⟩ ⟨t⟩ rfl
  rfl

theorem key_inj (h : ∀ v ∈ values, v.Separable c)
    (h' : ∀ v ∈ others, v.Separable c) :
    key (.singleton c) values = key (.singleton c) others ↔ values = others := by
  refine ⟨fun hkey => ?_, fun heq => heq ▸ rfl⟩
  have hfields := fields_key h
  rw [hkey, fields_key h'] at hfields
  exact (List.map_injective_iff.mpr text_injective hfields).symm

end Value

namespace Machine

/-- The key of subscripts as `SUBSEP` is. -/
def key (m : Machine) (values : List Value) : String :=
  Value.key (m.env.value "SUBSEP").text values

/-- One subscript is its own key, as there is nothing that it is joined with. -/
theorem joinSubscript_eq (values : List Value) (m : Machine) :
    joinSubscript values m = (m.key values, m) := by
  match values with
  | [] => rfl
  | [v] => rfl
  | v :: w :: values => rfl

end Machine

/-! Subscripts in an expression. -/

/-- The operand on the left of `in`. A single expression in parentheses is a group. -/
def subscriptList : List Expr → Term
  | [e] => .group e
  | parts => .subscript parts

/-- `(e₁, …, eₙ) in x`. -/
def membership (parts : List Expr) (x : Name) : Tree :=
  .between .mem (.operand (subscriptList parts)) (.operand (.var x))

example : parse "{ (i, j) in a; (i) in a }" =
    .ok ⟨[⟨.all, .mk .program [.expr (membership [[.var "i"], [.var "j"]] "a").terms,
      .expr (membership [[.var "i"]] "a").terms]⟩], [], 0⟩ := by
  cbv

namespace Inner

open Run

variable {m m₁ m' : Machine} {parts : List Expr} {values : List Value} {v : Value} {e : Expr}

theorem steady_value (e : Expr) : Steady (·.value e) := fun _ _ h => h.value e

theorem steady_values (parts : List Expr) : Steady fun self => Run.collect self.value parts :=
  fun _ _ h => .collect h.value parts

theorem steady_subscriptKey (parts : List Expr) : Steady (·.subscriptKey parts) :=
  fun _ _ h => h.subscriptKey parts

theorem yields_values_singleton_iff :
    Yields (fun self => Run.collect self.value [e]) m values m' ↔
      ∃ v, Yields (·.value e) m v m' ∧ [v] = values :=
  Yields.return_iff (steady_value e)

theorem yields_subscriptKey (h : Yields (fun self => Run.collect self.value parts) m values m') :
    Yields (·.subscriptKey parts) m (m'.key values) m' := by
  have hjoin : (liftM (Machine.joinSubscript values) : Run String) m' = .ok (m'.key values) m' := by
    show (let (r, m) := Machine.joinSubscript values m'; EStateM.Result.ok r m :
      Run.Outcome String) = _
    rw [Machine.joinSubscript_eq]
  exact (Yields.map_iff (steady_values parts)).mpr ⟨values, m', h, hjoin⟩

/-- An element comes to its place once its subscripts are evaluated. -/
theorem yields_element (x : Name)
    (h : Yields (fun self => Run.collect self.value parts) m values m') :
    Yields (·.operand [.element x parts]) m (.place (.element x (m'.key values))) m' := by
  have hplace : Yields (·.operandOf (.element x parts)) m
      (.ready (.place (.element x (m'.key values)))) m' :=
    (Yields.return_iff (steady_subscriptKey parts)).mpr ⟨_, yields_subscriptKey h, rfl⟩
  exact yields_operand_term nofun hplace ⟨0, rfl⟩

/-- What stands on the left of `in` is evaluated at once or when it is forced. -/
theorem yields_mem {l : Term} (x : Name) (hl : ∀ o, l ≠ .op o) {d : Delayed}
    (hd : Yields (·.operandOf l) m d m₁) (hv : Yields (·.force d) m₁ v m') :
    Yields (·.operand (Tree.between .mem (.operand l) (.operand (.var x))).terms) m
      (.value (.ofBool (m'.env.hasElement x v.text))) m' := by
  have hseparated : (Tree.between .mem (.operand l) (.operand (.var x))).Separated :=
    .between rfl (.operand hl) (.operand nofun) nofun nofun
  have happly : Yields (·.algebra.apply (.binary .mem d (.ready (.place (.scalar x))))) m₁
      (.ofValue (.ofBool (m'.env.hasElement x v.text))) m' :=
    (Yields.map_iff (steady_force d)).mpr ⟨v, m', hv, rfl⟩
  have htree : Yields ((Tree.between .mem (.operand l) (.operand (.var x))).evaluate ·.algebra) m
      (.ofValue (.ofBool (m'.env.hasElement x v.text))) m' :=
    (Yields.bind_iff (steady_operandOf l) fun d => steady_apply (.binary .mem d _)).mpr
      ⟨d, m₁, hd, happly⟩
  exact yields_operand_iff.mpr ⟨_, m', (yields_terms_iff hseparated).mpr htree, ⟨0, rfl⟩⟩

theorem yields_membership (x : Name)
    (h : Yields (fun self => Run.collect self.value parts) m values m') :
    Yields (·.operand (membership parts x).terms) m
      (.value (.ofBool (m'.env.hasElement x (m'.key values)))) m' := by
  have hlist (hparts : subscriptList parts = .subscript parts) :
      Yields (·.operand (membership parts x).terms) m
        (.value (.ofBool (m'.env.hasElement x (m'.key values)))) m' := by
    have hkey : Yields (·.operandOf (.subscript parts)) m (.ofValue ⟨m'.key values⟩) m' :=
      (Yields.return_iff (steady_subscriptKey parts)).mpr ⟨_, yields_subscriptKey h, rfl⟩
    rw [membership, hparts]
    exact yields_mem x nofun hkey ⟨0, rfl⟩
  match parts with
  | [] => exact hlist rfl
  | [e] =>
    obtain ⟨v, hv, rfl⟩ := yields_values_singleton_iff.mp h
    exact yields_mem x nofun (l := .group e) ⟨0, rfl⟩ hv
  | _ :: _ :: _ => exact hlist rfl

end Inner

/-! Keys taken apart. -/

section

variable {c : Char} {values : List Value}

/-- The third argument of `split` is `SUBSEP`, which is read when the array is about to be
filled. -/
theorem Machine.splitInto_key {m : Machine} (hspace : c ≠ ' ') (hescape : c ≠ '\\')
    (hvalues : ∀ v ∈ values, v.Separable c) (hwf : m.env.WellFormed)
    (hm : m.regexes.Faithful) (hseparator : (m.env.value "SUBSEP").text = .singleton c)
    {o : Operand} (hkey : (m.reading o).text = m.key values) (array : Name) :
    ∃ m', Builtin.splitInto (some o) (some (.place (.scalar array)))
        (some (.place (.scalar "SUBSEP"))) m = (.ofNat values.length, m') ∧
      m.env.Filled m'.env array (values.map (·.text)) := by
  obtain ⟨texts, m', htexts, hsplit, hfilled, -⟩ :=
    splitInto_spec hwf hm o array (some (.place (.scalar "SUBSEP")))
  have hdivided : texts = values.map (·.text) := by
    rw [htexts, hkey]
    show Separator.divide (m.env.value "SUBSEP").text
      (Value.key (m.env.value "SUBSEP").text values) = _
    rw [hseparator, Value.divide_key hspace hescape hvalues]
  rw [hdivided, List.length_map] at hsplit
  rw [hdivided] at hfilled
  exact ⟨m', hsplit, hfilled⟩

open Run in
/-- Where `SUBSEP` is a character, neither a blank nor a backslash, and the subscripts are texts
without it that are not empty: an element is stored under the key that `in` asks for, different
subscripts have different keys, and `split` by `SUBSEP` fills an array with the subscripts of a
key. -/
theorem subscripts_recovered (hspace : c ≠ ' ') (hescape : c ≠ '\\')
    (hvalues : ∀ v ∈ values, v.Separable c) :
    (∀ parts x m m', (m'.env.value "SUBSEP").text = .singleton c →
      Yields (fun self => Run.collect self.value parts) m values m' →
      ∃ key, key = Value.key (.singleton c) values ∧
        Yields (·.operand [.element x parts]) m (.place (.element x key)) m' ∧
        Yields (·.operand (membership parts x).terms) m
          (.value (.ofBool (m'.env.hasElement x key))) m') ∧
    (∀ others, (∀ v ∈ others, v.Separable c) →
      (Value.key (.singleton c) values = Value.key (.singleton c) others ↔ values = others)) ∧
    ∀ text array m o m₁, m₁.env.WellFormed → m₁.regexes.Faithful →
      (m₁.env.value "SUBSEP").text = .singleton c → Yields (·.operand text) m o m₁ →
      (m₁.reading o).text = Value.key (.singleton c) values →
      ∃ m', Yields (·.operand [.call (.builtin .split) [text, [.var array], [.var "SUBSEP"]]]) m
          (.value (.ofNat values.length)) m' ∧
        (m'.env.contents array).Lists (values.map (·.text)) ∧
        ∀ i (h : i < values.length),
          m'.reading (.place (.element array (Int.text (i + 1 : Nat)))) = values[i] := by
  refine ⟨fun parts x m m' hseparator h => ?_, fun others => Value.key_inj hvalues, ?_⟩
  · have hkey : m'.key values = Value.key (.singleton c) values := by rw [Machine.key, hseparator]
    have helement := Inner.yields_element x h
    have hmember := Inner.yields_membership x h
    rw [hkey] at helement hmember
    exact ⟨_, rfl, helement, hmember⟩
  · intro text array m o m₁ hwf hm hseparator htext hreads
    have hkey : (m₁.reading o).text = m₁.key values := by rw [hreads, Machine.key, hseparator]
    obtain ⟨m', hsplit, hfilled⟩ :=
      Machine.splitInto_key hspace hescape hvalues hwf hm hseparator hkey array
    have hcall : Yields
        (·.operand [.call (.builtin .split) [text, [.var array], [.var "SUBSEP"]]]) m
        (.value (.ofNat values.length)) m' :=
      Inner.yields_builtin rfl (Inner.yields_operands_cons htext
        (Inner.yields_operands_cons (Inner.yields_operand_var array _)
          (Inner.yields_operands_cons (Inner.yields_operand_var "SUBSEP" _)
            (Inner.yields_operands_nil _)))) hsplit
    refine ⟨m', hcall, hfilled.contents_self, fun i hi => ?_⟩
    show m'.env.reading array _ = _
    rw [hfilled.reading_self, List.getD_eq_getElem?_getD, List.getElem?_map,
      List.getElem?_eq_getElem hi]
    rfl

end

open Run in
/-- `a["é", "x y"]` and its key, where `SUBSEP` is what it is at the start. -/
theorem subscripts_recovered_separate :
    ∃ m', Yields (·.operand [.element "a" [[.value ⟨"é"⟩], [.value ⟨"x y"⟩]]]) .idle
        (.place (.element "a" "é\x1cx y")) .idle ∧
      Yields (·.operand [.call (.builtin .split)
        [[.value ⟨"é\x1cx y"⟩], [.var "parts"], [.var "SUBSEP"]]]) .idle (.value (.ofNat 2)) m' ∧
      m'.reading (.place (.element "parts" "2")) = ⟨"x y"⟩ ∧
      Value.key "\x1c" [⟨"é"⟩, ⟨"x y"⟩] ≠ Value.key "\x1c" [⟨"éx"⟩, ⟨"y"⟩] := by
  have hseparator : (Machine.idle.env.value "SUBSEP").text = "\x1c" := by decide +kernel
  have hvalues : ∀ v ∈ [⟨"é"⟩, ⟨"x y"⟩], Value.Separable '\x1c' v := by
    simp only [List.forall_mem_cons]
    exact ⟨⟨by decide, by decide⟩, ⟨by decide, by decide⟩, nofun⟩
  have hothers : ∀ v ∈ [⟨"éx"⟩, ⟨"y"⟩], Value.Separable '\x1c' v := by
    simp only [List.forall_mem_cons]
    exact ⟨⟨by decide, by decide⟩, ⟨by decide, by decide⟩, nofun⟩
  obtain ⟨hkey, hinj, hsplit⟩ := subscripts_recovered (by decide) (by decide) hvalues
  obtain ⟨_, rfl, helement, -⟩ := hkey [[.value ⟨"é"⟩], [.value ⟨"x y"⟩]] "a" .idle .idle hseparator
    ⟨3, rfl⟩
  obtain ⟨m', hcall, -, hparts⟩ := hsplit [.value ⟨"é\x1cx y"⟩] "parts" .idle
    (.value ⟨"é\x1cx y"⟩) .idle (by decide) RegexCache.faithful_empty hseparator ⟨1, rfl⟩ rfl
  exact ⟨m', helement, hcall, hparts 1 (by decide), (hinj _ hothers).not.mpr (by decide)⟩

end Awk
