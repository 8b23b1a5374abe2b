import Awk.Proofs.Control.Yields
import Awk.Proofs.Fields.Coherence
import Awk.Proofs.Scope.Readings

/-! `split`. The text and the separator are read before the array is emptied and filled, so that the
elements are the pieces of the text as it was, whatever is shared with the array. -/

namespace Awk

/-! Reading operands. -/

namespace Machine

variable {m m' m'' : Machine}

/-- What an operand reads as. -/
def reading (m : Machine) : Operand → Value
  | .value v => v
  | .null => .empty
  | .place (.scalar x) => m.env.value x
  | .place (.element x key) => m.env.reading x key
  | .place (.field i) => .ofString (m.record.field i)
  | .regex pattern => .ofBool <|
    (Regex.compile? pattern).elim false (·.isMatch m.record.text)

/-- All operands read as they did before, and the variables are where they were. -/
structure Untouched (m m' : Machine) : Prop where
  env : m.env.Untouched m'.env
  record : m'.record = m.record
  faithful : m.regexes.Faithful → m'.regexes.Faithful

namespace Untouched

theorem of_core (hcore : m'.core = m.core) (hm : m.regexes.Faithful → m'.regexes.Faithful) :
    m.Untouched m' := by
  have henv : m'.env = m.env := congrArg Core.env hcore
  refine ⟨?_, congrArg Core.record hcore, hm⟩
  rw [henv]
  exact .refl m.env

theorem refl (m : Machine) : m.Untouched m := .of_core rfl id

theorem trans (h : m.Untouched m') (h' : m'.Untouched m'') : m.Untouched m'' :=
  ⟨h.env.trans h'.env, h'.record.trans h.record, h'.faithful ∘ h.faithful⟩

theorem reading_eq (h : m.Untouched m') (o : Operand) : m'.reading o = m.reading o := by
  cases o with
  | value v => rfl
  | null => rfl
  | place p =>
    cases p with
    | scalar x => exact h.env.value_eq x
    | element x key => exact h.env.reading x key
    | field i =>
      unfold reading
      rw [h.record]
  | regex pattern =>
    unfold reading
    rw [h.record]

end Untouched

theorem regex?_core (pattern : String) (m : Machine) : (regex? pattern m).2.core = m.core := by
  show ((if (m.regexes.get pattern).1.isNone then _ else _ : Act (Option Regex)) _).2.core = _
  split
  · exact report_core _ _
  · rfl

theorem splitText_core (text fs : String) (m : Machine) :
    (splitText text fs m).2.core = m.core := by
  unfold splitText
  cases Separator.simple? fs with
  | some sep => rfl
  | none =>
    dsimp only
    rw [Act.bind_apply]
    cases (regex? fs m).1 <;> exact regex?_core fs m

theorem untouched_regex? (pattern : String) (m : Machine) : m.Untouched (regex? pattern m).2 :=
  .of_core (regex?_core pattern m) (faithful_regex? · pattern)

theorem untouched_splitText (text fs : String) (m : Machine) :
    m.Untouched (splitText text fs m).2 :=
  .of_core (splitText_core text fs m) (faithful_splitText · text fs)

variable (hwf : m.env.WellFormed) (hm : m.regexes.Faithful)

include hwf hm

/-- An operand is evaluated to what it reads as, and nothing is touched. -/
theorem valueOf_spec (o : Operand) :
    (Inner.valueOf o m).1 = m.reading o ∧ m.Untouched (Inner.valueOf o m).2 := by
  cases o with
  | value v => exact ⟨rfl, .refl m⟩
  | null => exact ⟨rfl, .refl m⟩
  | place p =>
    cases p with
    | scalar x => exact ⟨rfl, .refl m⟩
    | element x key =>
      exact ⟨Environment.element_fst hwf x key, .element hwf x key, rfl, id⟩
    | field i => exact ⟨rfl, .refl m⟩
  | regex pattern =>
    have hmatch : isMatch pattern m.record.text m =
        ((regex? pattern m).1.elim false (·.isMatch m.record.text), (regex? pattern m).2) := by
      unfold isMatch
      rw [Act.bind_apply]
      cases (regex? pattern m).1 <;> rfl
    have hvalue : Inner.valueOf (.regex pattern) m =
        (.ofBool (isMatch pattern m.record.text m).1, (isMatch pattern m.record.text m).2) := rfl
    rw [hvalue, hmatch, regex?_fst hm]
    exact ⟨rfl, untouched_regex? pattern m⟩

end Machine

/-! Pieces. -/

namespace Machine

variable {m m' : Machine}

/-- The pieces of a text by a separator as it reads, and by `FS` where there is none. An expression
that is not valid leaves the text whole. -/
def piecesBy (m : Machine) (text : String) : Option Operand → List String
  | none => Separator.divide (m.env.value "FS").text text
  | some (.regex pattern) =>
    (Regex.compile? pattern).elim [text] fun r => (Separator.regex r).split text
  | some o => Separator.divide (m.reading o).text text

theorem Untouched.piecesBy_eq (h : m.Untouched m') (text : String) (separator : Option Operand) :
    m'.piecesBy text separator = m.piecesBy text separator := by
  unfold piecesBy
  split
  · rw [h.env.value_eq]
  · rfl
  · rw [h.reading_eq]

variable (hwf : m.env.WellFormed) (hm : m.regexes.Faithful)

include hwf hm

theorem pieces_spec (text : String) (separator : Option Operand) :
    (Builtin.pieces text separator m).1 = m.piecesBy text separator ∧
      m.Untouched (Builtin.pieces text separator m).2 := by
  have hvalue (o : Operand) :
      (splitText text (Inner.valueOf o m).1.text (Inner.valueOf o m).2).1 =
          Separator.divide (m.reading o).text text ∧
        m.Untouched (splitText text (Inner.valueOf o m).1.text (Inner.valueOf o m).2).2 := by
    obtain ⟨hreads, hread⟩ := valueOf_spec hwf hm o
    rw [hreads]
    exact ⟨splitText_fst (hread.faithful hm) text _, hread.trans (untouched_splitText text _ _)⟩
  cases separator with
  | none => exact ⟨splitText_fst hm text _, untouched_splitText text _ m⟩
  | some o =>
    cases o with
    | value v => exact hvalue (.value v)
    | null => exact hvalue .null
    | place p => exact hvalue (.place p)
    | regex pattern =>
      have hpieces : Builtin.pieces text (some (.regex pattern)) m =
          ((regex? pattern m).1.elim [text] fun r => (Separator.regex r).split text,
            (regex? pattern m).2) := by
        unfold Builtin.pieces
        dsimp only
        rw [Act.bind_apply]
        cases (regex? pattern m).1 <;> rfl
      rw [hpieces, regex?_fst hm]
      exact ⟨rfl, untouched_regex? pattern m⟩

/-- The text and the separator are read, and then the array is filled. -/
theorem splitInto_spec (text : Operand) (array : Name) (separator : Option Operand) :
    ∃ texts m', texts = m.piecesBy (m.reading text).text separator ∧
      Builtin.splitInto (some text) (some (.place (.scalar array))) separator m =
        (.ofNat texts.length, m') ∧
      m.env.Filled m'.env array texts ∧ m'.record = m.record := by
  obtain ⟨hvalue, hread⟩ := valueOf_spec hwf hm text
  obtain ⟨hpieces, hdivided⟩ := pieces_spec (hread.env.wellFormed hwf) (hread.faithful hm)
    (m.reading text).text separator
  have hsplit : Builtin.splitInto (some text) (some (.place (.scalar array))) separator m =
      let divided := Builtin.pieces (m.reading text).text separator (Inner.valueOf text m).2
      (.ofNat divided.1.length, (Builtin.fillArray array divided.1 divided.2).2) := by
    rw [← hvalue]
    rfl
  dsimp only at hsplit
  rw [hpieces, hread.piecesBy_eq] at hsplit
  have htouched := hread.trans hdivided
  exact ⟨_, _, rfl, hsplit, htouched.env.filled <| Environment.filled_modifyElements
    (htouched.env.wellFormed hwf) array fun _ => Elements.lists_insertFrom _, htouched.record⟩

end Machine

/-! The current record. -/

namespace Machine

variable {m m' before : Machine} {line : String}

theorem setRecord_env (line : String) (m : Machine) :
    (setRecord line m).2.env =
      m.env.setValue "NF" (.ofNat (setRecord line m).2.record.fieldCount) := by
  have henv : (splitText line (m.env.value "FS").text m).2.env = m.env :=
    congrArg Core.env (splitText_core line _ m)
  rw [← henv]
  rfl

/-- The record, `FS` and `NF` are what they were when a line was put in place as the record. -/
structure HoldsRecord (m : Machine) (line : String) (before : Machine) : Prop where
  record : m.record = (setRecord line before).2.record
  separator : m.env.value "FS" = before.env.value "FS"
  count : m.env.value "NF" = (setRecord line before).2.env.value "NF"

theorem holdsRecord_setRecord (line : String) (m : Machine) :
    (setRecord line m).2.HoldsRecord line m := by
  refine ⟨rfl, ?_, rfl⟩
  rw [setRecord_env]
  exact Environment.value_setValue_ne _ _ (by decide)

namespace HoldsRecord

variable (h : m.HoldsRecord line before) (hm : before.regexes.Faithful)

include h

theorem count_eq : m.env.value "NF" = .ofNat m.record.fieldCount := by
  rw [h.count, h.record, setRecord_env, Environment.value_setValue_self]

include hm

/-- The record is divided as it was. -/
theorem piecesBy_eq : m.piecesBy m.record.text none = m.record.fields := by
  have hrecord := h.record.trans (setRecord_record hm line)
  unfold piecesBy
  rw [hrecord, h.separator]

end HoldsRecord

end Machine

/-! A call of `split`. -/

open Run in
/-- A call of `split` whose text and separator touch nothing fills the array with the pieces of what
the text reads as before the call by what the separator reads as then, whatever is shared. A text
that reads as the record has its fields for pieces if `FS` is still what divided it. -/
theorem split_fills {m m₁ m₂ : Machine} {text : Expr} (array : Name) {separator : Option Expr}
    {o : Operand} {p : Option Operand} (hwf : m.env.WellFormed) (hm : m.regexes.Faithful)
    (htext : Yields (·.operand text) m o m₁) (hread : m.Untouched m₁)
    (hseparator : Yields (fun self => separator.mapM self.operand) m₁ p m₂)
    (hread' : m₁.Untouched m₂) :
    ∃ texts m', texts = m.piecesBy (m.reading o).text p ∧
      Yields (·.operand [.call (.builtin .split) (text :: [.var array] :: separator.toList)]) m
        (.value (.ofNat texts.length)) m' ∧
      m.env.Filled m'.env array texts ∧ m'.record = m.record ∧
      ∀ line before, before.regexes.Faithful → m.HoldsRecord line before →
        (m.reading o).text = m.record.text → separator = none →
        m'.env.value "NF" = .ofNat texts.length ∧ ∀ i, 1 ≤ i →
          m'.reading (.place (.element array (Int.text (i : Nat)))) =
            m'.reading (.place (.field i)) := by
  have htouched := hread.trans hread'
  obtain ⟨texts, m', htexts, hsplit, hfilled, hrecord⟩ := Machine.splitInto_spec
    (htouched.env.wellFormed hwf) (htouched.faithful hm) o array p
  rw [htouched.piecesBy_eq, htouched.reading_eq] at htexts
  have hfilled' := htouched.env.filled hfilled
  have hrecord' := hrecord.trans htouched.record
  refine ⟨texts, m', htexts, ?_, hfilled', hrecord', ?_⟩
  · cases separator with
    | none =>
      obtain ⟨rfl, rfl⟩ := Inner.yields_mapM_none hseparator
      exact Inner.yields_builtin rfl (Inner.yields_operands_cons htext
        (Inner.yields_operands_cons (Inner.yields_operand_var array _)
          (Inner.yields_operands_nil _))) hsplit
    | some e =>
      obtain ⟨q, hq, rfl⟩ := Inner.yields_mapM_some_iff.mp hseparator
      exact Inner.yields_builtin rfl (Inner.yields_operands_cons htext
        (Inner.yields_operands_cons (Inner.yields_operand_var array _)
          (Inner.yields_operands_cons hq (Inner.yields_operands_nil _)))) hsplit
  · rintro line before hbefore hholds hwhole rfl
    obtain ⟨rfl, -⟩ := Inner.yields_mapM_none hseparator
    have hfields : texts = m.record.fields := by
      rw [htexts, hwhole, hholds.piecesBy_eq hbefore]
    refine ⟨?_, fun i hpos => ?_⟩
    · rw [hfilled'.keeps.value_of_below hfilled'.value, hholds.count_eq, hfields]
      rfl
    · obtain ⟨i, rfl⟩ := Nat.exists_eq_add_of_le' hpos
      show m'.env.reading array _ = .ofString (m'.record.field _)
      rw [hfilled'.reading_self, hrecord', Record.field_succ, hfields]
      rfl

/-- In a call with the global `a` for its parameter `b`. The array has a text and a separator. -/
def sharedArray : Machine :=
  let env := (Machine.idle.env.setElement "a" "x" ⟨"p:q"⟩).setElement "a" "s" ⟨":"⟩
  let passed := env.obtain "a"
  { Machine.idle with env := passed.2.push [("b", .shared passed.1)] }

open Run in
/-- `split(a["x"], b, a["s"])` where `b` is `a`. -/
theorem split_fills_shared :
    sharedArray.env.WellFormed ∧ sharedArray.regexes.Faithful ∧
    Yields (·.operand [.element "a" [[.value ⟨"x"⟩]]]) sharedArray
      (.place (.element "a" "x")) sharedArray ∧
    Yields (·.operand [.element "a" [[.value ⟨"s"⟩]]]) sharedArray
      (.place (.element "a" "s")) sharedArray ∧
    ∃ m', Yields (·.operand [.call (.builtin .split)
          [[.element "a" [[.value ⟨"x"⟩]]], [.var "b"], [.element "a" [[.value ⟨"s"⟩]]]]])
        sharedArray (.value (.ofNat 2)) m' ∧
      (m'.env.contents "a").Lists ["p", "q"] ∧ (m'.env.contents "b").Lists ["p", "q"] := by
  have hwf : sharedArray.env.WellFormed := by decide
  have hm : sharedArray.regexes.Faithful := RegexCache.faithful_empty
  have htext := Inner.yields_operand_element "a" "x" sharedArray
  have hseparator := Inner.yields_operand_element "a" "s" sharedArray
  obtain ⟨texts, m', htexts, hcall, hfilled, -⟩ := split_fills "b" hwf hm htext (.refl _)
    (Inner.yields_mapM_some_iff.mpr ⟨_, hseparator, rfl⟩) (.refl _)
  have hpieces : sharedArray.piecesBy (sharedArray.reading (.place (.element "a" "x"))).text
      (some (.place (.element "a" "s"))) = ["p", "q"] := rfl
  obtain rfl := htexts.trans hpieces
  obtain ⟨i, hi, hlists⟩ := hfilled.lists
  have hshared : sharedArray.env.array? "a" = sharedArray.env.array? "b" := by decide
  obtain ⟨j, hj⟩ := Option.isSome_iff_exists.mp (show (sharedArray.env.array? "b").isSome by decide)
  obtain rfl := Option.some.inj (hi.symm.trans (hfilled.keeps.array? hj))
  have hinside := hlists m'.env.depth
  rw [Environment.below_depth] at hinside
  exact ⟨hwf, hm, htext, hseparator, m', hcall,
    hinside "a" (hfilled.keeps.array? (hshared.trans hj)), hinside "b" hi⟩

end Awk
