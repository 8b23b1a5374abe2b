import Awk.Proofs.Number.Counting
import Awk.Proofs.Scope.Levels

/-! What can be read of the variables. Reading makes things: a name that stands for nothing becomes
a global, and an element that is not there is put in its array. Neither shows in what a scalar or
an element reads as. An array that is filled reads as what it is filled with through every name that
shares it, and nothing else is seen to change. -/

namespace Awk

namespace Environment

variable {env env' env'' : Environment} {x y : Name} {key key' : String} {d : Nat}

/-- What an element reads as; empty if there is none. -/
def reading (env : Environment) (x : Name) (key : String) : Value :=
  (env.contents x)[key]?.getD .empty

theorem contents_of_some {v : Variable} (h : env.lookup x = some v) :
    env.contents x = env.elements v.array := by
  unfold contents array?
  rw [h]
  rfl

theorem contents_of_none (h : env.lookup x = none) : env.contents x = ∅ := by
  unfold contents array?
  rw [h]
  rfl

/-! Names that stand for nothing. -/

theorem findIn_drop_eq_none {globals : Scope} {bs : List CallBlock}
    (h : findIn x globals bs = none) (k : Nat) : findIn x globals (bs.drop k) = none := by
  induction bs generalizing k with
  | nil => rwa [List.drop_nil]
  | cons b bs ih =>
    cases k with
    | zero => exact h
    | succ k =>
      rw [findIn_cons, Option.or_eq_none_iff] at h
      exact ih h.2 k

theorem putIn_eq_none {globals : Scope} {bs : List CallBlock} (h : findIn x globals bs = none)
    (v : Variable) : putIn x v bs = none := by
  induction bs with
  | nil => rfl
  | cons b bs ih =>
    rw [findIn_cons, Option.or_eq_none_iff] at h
    rw [putIn_cons, h.1, ih h.2]
    rfl

/-- A name that stands for nothing becomes a global. -/
theorem obtain_of_none_eq (h : env.lookup x = none) :
    env.obtain x = (⟨.empty, env.nextArray⟩, { env with
      globals := env.globals.put x ⟨.empty, env.nextArray⟩, nextArray := env.nextArray + 1 }) := by
  have hput : putIn x ⟨.empty, env.nextArray⟩ env.blocks = none := putIn_eq_none h _
  rw [obtain_of_none h]
  unfold Environment.put
  simp only [fresh, hput]

/-- A new global is empty, so that its scalar is what it was from wherever it is seen. -/
theorem value_below_obtain (env : Environment) (x : Name) (d : Nat) (y : Name) :
    ((env.obtain x).2.below d).value y = (env.below d).value y := by
  cases h : env.lookup x with
  | some v => rw [obtain_of_some h]
  | none =>
    rw [obtain_of_none_eq h]
    have hnone : findIn x env.globals (env.blocks.drop (env.depth - d)) = none :=
      findIn_drop_eq_none h _
    have hlookup := @findIn_put x ⟨.empty, env.nextArray⟩ env.globals _ (putIn_eq_none hnone _) y
    show ((findIn y (env.globals.put x _) (env.blocks.drop (env.depth - d))).map _).getD _ =
      ((findIn y env.globals (env.blocks.drop (env.depth - d))).map _).getD _
    rw [hlookup]
    split
    · rename_i hy
      rw [hy, hnone]
      rfl
    · rfl

theorem value_below_modifyElements (env : Environment) (x : Name) (f : Elements → Elements)
    (d : Nat) (y : Name) : ((env.modifyElements x f).below d).value y = (env.below d).value y :=
  value_below_obtain env x d y

/-! Arrays and their elements. -/

theorem array?_obtain (env : Environment) (x : Name) :
    (env.obtain x).2.array? x = some (env.obtain x).1.array := by
  unfold array?
  rw [lookup_obtain, if_pos rfl]
  rfl

/-- What a new global has for elements has none. -/
theorem contents_obtain (h : env.WellFormed) (x y : Name) :
    (env.obtain x).2.contents y = env.contents y := by
  cases hx : env.lookup x with
  | some v => rw [obtain_of_some hx]
  | none =>
    have hlookup := lookup_obtain env x y
    rw [obtain_of_none_eq hx] at hlookup ⊢
    split at hlookup
    · rename_i hy
      rw [contents_of_some hlookup, hy, contents_of_none hx]
      exact h.elements_unused le_rfl
    · unfold contents array?
      rw [hlookup]
      rfl

theorem element_fst (h : env.WellFormed) (x : Name) (key : String) :
    (env.element x key).1 = env.reading x key := by
  cases hx : env.lookup x with
  | some v => exact (reads_contents (Option.map_eq_some_iff.mpr ⟨v, hx, rfl⟩) key).1
  | none =>
    have hunused : env.elements env.nextArray = ∅ := h.elements_unused le_rfl
    unfold reading element
    rw [contents_of_none hx, obtain_of_none_eq hx]
    dsimp only
    split
    · rename_i a hkey
      have hsome : (env.elements env.nextArray)[key]? = some a := hkey
      rw [hunused] at hsome
      cases hsome
    · rfl

/-- An element that is made reads as it did before. -/
theorem reading_element (h : env.WellFormed) (x : Name) (key : String) (y : Name) (key' : String) :
    (env.element x key).2.reading y key' = env.reading y key' := by
  have hmade := contents_obtain h x
  unfold element
  dsimp only
  generalize env.obtain x = made at hmade ⊢
  obtain ⟨v, env₁⟩ := made
  split
  · unfold reading
    rw [← hmade y]
  · rename_i hkey
    have hnone : (env₁.elements v.array)[key]? = none := hkey
    unfold reading
    rw [← hmade y]
    cases hy : env₁.lookup y with
    | none =>
      rw [contents_of_none hy]
      exact congrArg (fun es : Elements => es[key']?.getD .empty) (contents_of_none hy)
    | some w =>
      have hafter : (env₁.modifyArray v.array (·.insert key .empty)).lookup y = some w := hy
      rw [contents_of_some hy, contents_of_some hafter, elements_modifyArray]
      split
      · rename_i harray
        rw [harray, Std.TreeMap.getElem?_insert]
        split
        · rename_i hsame
          rw [← Std.LawfulEqOrd.eq_of_compare hsame, hnone]
          rfl
        · rfl
      · rfl

/-- Scalars that read the same from everywhere do so from where they are in sight. -/
theorem Keeps.value_of_below (h : env.Keeps env')
    (hvalue : ∀ d x, (env'.below d).value x = (env.below d).value x) (x : Name) :
    env'.value x = env.value x := by
  have hhere := hvalue env.depth x
  rwa [below_depth, ← h.depth, below_depth] at hhere

/-- All scalars and elements read as they did before, and the variables are where they were. -/
structure Untouched (env env' : Environment) : Prop where
  keeps : env.Keeps env'
  wellFormed : env.WellFormed → env'.WellFormed
  value : ∀ d x, (env'.below d).value x = (env.below d).value x
  reading : ∀ x key, env'.reading x key = env.reading x key

namespace Untouched

theorem refl (env : Environment) : env.Untouched env :=
  ⟨.refl env, id, fun _ _ => rfl, fun _ _ => rfl⟩

theorem trans (h : env.Untouched env') (h' : env'.Untouched env'') : env.Untouched env'' where
  keeps := h.keeps.trans h'.keeps
  wellFormed := h'.wellFormed ∘ h.wellFormed
  value d x := (h'.value d x).trans (h.value d x)
  reading x key := (h'.reading x key).trans (h.reading x key)

/-- Reading an element. -/
theorem element (h : env.WellFormed) (x : Name) (key : String) :
    env.Untouched (env.element x key).2 where
  keeps := .element env x key
  wellFormed _ := h.element x key
  value d y := by
    obtain hsame | hsame := element_cases env x key
    · rw [hsame, value_below_obtain]
    · rw [hsame, value_below_modifyElements]
  reading := reading_element h x key

/-- A name that stands for nothing becomes a global. -/
theorem obtain_ (h : env.WellFormed) (x : Name) : env.Untouched (env.obtain x).2 where
  keeps := .obtain_ env x
  wellFormed _ := (h.obtain_ x).1
  value := value_below_obtain env x
  reading y key := by
    unfold Environment.reading
    rw [contents_obtain h]

theorem value_eq (h : env.Untouched env') (x : Name) : env'.value x = env.value x :=
  h.keeps.value_of_below h.value x

end Untouched

end Environment

/-! Arrays that list texts, with the numbers from 1 for keys. -/

theorem digitsValue_text (n : Nat) : digitsValue (Int.text n).toList = n := by
  rw [show (Int.text n).toList = Nat.toDigits 10 n from String.toList_ofList, digitsValue_toDigits]

theorem text_ofNat_inj {i j : Nat} : Int.text i = Int.text j ↔ i = j := by
  refine ⟨fun h => ?_, fun h => h ▸ rfl⟩
  rw [← digitsValue_text i, h, digitsValue_text]

namespace Elements

/-- The elements are the texts, counted from 1, and no others. -/
structure Lists (es : Elements) (texts : List String) : Prop where
  get : ∀ i (h : i < texts.length), es[Int.text (i + 1 : Nat)]? = some ⟨texts[i]⟩
  mem_iff : ∀ key, key ∈ es ↔ ∃ i, 1 ≤ i ∧ i ≤ texts.length ∧ key = Int.text (i : Nat)

/-- Past the texts there is nothing. -/
theorem Lists.getD {es : Elements} {texts : List String} (h : es.Lists texts) (i : Nat) :
    es[Int.text (i + 1 : Nat)]?.getD .empty = ⟨texts.getD i ""⟩ := by
  rw [List.getD_eq_getElem?_getD]
  by_cases hi : i < texts.length
  · rw [h.get i hi, List.getElem?_eq_getElem hi]
    rfl
  · have hnone : Int.text (i + 1 : Nat) ∉ es := by
      rw [h.mem_iff]
      rintro ⟨j, -, hj, hsame⟩
      have := text_ofNat_inj.mp hsame
      omega
    rw [Std.TreeMap.getElem?_eq_none hnone, List.getElem?_eq_none (Nat.le_of_not_lt hi)]
    rfl

/-- Texts put in one after the other, counted from `k`. -/
def insertFrom (k : Nat) (texts : List String) (es : Elements) : Elements :=
  (texts.zipIdx k).foldl (fun es (text, i) => es.insert (Int.text i) ⟨text⟩) es

theorem insertFrom_cons (k : Nat) (text : String) (texts : List String) (es : Elements) :
    insertFrom k (text :: texts) es =
      insertFrom (k + 1) texts (es.insert (Int.text k) ⟨text⟩) := rfl

theorem getElem?_insertFrom_of_ne {k : Nat} {texts : List String} {key : String}
    (h : ∀ i < texts.length, key ≠ Int.text (k + i : Nat)) (es : Elements) :
    (insertFrom k texts es)[key]? = es[key]? := by
  induction texts generalizing k es with
  | nil => rfl
  | cons text texts ih =>
    have hfirst : key ≠ Int.text k := h 0 (Nat.zero_lt_succ _)
    rw [insertFrom_cons, ih, Std.TreeMap.getElem?_insert, if_neg]
    · exact fun hsame => hfirst (Std.LawfulEqOrd.eq_of_compare hsame).symm
    · intro i hi
      rw [Nat.add_right_comm]
      exact h (i + 1) (Nat.succ_lt_succ hi)

theorem getElem?_insertFrom (k : Nat) (texts : List String) (es : Elements) {i : Nat}
    (hi : i < texts.length) :
    (insertFrom k texts es)[Int.text (k + i : Nat)]? = some ⟨texts[i]⟩ := by
  induction texts generalizing k es i with
  | nil => cases hi
  | cons text texts ih =>
    rw [insertFrom_cons]
    cases i with
    | zero =>
      rw [getElem?_insertFrom_of_ne, Std.TreeMap.getElem?_insert, if_pos (by simp)]
      · rfl
      · intro i _ hsame
        have := text_ofNat_inj.mp hsame
        omega
    | succ i =>
      rw [← Nat.add_assoc, Nat.add_right_comm]
      exact ih (k + 1) _ (Nat.lt_of_succ_lt_succ hi)

theorem lists_insertFrom (texts : List String) : Lists (insertFrom 1 texts ∅) texts where
  get i hi := by
    rw [Nat.add_comm]
    exact getElem?_insertFrom 1 texts ∅ hi
  mem_iff key := by
    rw [Std.TreeMap.mem_iff_isSome_getElem?]
    constructor
    · intro hkey
      by_contra hnone
      have hother : ∀ i < texts.length, key ≠ Int.text (1 + i : Nat) := fun i hi hsame =>
        hnone ⟨1 + i, Nat.le_add_right 1 i, by omega, hsame⟩
      rw [getElem?_insertFrom_of_ne hother] at hkey
      cases hkey
    · rintro ⟨i, hpos, hle, rfl⟩
      obtain ⟨i, rfl⟩ := Nat.exists_eq_add_of_le hpos
      rw [getElem?_insertFrom 1 texts ∅ (by omega)]
      rfl

end Elements

/-! The variables after an array has been filled. -/

/-- The array of a name lists the texts for every name that shares it, from wherever that is seen.
The variables are where they were, and neither a scalar nor an element of another array reads as
something else. -/
structure Environment.Filled (env env' : Environment) (x : Name) (texts : List String) : Prop where
  keeps : env.Keeps env'
  lists : ∃ i, env'.array? x = some i ∧
    ∀ d y, (env'.below d).array? y = some i → ((env'.below d).contents y).Lists texts
  value : ∀ d y, (env'.below d).value y = (env.below d).value y
  reading : ∀ y key, env'.array? y ≠ env'.array? x → env'.reading y key = env.reading y key

namespace Environment

variable {env env' : Environment}

theorem Untouched.filled (h : env.Untouched env') {env'' : Environment} {x : Name}
    {texts : List String} (hfilled : env'.Filled env'' x texts) : env.Filled env'' x texts where
  keeps := h.keeps.trans hfilled.keeps
  lists := hfilled.lists
  value d y := (hfilled.value d y).trans (h.value d y)
  reading y key hne := (hfilled.reading y key hne).trans (h.reading y key)

/-- The elements of an array become the texts. -/
theorem filled_of_array? {x : Name} {i : Nat} (hx : env.array? x = some i) {f : Elements → Elements}
    {texts : List String} (hf : ∀ es, (f es).Lists texts) :
    env.Filled (env.modifyArray i f) x texts where
  keeps := .modifyArray env i f
  lists := by
    refine ⟨i, hx, fun d y hy => ?_⟩
    have hcontents := contents_modifyElements hx hy f
    rw [if_pos rfl, modifyElements_of_array? hx] at hcontents
    rw [hcontents]
    exact hf _
  value _ _ := rfl
  reading y key hne := by
    have hsame (y : Name) : (env.modifyArray i f).array? y = env.array? y := rfl
    rw [hsame, hsame, hx] at hne
    unfold reading contents
    rw [hsame]
    cases hy : env.array? y with
    | none => rfl
    | some j =>
      show ((env.modifyArray i f).elements j)[key]?.getD _ = _
      rw [elements_modifyArray, if_neg fun hji => hne (hy.trans (congrArg some hji))]
      rfl

theorem Filled.contents_self {x : Name} {texts : List String} (h : env.Filled env' x texts) :
    (env'.contents x).Lists texts := by
  obtain ⟨array, hx, hlists⟩ := h.lists
  have hcontents := hlists env'.depth x
  rw [below_depth] at hcontents
  exact hcontents hx

theorem Filled.reading_self {x : Name} {texts : List String} (h : env.Filled env' x texts)
    (i : Nat) : env'.reading x (Int.text (i + 1 : Nat)) = ⟨texts.getD i ""⟩ :=
  h.contents_self.getD i

theorem filled_modifyElements (h : env.WellFormed) (x : Name) {f : Elements → Elements}
    {texts : List String} (hf : ∀ es, (f es).Lists texts) :
    env.Filled (env.modifyElements x f) x texts :=
  (Untouched.obtain_ h x).filled (filled_of_array? (array?_obtain env x) hf)

end Environment

end Awk
