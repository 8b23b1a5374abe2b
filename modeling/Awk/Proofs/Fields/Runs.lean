import Awk.Separator

/-! Fields by a separator that needs no regular expression: the longest runs of characters that do
not separate, in order. Joining them with a separating character and dividing again gives them
back. -/

namespace Awk.Separator

variable {p : Char → Bool} {c : Char} {s t gap word : List Char} {words : List (List Char)}

theorem stretches_eq_splitOnP (p : Char → Bool) (s : List Char) :
    stretches p s = s.splitOnP p := by
  induction s with
  | nil => rfl
  | cons c s ih =>
    have hcons : stretches p (c :: s) =
        if p c then [] :: stretches p s else extend c (stretches p s) := rfl
    rw [hcons, ih, List.splitOnP_cons_eq_if_modifyHead]
    split
    · rfl
    · obtain ⟨w, ws, hws⟩ := List.exists_cons_of_ne_nil (List.splitOnP_ne_nil p s)
      rw [hws]
      rfl

/-! What a separating character does, and what is left where there is none. -/

/-- No run goes across a separating character. -/
theorem runs_append_cons (h : p c) (s t : List Char) :
    runs p (s ++ c :: t) = runs p s ++ runs p t := by
  simp only [runs, stretches_eq_splitOnP]
  rw [List.splitOnP_append_cons s t h, List.filter_append]

@[simp] theorem runs_nil (p : Char → Bool) : runs p [] = [] := rfl

theorem runs_cons (h : p c) (s : List Char) : runs p (c :: s) = runs p s := runs_append_cons h [] s

theorem runs_gap (h : ∀ c ∈ gap, p c) (s : List Char) : runs p (gap ++ s) = runs p s := by
  induction gap with
  | nil => rfl
  | cons c gap ih =>
    rw [List.cons_append, runs_cons (h c (.head _)), ih fun d hd => h d (.tail _ hd)]

/-- A word: characters that do not separate, one at least. -/
structure Word (p : Char → Bool) (word : List Char) : Prop where
  nonempty : word ≠ []
  unbroken : ∀ c ∈ word, p c = false

theorem runs_word (h : Word p word) : runs p word = [word] := by
  have hsingle : word.splitOnP p = [word] :=
    List.splitOnP_eq_singleton h.unbroken
  rw [runs, stretches_eq_splitOnP, hsingle]
  exact List.filter_eq_self.mpr fun w hw => by
    rw [List.mem_singleton.mp hw, List.isEmpty_eq_false_iff.mpr h.nonempty, Bool.not_false]

/-- A word ends where a separating character stands, or with the text. -/
theorem runs_word_append (h : Word p word) (ht : ∀ c ∈ t.head?, p c) :
    runs p (word ++ t) = word :: runs p t := by
  cases t with
  | nil => rw [List.append_nil, runs_word h, runs_nil]
  | cons c t =>
    have hc := ht c rfl
    rw [runs_append_cons hc, runs_cons hc, runs_word h]
    rfl

theorem filter_gap (h : ∀ c ∈ gap, p c) : gap.filter (!p ·) = [] :=
  List.filter_eq_nil_iff.mpr fun c hc => by simp [h c hc]

theorem Word.filter (h : Word p word) : word.filter (!p ·) = word :=
  List.filter_eq_self.mpr fun c hc => by simp [h.unbroken c hc]

/-! The longest runs, by what they are. -/

/-- The words are all the longest runs of characters that do not separate, in order: between them,
before the first and after the last there is nothing but separating characters, and none of them
goes on. -/
inductive Divided (p : Char → Bool) : List Char → List (List Char) → Prop
  | gap {gap : List Char} : (∀ c ∈ gap, p c) → Divided p gap []
  | word {gap word rest : List Char} {words : List (List Char)} : (∀ c ∈ gap, p c) →
      Word p word → (∀ c ∈ rest.head?, p c) → Divided p rest words →
      Divided p (gap ++ word ++ rest) (word :: words)

namespace Divided

theorem runs_eq (h : Divided p s words) : runs p s = words := by
  induction h with
  | gap hgap =>
    have hrun := runs_gap hgap []
    rwa [List.append_nil] at hrun
  | word hgap hword hrest _ ih =>
    rw [List.append_assoc, runs_gap hgap, runs_word_append hword hrest, ih]

theorem cons (h : Divided p s words) (hc : p c) : Divided p (c :: s) words := by
  have hgap {gap : List Char} (h : ∀ d ∈ gap, p d) : ∀ d ∈ c :: gap, p d :=
    List.forall_mem_cons.mpr ⟨hc, h⟩
  cases h with
  | gap h => exact .gap (hgap h)
  | word h hword hrest hwords => exact .word (hgap h) hword hrest hwords

theorem first (hword : Word p word) (ht : ∀ c ∈ t.head?, p c) (h : Divided p t words) :
    Divided p (word ++ t) (word :: words) :=
  .word (List.forall_mem_nil _) hword ht h

/-- A character that does not separate starts a word, or is put before the first one. -/
theorem exists_cons (h : Divided p s words) (hc : p c = false) :
    ∃ words', Divided p (c :: s) words' := by
  have hsingle : Word p [c] := ⟨List.cons_ne_nil c [], fun d hd => List.mem_singleton.mp hd ▸ hc⟩
  cases h with
  | gap h =>
    exact ⟨[[c]], first hsingle (fun d hd => h d (List.mem_of_mem_head? hd)) (.gap h)⟩
  | @word gap word rest words hgap hword hrest hwords =>
    cases gap with
    | nil =>
      have hlonger : Word p (c :: word) :=
        ⟨List.cons_ne_nil c word, List.forall_mem_cons.mpr ⟨hc, hword.unbroken⟩⟩
      exact ⟨(c :: word) :: words, first hlonger hrest hwords⟩
    | cons d gap =>
      have hd : ∀ e ∈ (d :: gap ++ word ++ rest).head?, p e := fun e he => by
        cases he
        exact hgap d (.head _)
      exact ⟨[c] :: word :: words, first hsingle hd (.word hgap hword hrest hwords)⟩

theorem exists_words (p : Char → Bool) (s : List Char) : ∃ words, Divided p s words := by
  induction s with
  | nil => exact ⟨[], .gap nofun⟩
  | cons c s ih =>
    obtain ⟨words, h⟩ := ih
    cases hc : p c with
    | true => exact ⟨words, h.cons hc⟩
    | false => exact h.exists_cons hc

/-- Together the words are the text without what separates. -/
theorem flatten (h : Divided p s words) : words.flatten = s.filter (!p ·) := by
  induction h with
  | gap hgap => exact (filter_gap hgap).symm
  | word hgap hword _ _ ih =>
    rw [List.flatten_cons, ih, List.filter_append, List.filter_append, filter_gap hgap,
      hword.filter, List.nil_append]

theorem isWord (h : Divided p s words) : ∀ w ∈ words, Word p w := by
  induction h with
  | gap => nofun
  | word _ hword _ _ ih => exact List.forall_mem_cons.mpr ⟨hword, ih⟩

end Divided

/-- The runs of a text are the words it is divided into, and it is divided in no other way. -/
theorem divided_iff : Divided p s words ↔ words = runs p s := by
  refine ⟨fun h => h.runs_eq.symm, ?_⟩
  rintro rfl
  obtain ⟨words, h⟩ := Divided.exists_words p s
  rw [h.runs_eq]
  exact h

theorem divided_runs (p : Char → Bool) (s : List Char) : Divided p s (runs p s) :=
  divided_iff.mpr rfl

/-- Words with a separating character between them are divided into just these. -/
theorem runs_intercalate (hc : p c) (h : ∀ w ∈ words, Word p w) :
    runs p ([c].intercalate words) = words := by
  induction words with
  | nil => rfl
  | cons w words ih =>
    have hw := h w (.head _)
    cases words with
    | nil => rw [List.intercalate_singleton, runs_word hw]
    | cons w' words =>
      rw [List.intercalate_cons_cons, List.append_assoc, List.singleton_append,
        runs_append_cons hc, ih fun v hv => h v (.tail _ hv), runs_word hw]
      rfl

end Awk.Separator
