import Awk.Proofs.Source.Regexes
import Awk.Source.Span

/-! Patterns written as literals. A pattern is made up of ordinary characters, escapes and bracket
expressions; its literal escapes the slashes that stand outside of brackets. Reading the literal
gives the pattern back if no slash in a bracket expression has a character class before it: the
bracket that ends the class is taken for the one that ends the expression. -/

namespace Awk.Literal

/-- What may stand between the brackets of a bracket expression. A range is made up of its ends and
a dash, which are characters or escapes. -/
inductive Member where
  | char (c : Char)
  | escape (c : Char)
  /-- `[:name:]` -/
  | named (name : List Char)
  deriving DecidableEq

namespace Member

def text : Member → List Char
  | char c => [c]
  | escape c => ['\\', c]
  | named name => '[' :: ':' :: (name ++ [':', ']'])

def Valid : Member → Prop
  | char c => c ∉ ['\n', '\\', ']']
  | escape c => c ∉ ['\n', '/']
  | named name => ∀ c ∈ name, c ∉ ['\n', '\\', ']']

instance : DecidablePred Valid
  | char c => inferInstanceAs (Decidable (c ∉ ['\n', '\\', ']']))
  | escape c => inferInstanceAs (Decidable (c ∉ ['\n', '/']))
  | named name => List.decidableBAll (· ∉ ['\n', '\\', ']']) name

def isNamed : Member → Bool
  | named _ => true
  | _ => false

/-- Members as they are written, in a pattern and in a literal. -/
def texts (ms : List Member) : List Char := ms.flatMap text

/-- What stands behind the first character class. -/
def behind (ms : List Member) : List Member := (ms.dropWhile (!·.isNamed)).tail

end Member

/-- A bracket expression. -/
structure Bracket where
  negated : Bool
  /-- Whether a closing bracket is the first of the characters. -/
  closing : Bool
  members : List Member

namespace Bracket

/-- What stands between the opening bracket and the members. -/
def lead (e : Bracket) : List Char :=
  (if e.negated then ['^'] else []) ++ if e.closing then [']'] else []

def text (e : Bracket) : List Char := '[' :: e.lead ++ Member.texts e.members ++ [']']

/-- A bracket expression is not empty, and a caret that stands first in it negates it. -/
structure Valid (e : Bracket) : Prop where
  members : ∀ m ∈ e.members, m.Valid
  nonempty : e.closing = false → e.members ≠ []
  caret : e.negated = false → e.closing = false → e.members.head? ≠ some (.char '^')

instance : DecidablePred Valid := fun e =>
  decidable_of_iff ((∀ m ∈ e.members, m.Valid) ∧ (e.closing = false → e.members ≠ []) ∧
      (e.negated = false → e.closing = false → e.members.head? ≠ some (.char '^')))
    ⟨fun ⟨hmembers, hnonempty, hcaret⟩ => ⟨hmembers, hnonempty, hcaret⟩,
      fun h => ⟨h.members, h.nonempty, h.caret⟩⟩

end Bracket

/-- A part of a pattern. -/
inductive Part where
  | char (c : Char)
  | escape (c : Char)
  | bracket (e : Bracket)

namespace Part

def text : Part → List Char
  | char c => [c]
  | escape c => ['\\', c]
  | bracket e => e.text

/-- The part in a literal, where a slash outside of brackets is escaped. -/
def quoted : Part → List Char
  | char c => if c = '/' then ['\\', '/'] else [c]
  | p => p.text

def Valid : Part → Prop
  | char c => c ∉ ['\n', '\\', '[']
  | escape c => c ∉ ['\n', '/']
  | bracket e => e.Valid

instance : DecidablePred Valid
  | char c => inferInstanceAs (Decidable (c ∉ ['\n', '\\', '[']))
  | escape c => inferInstanceAs (Decidable (c ∉ ['\n', '/']))
  | bracket e => inferInstanceAs (Decidable e.Valid)

/-- Whether a character stands behind a character class in the same brackets. -/
def Hides (c : Char) : Part → Prop
  | bracket e => .char c ∈ Member.behind e.members
  | _ => False

instance (c : Char) : DecidablePred (Hides c)
  | bracket e => inferInstanceAs (Decidable (.char c ∈ Member.behind e.members))
  | char _ => inferInstanceAs (Decidable False)
  | escape _ => inferInstanceAs (Decidable False)

end Part

def patternOf (parts : List Part) : List Char := parts.flatMap Part.text

def literalOf (parts : List Part) : List Char := parts.flatMap Part.quoted

/-- The pattern that stands behind an opening slash, and the bytes up to the closing one and with
it. -/
def scan (s : List Char) : Option (List Char × Nat) :=
  (regexBody? false s).map fun (p, n) => (p, byteCount (s.take n))

variable {body p name : List Char} {ms front mid : List Member} {parts : List Part} {b : Bool}

namespace Member

/-- Before the first character class there is none. -/
theorem exists_behind (ms : List Member) :
    (∀ m ∈ ms, m.isNamed = false) ∧ behind ms = [] ∨
      ∃ front name, ms = front ++ .named name :: behind ms ∧ ∀ m ∈ front, m.isNamed = false := by
  induction ms with
  | nil => exact .inl ⟨nofun, rfl⟩
  | cons m ms ih =>
    cases hm : m.isNamed with
    | true =>
      cases m with
      | named name => exact .inr ⟨[], name, rfl, nofun⟩
      | char _ => cases hm
      | escape _ => cases hm
    | false =>
      have hbehind : behind (m :: ms) = behind ms := by simp [behind, hm]
      rw [hbehind]
      obtain ⟨hms, hnil⟩ | ⟨front, name, hms, hfront⟩ := ih
      · exact .inl ⟨List.forall_mem_cons.mpr ⟨hm, hms⟩, hnil⟩
      · exact .inr ⟨m :: front, name, congrArg (m :: ·) hms,
          List.forall_mem_cons.mpr ⟨hm, hfront⟩⟩

theorem head_texts {m : Member} (h : m.Valid) (ms : List Member) (t : List Char) :
    (texts (m :: ms) ++ t).head? ≠ some ']' ∧
      (m ≠ .char '^' → (texts (m :: ms) ++ t).head? ≠ some '^') := by
  cases m with
  | char c =>
    simp only [Valid, List.mem_cons, List.not_mem_nil, or_false, not_or] at h
    simp [texts, text, h]
  | escape c => simp [texts, text]
  | named name => simp [texts, text]

end Member

namespace Bracket

theorem Valid.lead {e : Bracket} (h : e.Valid) (t : List Char) :
    Lead e.lead (Member.texts e.members ++ t) := by
  have hhead (hclosing : e.closing = false) :
      (Member.texts e.members ++ t).head? ≠ some ']' ∧ (e.negated = false →
        (Member.texts e.members ++ t).head? ≠ some '^') := by
    obtain ⟨m, ms, hms⟩ := List.exists_cons_of_ne_nil (h.nonempty hclosing)
    have hm := Member.head_texts (h.members m (hms ▸ .head _)) ms t
    have hcaret (hnegated : e.negated = false) : m ≠ .char '^' := by
      rintro rfl
      exact h.caret hnegated hclosing (by rw [hms]; rfl)
    rw [hms]
    exact ⟨hm.1, fun hnegated => hm.2 (hcaret hnegated)⟩
  unfold Bracket.lead
  cases hclosing : e.closing with
  | true =>
    cases e.negated with
    | true => exact .both _
    | false => exact .bracket _
  | false =>
    obtain ⟨hclose, hcaret⟩ := hhead hclosing
    cases hnegated : e.negated with
    | true => exact .caret hclose
    | false => exact .none hclose (hcaret hnegated)

end Bracket

/-! What is written for each part. -/

namespace Written

/-- A closing bracket is an ordinary character where there is none to close. -/
theorem close (b : Bool) (h : Written false body p) : Written b (']' :: body) (']' :: p) := by
  cases b with
  | true => exact .closing h
  | false => exact .outside (by decide) h

theorem escaped {c : Char} (hc : c ∉ ['\n', '/']) (h : Written b body p) :
    Written b ('\\' :: c :: body) ('\\' :: c :: p) := by
  simp only [List.mem_cons, List.not_mem_nil, or_false, not_or] at hc
  have hescape := h.escape hc.1
  rwa [if_neg hc.2] at hescape

theorem run {t : List Char} (ht : ∀ c ∈ t, c ∉ ['\n', '\\', ']']) (h : Written true body p) :
    Written true (t ++ body) (t ++ p) := by
  induction t with
  | nil => exact h
  | cons c t ih => exact .inside (ht c (.head _)) (ih fun d hd => ht d (.tail _ hd))

/-- A character class ends brackets, which it opens itself where there are none. -/
theorem named (b : Bool) (hname : (Member.named name).Valid) (h : Written false body p) :
    Written b ((Member.named name).text ++ body) ((Member.named name).text ++ p) := by
  have hrun : Written true (':' :: (name ++ [':']) ++ ']' :: body)
      (':' :: (name ++ [':']) ++ ']' :: p) := by
    refine h.closing.run fun c hc => ?_
    simp only [List.mem_cons, List.mem_append, List.not_mem_nil, or_false] at hc
    obtain rfl | hc | rfl := hc
    · decide
    · exact hname c hc
    · decide
  have htext (r : List Char) : (Member.named name).text ++ r =
      '[' :: (':' :: (name ++ [':']) ++ ']' :: r) := by simp [Member.text]
  rw [htext, htext]
  cases b with
  | true => exact .inside (by decide) hrun
  | false =>
    have hlead : Lead [] (':' :: (name ++ [':']) ++ ']' :: body) := .none (by simp) (by simp)
    have hopening := Written.opening hlead hrun
    exact hopening

theorem unnamed (hvalid : ∀ m ∈ ms, m.Valid) (hms : ∀ m ∈ ms, m.isNamed = false)
    (h : Written true body p) :
    Written true (Member.texts ms ++ body) (Member.texts ms ++ p) := by
  induction ms with
  | nil => exact h
  | cons m ms ih =>
    have hrest := ih (fun n hn => hvalid n (.tail _ hn)) fun n hn => hms n (.tail _ hn)
    have hm := hvalid m (.head _)
    cases m with
    | char c => exact .inside hm hrest
    | escape c => exact hrest.escaped hm
    | named name => exact absurd (hms _ (.head _)) Bool.noConfusion

/-- Behind a character class no brackets are open. -/
theorem behind (hvalid : ∀ m ∈ ms, m.Valid) (hslash : .char '/' ∉ ms) (hopen : .char '[' ∉ ms)
    (h : Written false body p) :
    Written false (Member.texts ms ++ body) (Member.texts ms ++ p) := by
  induction ms with
  | nil => exact h
  | cons m ms ih =>
    have hrest := ih (fun n hn => hvalid n (.tail _ hn)) (fun hs => hslash (.tail _ hs))
      fun ho => hopen (.tail _ ho)
    have hm := hvalid m (.head _)
    cases m with
    | char c =>
      have hs : c ≠ '/' := fun hc => hslash (hc ▸ .head _)
      have ho : c ≠ '[' := fun hc => hopen (hc ▸ .head _)
      simp only [Member.Valid, List.mem_cons, List.not_mem_nil, or_false, not_or] at hm
      exact .outside (by simp [hm, hs, ho]) hrest
    | escape c => exact hrest.escaped hm
    | named name =>
      have hnamed := hrest.named false hm
      rwa [← List.append_assoc, ← List.append_assoc] at hnamed

theorem through (hvalid : ∀ m ∈ front ++ .named name :: mid, m.Valid)
    (hfront : ∀ m ∈ front, m.isNamed = false) (hslash : .char '/' ∉ mid) (hopen : .char '[' ∉ mid)
    (h : Written false body p) :
    Written true (Member.texts (front ++ .named name :: mid) ++ body)
      (Member.texts (front ++ .named name :: mid) ++ p) := by
  obtain ⟨hvfront, hvrest⟩ := List.forall_mem_append.mp hvalid
  obtain ⟨hname, hvmid⟩ := List.forall_mem_cons.mp hvrest
  have hwritten := ((h.behind hvmid hslash hopen).named true hname).unnamed hvfront hfront
  simpa [Member.texts] using hwritten

theorem bracket {e : Bracket} (he : e.Valid) (hslash : ¬(Part.bracket e).Hides '/')
    (hopen : ¬(Part.bracket e).Hides '[') (h : Written false body p) :
    Written false (e.text ++ body) (e.text ++ p) := by
  have hmembers : Written true (Member.texts e.members ++ ']' :: body)
      (Member.texts e.members ++ ']' :: p) := by
    obtain ⟨hms, -⟩ | ⟨front, name, hms, hfront⟩ := Member.exists_behind e.members
    · exact (h.close true).unnamed he.members hms
    · have hvalid := he.members
      rw [hms] at hvalid ⊢
      exact (h.close false).through hvalid hfront hslash hopen
  have hopening := Written.opening (he.lead (']' :: body)) hmembers
  simpa [Bracket.text] using hopening

/-- A pattern is what its literal is read as, up to what follows, if no slash and no opening bracket
stands behind a character class. -/
theorem literal (hvalid : ∀ x ∈ parts, x.Valid) (hslash : ∀ x ∈ parts, ¬x.Hides '/')
    (hopen : ∀ x ∈ parts, ¬x.Hides '[') (h : Written false body p) :
    Written false (literalOf parts ++ body) (patternOf parts ++ p) := by
  induction parts with
  | nil => exact h
  | cons x parts ih =>
    have hrest := ih (fun y hy => hvalid y (.tail _ hy)) (fun y hy => hslash y (.tail _ hy))
      fun y hy => hopen y (.tail _ hy)
    have hx := hvalid x (.head _)
    have hcons : Written false (x.quoted ++ (literalOf parts ++ body))
        (x.text ++ (patternOf parts ++ p)) := by
      cases x with
      | char c =>
        by_cases hc : c = '/'
        · subst hc
          exact hrest.escape (by decide)
        · simp only [Part.quoted, if_neg hc]
          refine .outside ?_ hrest
          simp only [Part.Valid, List.mem_cons, List.not_mem_nil, or_false, not_or] at hx ⊢
          exact ⟨hx.1, hx.2.1, hc, hx.2.2⟩
      | escape c => exact hrest.escaped hx
      | bracket e => exact hrest.bracket hx (hslash _ (.head _)) (hopen _ (.head _))
    simpa [literalOf, patternOf] using hcons

theorem scan (h : Written false body p) (rest : List Char) :
    scan (body ++ '/' :: rest) = some (p, byteCount body + 1) := by
  have htake : (body ++ '/' :: rest).take (body.length + 1) = body ++ ['/'] := by
    rw [List.take_length_add_append]
    rfl
  simp only [Literal.scan, h.regexBody? rest, Option.map_some, htake, byteCount_append]
  rfl

end Written

/-- The first slash behind a character class closes the literal. -/
theorem scan_hides {before after : List Part} {e : Bracket}
    (hvalid : ∀ x ∈ before ++ .bracket e :: after, x.Valid)
    (hslash : ∀ x ∈ before, ¬x.Hides '/')
    (hopen : ∀ x ∈ before ++ .bracket e :: after, ¬x.Hides '[') (he : (Part.bracket e).Hides '/') :
    ∃ front back, e.text = front ++ '/' :: back ∧ ∀ rest,
      scan (literalOf (before ++ .bracket e :: after) ++ '/' :: rest) =
        some (patternOf before ++ front, byteCount (literalOf before ++ front) + 1) := by
  obtain ⟨hvbefore, hvrest⟩ := List.forall_mem_append.mp hvalid
  obtain ⟨hobefore, horest⟩ := List.forall_mem_append.mp hopen
  have hvalid : e.Valid := hvrest _ (.head _)
  have hopen : .char '[' ∉ Member.behind e.members := horest _ (.head _)
  have hmem : .char '/' ∈ Member.behind e.members := he
  obtain ⟨-, hnil⟩ | ⟨front, name, hms, hfront⟩ := Member.exists_behind e.members
  · rw [hnil] at hmem
    cases hmem
  obtain ⟨mid, last, hbehind, hmid⟩ := List.eq_append_cons_of_mem hmem
  rw [hbehind] at hms hopen
  have hmembers : Member.texts e.members =
      Member.texts (front ++ .named name :: mid) ++ '/' :: Member.texts last := by
    rw [hms]
    simp [Member.texts, Member.text]
  have htext : e.text = ('[' :: e.lead ++ Member.texts (front ++ .named name :: mid)) ++
      '/' :: (Member.texts last ++ [']']) := by
    simp [Bracket.text, hmembers]
  have hlead : Lead e.lead (Member.texts (front ++ .named name :: mid)) := by
    have hlead := hvalid.lead []
    rw [List.append_nil, hmembers] at hlead
    exact Lead.append_iff.mp hlead
  have hthrough : Written true (Member.texts (front ++ .named name :: mid))
      (Member.texts (front ++ .named name :: mid)) := by
    have hms' : ∀ m ∈ front ++ .named name :: mid, m.Valid := fun m hm =>
      hvalid.members m (by rw [hms]; simp at hm ⊢; tauto)
    have hdone := Written.done.through hms' hfront hmid fun ho =>
      hopen (List.mem_append_left _ ho)
    rwa [List.append_nil] at hdone
  have hwritten := (Written.opening hlead hthrough).literal hvbefore hslash hobefore
  refine ⟨_, _, htext, fun rest => ?_⟩
  have hscan := hwritten.scan (Member.texts last ++ ']' :: (literalOf after ++ '/' :: rest))
  rw [← hscan]
  congr 1
  simp [literalOf, Part.quoted, Part.text, htext]

/-- A pattern in whose brackets no opening bracket stands behind a character class is read back from
its literal whatever follows, exactly if no slash stands there either. -/
theorem scan_literalOf (hvalid : ∀ x ∈ parts, x.Valid) (hopen : ∀ x ∈ parts, ¬x.Hides '[') :
    (∀ rest, scan (literalOf parts ++ '/' :: rest) =
      some (patternOf parts, byteCount (literalOf parts) + 1)) ↔
        ∀ x ∈ parts, ¬x.Hides '/' := by
  constructor
  · intro hscan x hx hslash
    classical
    obtain ⟨y, hy⟩ := Option.isSome_iff_exists.mp
      (List.find?_isSome (p := fun x : Part => decide (x.Hides '/')).mpr ⟨x, hx, by simpa⟩)
    obtain ⟨hhides, before, after, rfl, hbefore⟩ := List.find?_eq_some_iff_append.mp hy
    simp only [decide_eq_true_eq, Bool.not_eq_eq_eq_not, Bool.not_true,
      decide_eq_false_iff_not] at hhides hbefore
    cases y with
    | char _ => exact hhides
    | escape _ => exact hhides
    | bracket e =>
      obtain ⟨front, back, htext, hcut⟩ := scan_hides hvalid hbefore hopen hhides
      have hsame := Option.some.inj ((hcut []).symm.trans (hscan []))
      have hlength := congrArg (fun r => r.1.length) hsame
      simp [patternOf, Part.text, htext] at hlength
  · intro hslash rest
    have hwritten := Written.done.literal hvalid hslash hopen
    rw [List.append_nil, List.append_nil] at hwritten
    exact hwritten.scan rest

/-- Slashes outside of brackets and in them, and a character class. -/
def slashed : List Part :=
  [.char 'é', .char '/', .bracket ⟨true, true, [.char '/', .char 'a', .char '-', .char 'z',
    .escape ']', .named ['d', 'i', 'g', 'i', 't']]⟩, .escape '.']

/-- A slash behind a character class. -/
def hidden : List Part :=
  [.bracket ⟨false, false, [.named ['d', 'i', 'g', 'i', 't'], .char '/']⟩]

theorem scan_literalOf_slashed :
    (∀ rest, scan ("é\\/[^]/a-z\\][:digit:]]\\.".toList ++ '/' :: rest) =
      some ("é/[^]/a-z\\][:digit:]]\\.".toList, 26)) ∧
    ¬∀ rest, scan ("[[:digit:]/]".toList ++ '/' :: rest) = some ("[[:digit:]/]".toList, 13) := by
  have hslashed :=
    (@scan_literalOf slashed (by decide) (by decide)).mpr (by decide)
  have hhidden :=
    (@scan_literalOf hidden (by decide) (by decide)).not.mpr (by decide)
  exact ⟨hslashed, hhidden⟩

end Awk.Literal
