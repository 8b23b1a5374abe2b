import Mathlib.Tactic.IntervalCases
import Awk.Records

/-! What the text of bytes is. Whether or not the bytes are well-formed, it is what one pass over them
decodes, so that text can be taken apart where its bytes are: a newline byte ends whatever sequence
is under way and is a newline itself, and no other byte is part of one. -/

namespace Awk

namespace Utf8

variable {b : UInt8} {r s : List UInt8} {c : Char} {n : Nat}

theorem decodeFrom_cons (state : Option Sequence) (b : UInt8) (r : List UInt8) :
    decodeFrom state (b :: r) = (step state b).1 ++ decodeFrom (step state b).2 r := rfl

/-! Encoded characters. -/

theorem start_ascii (h : n ≤ 127) : start (UInt8.ofNat n) = ([Char.ofNat n], none) := by
  have hbyte : (UInt8.ofNat n).toNat = n := by
    rw [UInt8.toNat_ofNat']
    omega
  have hless : UInt8.ofNat n < 0x80 := by
    rw [UInt8.lt_iff_toNat_lt, hbyte]
    exact Nat.lt_succ_of_le h
  rw [start, if_pos hless, hbyte]

theorem start_two (h : 2 ≤ n) (h' : n < 32) :
    start (UInt8.ofNat (n + 192)) = ([], some ⟨n, 1, 0x80, 0xbf⟩) := by
  interval_cases n <;> rfl

theorem start_three (h : n < 16) : start (UInt8.ofNat (n + 224)) =
    ([], some ⟨n, 2, if n = 0 then 0xa0 else 0x80, if n = 13 then 0x9f else 0xbf⟩) := by
  interval_cases n <;> rfl

theorem start_four (h : n < 5) : start (UInt8.ofNat (n + 240)) =
    ([], some ⟨n, 3, if n = 0 then 0x90 else 0x80, if n = 4 then 0x8f else 0xbf⟩) := by
  interval_cases n <;> rfl

/-- A tail byte in the range of the next one adds its bits. -/
theorem step_tail {bits missing : Nat} {low high : UInt8} (h : n < 64) (hlow : low.toNat ≤ n + 128)
    (hhigh : n + 128 ≤ high.toNat) :
    step (some ⟨bits, missing, low, high⟩) (UInt8.ofNat (n + 128)) =
      if missing ≤ 1 then ([Char.ofNat (bits * 64 + n)], none)
      else ([], some ⟨bits * 64 + n, missing - 1, 0x80, 0xbf⟩) := by
  have hbyte : (UInt8.ofNat (n + 128)).toNat = n + 128 := by
    rw [UInt8.toNat_ofNat']
    omega
  have hbits : (n + 128) % 64 = n := by omega
  simp only [step, UInt8.le_iff_toNat_le, hbyte, hlow, hhigh, hbits, decide_true, Bool.and_self,
    if_true]

/-- The last tail byte completes a character, and those before it go on. -/
theorem decodeFrom_last {bits : Nat} {low high : UInt8} (h : n < 64) (hlow : low.toNat ≤ n + 128)
    (hhigh : n + 128 ≤ high.toNat) :
    decodeFrom (some ⟨bits, 1, low, high⟩) (UInt8.ofNat (n + 128) :: r) =
      Char.ofNat (bits * 64 + n) :: decodeFrom none r := by
  rw [decodeFrom_cons, step_tail h hlow hhigh]
  rfl

theorem decodeFrom_tail {bits missing : Nat} {low high : UInt8} (h : n < 64)
    (hlow : low.toNat ≤ n + 128) (hhigh : n + 128 ≤ high.toNat) :
    decodeFrom (some ⟨bits, missing + 2, low, high⟩) (UInt8.ofNat (n + 128) :: r) =
      decodeFrom (some ⟨bits * 64 + n, missing + 1, 0x80, 0xbf⟩) r := by
  rw [decodeFrom_cons, step_tail h hlow hhigh]
  rfl

/-- The bytes of a character are decoded to it. -/
theorem decodeFrom_char (c : Char) (r : List UInt8) :
    decodeFrom none (String.utf8EncodeChar c ++ r) = c :: decodeFrom none r := by
  have hvalid : c.val.toNat < 0xd800 ∨ 0xdfff < c.val.toNat ∧ c.val.toNat < 0x110000 := c.valid
  have hchar : Char.ofNat c.val.toNat = c := Char.ofNat_toNat c
  unfold String.utf8EncodeChar
  dsimp only
  generalize c.val.toNat = v at hvalid hchar ⊢
  split
  · rename_i h
    rw [List.singleton_append, decodeFrom_cons, step, start_ascii h, hchar]
    rfl
  split
  · have hlead : v / 64 % 32 = v / 64 := by omega
    have hbits : v / 64 * 64 + v % 64 = v := by omega
    rw [List.cons_append, List.singleton_append, decodeFrom_cons, step, hlead,
      start_two (by omega) (by omega), List.nil_append,
      decodeFrom_last (by omega) (by simp) (by simp; omega), hbits, hchar]
  split
  · have hlead : v / 4096 % 16 = v / 4096 := by omega
    have hbits : (v / 4096 * 64 + v / 64 % 64) * 64 + v % 64 = v := by omega
    rw [List.cons_append, List.cons_append, List.singleton_append, decodeFrom_cons, step, hlead,
      start_three (by omega), List.nil_append,
      decodeFrom_tail (by omega) (by split <;> simp; omega) (by split <;> simp <;> omega),
      decodeFrom_last (by omega) (by simp) (by simp; omega), hbits, hchar]
  · have hlead : v / 262144 % 8 = v / 262144 := by omega
    have hbits : ((v / 262144 * 64 + v / 4096 % 64) * 64 + v / 64 % 64) * 64 + v % 64 = v := by
      omega
    rw [List.cons_append, List.cons_append, List.cons_append, List.singleton_append,
      decodeFrom_cons, step, hlead, start_four (by omega), List.nil_append,
      decodeFrom_tail (by omega) (by split <;> simp; omega) (by split <;> simp <;> omega),
      decodeFrom_tail (by omega) (by simp) (by simp; omega),
      decodeFrom_last (by omega) (by simp) (by simp; omega), hbits, hchar]

theorem decodeFrom_encoded (cs : List Char) :
    decodeFrom none (cs.flatMap String.utf8EncodeChar) = cs := by
  induction cs with
  | nil => rfl
  | cons c cs ih => rw [List.flatMap_cons, decodeFrom_char, ih]

/-- The text of any bytes is what decoding them one after the other gives. -/
theorem decode_eq (bytes : List UInt8) :
    decode ⟨bytes.toArray⟩ = String.ofList (decodeFrom none bytes) := by
  unfold decode
  split
  · rename_i text hvalid
    unfold String.fromUTF8? at hvalid
    split at hvalid <;> cases hvalid
    rename_i hvalid
    obtain ⟨cs, hcs⟩ := id hvalid
    have htext : String.fromUTF8 ⟨bytes.toArray⟩ hvalid = String.ofList cs :=
      String.toByteArray_inj.mp hcs
    have hencoded : bytes = cs.flatMap String.utf8EncodeChar := by
      simpa [List.utf8Encode] using congrArg (fun b => b.data.toList) hcs
    rw [htext, hencoded, decodeFrom_encoded]
  · rfl

/-! Newlines in text. -/

theorem eq_of_ofNat {c : Char} (h : Char.ofNat n = c) (hc : c ≠ '\x00') : n = c.toNat := by
  subst h
  by_cases hvalid : n.isValidChar
  · have hchar : Char.ofNat n = Char.ofNatAux n hvalid := dif_pos hvalid
    rw [hchar]
    rfl
  · exact absurd (dif_neg hvalid) hc

/-- A sequence under way waits for bytes that are no ASCII, and leads to a character that is none
either: its bits are more than what an ASCII character could have, at the latest with the next
byte. -/
structure Sequence.Proper (p : Sequence) : Prop where
  low : 0x80 ≤ p.low.toNat
  high : p.high.toNat < 0xc0
  bits : 2 ≤ p.bits ∨ 1 < p.missing ∧ 2 ≤ p.bits * 64 + p.low.toNat % 64

/-- No sequence is under way, or a proper one. -/
def Proper (state : Option Sequence) : Prop := ∀ p, state = some p → p.Proper

theorem proper_none : Proper none := by
  intro p hp
  cases hp

theorem proper_of_tail? {low high : UInt8} (h : tail? b = some (n, low, high)) :
    Sequence.Proper ⟨leadBits b n, n, low, high⟩ := by
  have hbyte := b.toNat_lt
  unfold tail? at h
  simp only [UInt8.le_iff_toNat_le, ← UInt8.toNat_inj, Bool.and_eq_true, decide_eq_true_eq,
    UInt8.reduceToNat] at h
  repeat' split at h
  all_goals cases h
  all_goals
    constructor <;> simp only [leadBits, UInt8.reduceToNat]
    all_goals omega

theorem start_proper (b : UInt8) : Proper (start b).2 := by
  intro p hp
  unfold start at hp
  split at hp
  · cases hp
  · split at hp <;> cases hp
    rename_i htail
    exact proper_of_tail? htail

theorem eq_newline_of_start (h : '\n' ∈ (start b).1) : b = Records.newline := by
  unfold start at h
  split at h
  · have hchar : Char.ofNat b.toNat = '\n' := (List.mem_singleton.mp h).symm
    exact UInt8.toNat_inj.mp (eq_of_ofNat hchar (by decide))
  · split at h
    · cases h
    · exact absurd (List.mem_singleton.mp h) (by decide)

/-- A byte takes a proper sequence further, or completes it, or ends it and starts afresh. -/
theorem step_cases {p : Sequence} (hp : p.Proper) (b : UInt8) :
    (∃ q, step (some p) b = ([], some q) ∧ q.Proper) ∨
      (∃ code, 0x80 ≤ code ∧ step (some p) b = ([Char.ofNat code], none)) ∨
      step (some p) b = (replacement :: (start b).1, (start b).2) := by
  by_cases hrange : (p.low ≤ b && b ≤ p.high) = true
  · have hstep : step (some p) b =
        if p.missing ≤ 1 then ([Char.ofNat (p.bits * 64 + b.toNat % 64)], none)
        else ([], some ⟨p.bits * 64 + b.toNat % 64, p.missing - 1, 0x80, 0xbf⟩) := if_pos hrange
    have hlow := hp.low
    have hhigh := hp.high
    have hbits := hp.bits
    simp only [UInt8.le_iff_toNat_le, Bool.and_eq_true, decide_eq_true_eq] at hrange
    by_cases hlast : p.missing ≤ 1
    · right
      left
      exact ⟨_, by omega, hstep.trans (if_pos hlast)⟩
    · left
      have hmore : 2 ≤ p.bits * 64 + b.toNat % 64 := by omega
      refine ⟨_, hstep.trans (if_neg hlast), ?_, ?_, .inl hmore⟩
      · exact le_refl 0x80
      · exact Nat.lt_succ_self 0xbf
  · right
    right
    exact if_neg hrange

theorem step_proper {state : Option Sequence} (h : Proper state) (b : UInt8) :
    Proper (step state b).2 := by
  cases state with
  | none => exact start_proper b
  | some p =>
    obtain ⟨q, hstep, hq⟩ | ⟨code, -, hstep⟩ | hstep := step_cases (h p rfl) b
    · rw [hstep]
      rintro _ ⟨⟩
      exact hq
    · rw [hstep]
      exact proper_none
    · rw [hstep]
      exact start_proper b

theorem eq_newline_of_step {state : Option Sequence} (h : Proper state)
    (hmem : '\n' ∈ (step state b).1) : b = Records.newline := by
  cases state with
  | none => exact eq_newline_of_start hmem
  | some p =>
    obtain ⟨q, hstep, -⟩ | ⟨code, hcode, hstep⟩ | hstep := step_cases (h p rfl) b
    · rw [hstep] at hmem
      cases hmem
    · rw [hstep] at hmem
      have hchar : code = 10 := eq_of_ofNat (List.mem_singleton.mp hmem).symm (by decide)
      omega
    · rw [hstep, List.mem_cons] at hmem
      exact eq_newline_of_start (hmem.resolve_left (by decide))

theorem step_newline {state : Option Sequence} (h : Proper state) :
    step state Records.newline = (decodeFrom state [] ++ ['\n'], none) := by
  cases state with
  | none => rfl
  | some p =>
    have hlow := (h p rfl).low
    have hrange : ¬ (p.low ≤ Records.newline && Records.newline ≤ p.high) = true := by
      simp only [UInt8.le_iff_toNat_le, Bool.and_eq_true, decide_eq_true_eq]
      show ¬ (p.low.toNat ≤ 10 ∧ _)
      omega
    exact if_neg hrange

/-- A newline ends what is under way, and what follows it is decoded on its own. -/
theorem decodeFrom_newline {state : Option Sequence} (h : Proper state) (s r : List UInt8) :
    decodeFrom state (s ++ Records.newline :: r) =
      decodeFrom state s ++ '\n' :: decodeFrom none r := by
  induction s generalizing state with
  | nil =>
    rw [List.nil_append, decodeFrom_cons, step_newline h, List.append_assoc]
    rfl
  | cons b s ih =>
    rw [List.cons_append, decodeFrom_cons, decodeFrom_cons, ih (step_proper h b),
      List.append_assoc]

/-- A newline in the text comes from a newline byte. -/
theorem newline_mem_of_decodeFrom {state : Option Sequence} (h : Proper state)
    (hmem : '\n' ∈ decodeFrom state s) : Records.newline ∈ s := by
  induction s generalizing state with
  | nil =>
    cases state with
    | none => cases hmem
    | some p => exact absurd (List.mem_singleton.mp hmem) (by decide)
  | cons b s ih =>
    rw [decodeFrom_cons, List.mem_append] at hmem
    obtain hfirst | hrest := hmem
    · exact List.mem_cons.mpr (.inl (eq_newline_of_step h hfirst).symm)
    · exact List.mem_cons.mpr (.inr (ih (step_proper h b) hrest))

/-- Where no character comes of a byte, a sequence is under way. -/
theorem isSome_of_step {state : Option Sequence} (h : (step state b).1 = []) :
    (step state b).2.isSome := by
  have hstart (h : (start b).1 = []) : (start b).2.isSome := by
    unfold start at h ⊢
    split
    · rename_i hascii
      rw [if_pos hascii] at h
      cases h
    · rename_i hascii
      rw [if_neg hascii] at h
      split
      · rfl
      · rename_i htail
        rw [htail] at h
        cases h
  cases state with
  | none => exact hstart h
  | some p =>
    unfold step at h ⊢
    dsimp only at h ⊢
    split at h
    · rename_i hrange
      rw [if_pos hrange]
      split at h
      · cases h
      · rename_i hlast
        rw [if_neg hlast]
        rfl
    · cases h

theorem decodeFrom_eq_nil {state : Option Sequence} (h : decodeFrom state s = []) :
    s = [] ∧ state = none := by
  induction s generalizing state with
  | nil =>
    cases state with
    | none => exact ⟨rfl, rfl⟩
    | some p => cases h
  | cons b s ih =>
    rw [decodeFrom_cons, List.append_eq_nil_iff] at h
    have hnone := (ih h.2).2
    have hsome := isSome_of_step h.1
    rw [hnone] at hsome
    cases hsome

end Utf8

namespace Records

variable {s r : Bytes}

theorem toList_textOf (s : Bytes) : (textOf s).toList = Utf8.decodeFrom none s := by
  rw [textOf, Utf8.decode_eq, String.toList_ofList]

@[simp] theorem textOf_eq_empty_iff : textOf s = "" ↔ s = [] := by
  rw [← String.toList_inj, toList_textOf]
  exact ⟨fun h => (Utf8.decodeFrom_eq_nil h).1, fun h => h ▸ rfl⟩

/-- The text of two parts with a newline between them is their texts with a newline between. -/
theorem textOf_newline (s r : Bytes) :
    textOf (s ++ newline :: r) = textOf s ++ "\n" ++ textOf r := by
  rw [← String.toList_inj, String.toList_append, String.toList_append, toList_textOf,
    toList_textOf, toList_textOf, Utf8.decodeFrom_newline Utf8.proper_none, List.append_assoc]
  rfl

theorem newline_mem_of_textOf (h : '\n' ∈ (textOf s).toList) : newline ∈ s := by
  rw [toList_textOf] at h
  exact Utf8.newline_mem_of_decodeFrom Utf8.proper_none h

/-- Lines that are joined have the text of the lines joined. -/
theorem textOf_intercalate (lines : List Bytes) :
    textOf ([newline].intercalate lines) = "\n".intercalate (lines.map textOf) := by
  induction lines with
  | nil => exact textOf_eq_empty_iff.mpr rfl
  | cons line lines ih =>
    cases lines with
    | nil => rw [List.intercalate_singleton, List.map_singleton, String.intercalate_singleton]
    | cons next lines =>
      rw [List.intercalate_cons_cons, List.append_assoc, List.singleton_append, textOf_newline, ih]
      exact String.intercalate_cons_cons.symm

end Records

end Awk
