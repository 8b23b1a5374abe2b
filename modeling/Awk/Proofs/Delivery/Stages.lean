import Awk.Proofs.Delivery.Due
import Awk.Proofs.Scope.Arrays

/-! How far the main input has come. What has been delivered and what is still ahead are together
all that is due, at every stage of reading. -/

namespace Awk

open Host (Reader Source Streams Disk Location)
open Records (Bytes bytesOf textOf next)

theorem Except.eq_ok_of_toOption {ε α : Type} {x : Except ε α} {a : α} (h : x.toOption = some a) :
    x = .ok a := by
  cases x with
  | error e => cases h
  | ok b =>
    cases h
    rfl

namespace Supply

variable {S : Supply} {d : Disk} {st : Streams} {r : Reader} {name : String} {n : Nat}

/-! What names are read from. -/

/-- What stands for standard input is never a file. -/
theorem standIn_source : (S.standIn?.getD Streams.standardInput).source = .input ∨
    (S.standIn?.getD Streams.standardInput).source = .ended := by
  unfold standIn?
  cases S.stdin with
  | none => exact .inl rfl
  | some text => exact .inr rfl

theorem reader?_standard (h : isStandard name) :
    S.reader? name = some (S.standIn?.getD Streams.standardInput) := if_pos h

theorem exists_reader (h : S.readable name) :
    ∃ r, S.reader? name = some r ∧ r.source ≠ .directory := by
  obtain ⟨r, hr, hsource⟩ := (Option.any_eq_true _ _).mp h
  exact ⟨r, hr, of_decide_eq_true hsource⟩

theorem takesInput_eq (h : S.reader? name = some r) :
    S.takesInput name = decide (r.source = .input) := by
  rw [takesInput, h]
  rfl

theorem records_eq (h : S.reader? name = some r) :
    S.records name = S.split (S.streams.toRead r) := by
  rw [records, h]
  rfl

/-- Where a name leads to what it led to at the start, the same is opened. -/
theorem openFile_eq (hname : ¬ isStandard name) (hr : S.reader? name = some r)
    (hsame : (st.disk.openForReading name).toOption =
      (S.streams.disk.openForReading name).toOption) : st.openFile name = (.ok r, st) := by
  rw [reader?, if_neg hname] at hr
  unfold Streams.openFile at hr ⊢
  cases hlocation : S.streams.disk.openForReading name with
  | error cause =>
    rw [hlocation] at hr
    cases hr
  | ok l =>
    rw [hlocation] at hr hsame
    rw [Except.eq_ok_of_toOption hsame]
    cases l with
    | file n =>
      cases hr
      rfl
    | directory =>
      cases hr
      rfl
    | vacant key =>
      cases hr
      rfl
    | device dev => cases dev <;> cases hr <;> rfl

/-- A file that an operand led to at the start. -/
def Supplies (S : Supply) (n : Nat) : Prop :=
  ∃ o ∈ S.operands, isFile o ∧ !isStandard o ∧ S.streams.disk.openForReading o = .ok (.file n)

/-- Whether a name is opened: an operand, or standard input where no operand is for a file. -/
def Opens (S : Supply) (name : String) : Prop :=
  (name ∈ S.operands ∧ isFile name) ∨ name = "" ∧ ∀ o ∈ S.operands, isFile o = false

theorem Opens.wantsInput (h : S.Opens name) (hinput : S.takesInput name) : S.wantsInput := by
  rw [Supply.wantsInput, Bool.or_eq_true]
  obtain ⟨hmem, hfile⟩ | ⟨rfl, hnone⟩ := h
  · refine .inl (List.any_eq_true.mpr ⟨name, hmem, ?_⟩)
    rw [isInput, hfile, hinput, Bool.or_true]
    rfl
  · have hany : S.operands.any isFile = false := by simpa using hnone
    rw [hany, hinput]
    exact .inr rfl

theorem supplies_of_reader? (hr : S.reader? name = some r) {offset : Nat}
    (hsource : r.source = .file n offset) (hname : S.Opens name) : S.Supplies n := by
  by_cases hstandard : isStandard name
  · rw [reader?_standard hstandard] at hr
    cases hr
    obtain h | h := S.standIn_source <;> rw [h] at hsource <;> cases hsource
  · obtain ⟨hmem, hfile⟩ := hname.resolve_right fun hlast => hstandard (hlast.1 ▸ rfl)
    refine ⟨name, hmem, hfile, by simpa using hstandard, ?_⟩
    rw [reader?, if_neg hstandard] at hr
    unfold Streams.openFile at hr
    cases hlocation : S.streams.disk.openForReading name with
    | error cause =>
      rw [hlocation] at hr
      cases hr
    | ok l =>
      rw [hlocation] at hr
      cases l with
      | file n => cases hr; cases hsource; rfl
      | directory => cases hr; cases hsource
      | vacant key => cases hr; cases hsource
      | device dev => cases dev <;> cases hr <;> cases hsource

theorem SameFiles.bytes (h : S.SameFiles d) (hn : S.Supplies n) :
    d.bytes n = S.streams.disk.bytes n := by
  obtain ⟨o, hmem, hfile, hstandard, hlocation⟩ := hn
  obtain ⟨hopen, hread⟩ := h o hmem hfile hstandard
  rw [hlocation] at hopen
  rw [Disk.read, Disk.read, Except.eq_ok_of_toOption hopen, hlocation] at hread
  exact Option.some.inj hread

/-- What there is to read of what is no standard input depends on the file alone. -/
theorem toRead_eq (h : S.SameFiles st.disk) (hinput : r.source ≠ .input)
    (hfile : ∀ n offset, r.source = .file n offset → S.Supplies n) :
    st.toRead r = S.streams.toRead r := by
  rw [Streams.toRead, if_neg hinput, Streams.toRead, if_neg hinput]
  obtain ⟨buffer, source⟩ := r
  cases source with
  | input => exact absurd rfl hinput
  | ended => rfl
  | blocks => rfl
  | directory => rfl
  | file n offset =>
    show buffer ++ (st.disk.bytes n).drop offset = _
    rw [h.bytes (hfile n offset rfl)]
    rfl

/-! The input that is open. -/

/-- What standard input held at the start. -/
def input (S : Supply) : Bytes := S.streams.inputBuffer ++ S.streams.input

/-- The records that a reader still has, by the files at the start, or by what standard input held
after the last read. -/
structure Leaves (S : Supply) (held : Bytes) (r : Reader) (rs : List Bytes) : Prop where
  readable : r.source ≠ .directory
  file : ∀ n offset, r.source = .file n offset → S.Supplies n
  other : r.source ≠ .input → S.split (S.streams.toRead r) = rs
  input : r.source = .input → S.wantsInput ∧ S.split held = rs

variable {held : Bytes} {rs : List Bytes}

/-- Where nothing has been disturbed, these are the records that there are to read. -/
theorem Leaves.split_eq (h : S.Leaves held r rs) (hfiles : S.SameFiles st.disk)
    (hinput : S.wantsInput → st.inputBuffer ++ st.input = held) : S.split (st.toRead r) = rs := by
  by_cases hsource : r.source = .input
  · obtain ⟨hwants, hrs⟩ := h.input hsource
    rw [Streams.toRead, if_pos hsource, hinput hwants]
    exact hrs
  · rw [toRead_eq hfiles hsource h.file]
    exact h.other hsource

/-- What has just been opened has all its records. -/
theorem leaves_opened (hr : S.reader? name = some r) (hreadable : r.source ≠ .directory)
    (hname : S.Opens name) (hheld : S.takesInput name → held = S.input) :
    S.Leaves held r (S.records name) where
  readable := hreadable
  file n offset hsource := supplies_of_reader? hr hsource hname
  other _ := (records_eq hr).symm
  input hsource := by
    have htakes : S.takesInput name := by
      rw [takesInput_eq hr, hsource]
      rfl
    refine ⟨hname.wantsInput htakes, ?_⟩
    rw [hheld htakes, records_eq hr, Streams.toRead, if_pos hsource]
    rfl

/-- Standard input has not been opened, and holds what it held at the start if it is to be. -/
structure Unopened (S : Supply) (i : MainInput) : Prop where
  stdin : i.stdin = S.standIn?
  closed : ∀ r, i.current = some r → r.source ≠ .input
  held : S.wantsInput → i.held = S.input

theorem Unopened.congr {i i' : MainInput} (h : S.Unopened i) (hstdin : i'.stdin = i.stdin)
    (hcurrent : i'.current = i.current) (hleft : i'.left = i.left) : S.Unopened i' where
  stdin := hstdin.trans h.stdin
  closed := hcurrent ▸ h.closed
  held hwants := by
    rw [MainInput.held, hleft]
    exact h.held hwants

/-- How far the main input has come, after `k` records of which `j` are of the input that is open,
with the records that this one still has. -/
structure Stage (S : Supply) (i : MainInput) (k j : Nat) (rs : List Bytes) : Prop where
  log : i.log.reverse ++ (numbered k j rs ++
    S.due i.used (k + rs.length) (S.operands.drop (i.nextOperand - 1))) = S.deliveries
  left : ∀ r, i.current = some r → S.Leaves i.held r rs
  closed : i.current = none → rs = []
  next : 0 < i.nextOperand
  /-- Standard input has not been opened, or will not be opened again. -/
  fresh : S.Unopened i ∨
    (i.used ∧ ∀ o ∈ S.operands.drop (i.nextOperand - 1), S.isInput o = false)
  unused : i.used = false → ∀ o ∈ S.operands.take (i.nextOperand - 1), isFile o = false
  exhausted : i.exhausted → i.used ∧ S.operands.length < i.nextOperand

namespace Stage

variable {i : MainInput} {k j : Nat}

/-- The log is the start of what is due. -/
theorem log_prefix (h : S.Stage i k j rs) : i.log.reverse <+: S.deliveries := ⟨_, h.log⟩

/-- Where nothing is open and nothing left to open, all has been delivered. -/
theorem log_eq (h : S.Stage i k j rs) (hexhausted : i.exhausted) (hcurrent : i.current = none) :
    i.log.reverse = S.deliveries := by
  obtain ⟨hused, hlength⟩ := h.exhausted hexhausted
  have hlog := h.log
  rw [h.closed hcurrent, List.drop_of_length_le (by omega), due, if_pos hused] at hlog
  simpa [numbered] using hlog

theorem start (S : Supply) : S.Stage (.start S.standIn? S.streams) 0 0 [] where
  log := rfl
  left _ h := nomatch h
  closed _ := rfl
  next := Nat.zero_lt_one
  fresh := .inl ⟨rfl, nofun, fun _ => rfl⟩
  unused _ _ h := nomatch h
  exhausted h := nomatch h

/-- Standard input is opened once, for an operand or where no operand has been opened. -/
theorem fresh_of_mem (h : S.Stage i k j rs) {o : String}
    (ho : o ∈ S.operands.drop (i.nextOperand - 1)) (hinput : S.isInput o) : S.Unopened i :=
  h.fresh.resolve_right fun hlater => Bool.false_ne_true ((hlater.2 o ho).symm.trans hinput)

theorem fresh_of_unused (h : S.Stage i k j rs) (hused : i.used = false) : S.Unopened i :=
  h.fresh.resolve_right fun hlater => Bool.false_ne_true (hused.symm.trans hlater.1)

theorem drop_next (h : S.Stage i k j rs) {o : String} {rest : List String}
    (hahead : S.operands.drop (i.nextOperand - 1) = o :: rest) :
    S.operands.drop (i.nextOperand + 1 - 1) = rest := by
  have hnext : i.nextOperand + 1 - 1 = i.nextOperand - 1 + 1 := by
    have := h.next
    omega
  rw [hnext, ← List.drop_drop, hahead]
  rfl

/-- An operand is passed that opens nothing. -/
theorem pass (h : S.Stage i k j []) (hcurrent : i.current = none) {o : String} (ho : isFile o = false)
    {rest : List String} (hahead : S.operands.drop (i.nextOperand - 1) = o :: rest)
    {log : List Delivery} (hlog : log.reverse ++ S.due i.used k rest = S.deliveries) :
    S.Stage { i with nextOperand := i.nextOperand + 1, log } k j [] where
  log := by
    rw [← hlog, h.drop_next hahead]
    rfl
  left r hr := by rw [hcurrent] at hr; cases hr
  closed _ := rfl
  next := Nat.succ_pos _
  fresh := by
    refine h.fresh.imp (·.congr rfl rfl rfl) fun hlater => ⟨hlater.1, fun x hx => hlater.2 x ?_⟩
    rw [h.drop_next hahead] at hx
    rw [hahead]
    exact List.mem_cons_of_mem o hx
  unused hused := by
    have hnext : i.nextOperand + 1 - 1 = i.nextOperand - 1 + 1 := by
      have := h.next
      omega
    have hpassed : S.operands.take (i.nextOperand - 1 + 1) = S.operands.take (i.nextOperand - 1) ++ [o] := by
      rw [List.take_add, hahead]
      rfl
    show ∀ x ∈ S.operands.take (i.nextOperand + 1 - 1), isFile x = false
    rw [hnext, hpassed]
    intro x hx
    obtain hx | hx := List.mem_append.mp hx
    · exact h.unused hused x hx
    · exact List.mem_singleton.mp hx ▸ ho
  exhausted hexhausted := (h.exhausted hexhausted).imp_right Nat.lt_succ_of_lt

/-- An input is opened, with what is then ahead. -/
theorem opens (h : S.Stage i k j []) {i' : MainInput}
    (hr : S.reader? name = some r) (hreadable : r.source ≠ .directory)
    (hname : S.Opens name)
    (hdue : S.due i.used k (S.operands.drop (i.nextOperand - 1)) =
      .opened name :: (numbered k 0 (S.records name) ++ S.due true (k + (S.records name).length)
        (S.operands.drop (i'.nextOperand - 1))))
    (hlog : i'.log = .opened name :: i.log) (hused : i'.used) (hopen : i'.current = some r)
    (hnext : 0 < i'.nextOperand) (hheld : S.takesInput name → i'.held = S.input)
    (hfresh : S.Unopened i' ∨
      ∀ o ∈ S.operands.drop (i'.nextOperand - 1), S.isInput o = false)
    (hexhausted : i'.exhausted → S.operands.length < i'.nextOperand) :
    S.Stage i' k 0 (S.records name) where
  log := by
    rw [← h.log, hlog, hused, List.reverse_cons, List.append_assoc]
    show _ = i.log.reverse ++ S.due i.used k (S.operands.drop (i.nextOperand - 1))
    rw [hdue]
    rfl
  left r' hr' := by
    cases hopen.symm.trans hr'
    exact leaves_opened hr hreadable hname hheld
  closed hclosed := by
    rw [hopen] at hclosed
    cases hclosed
  next := hnext
  fresh := hfresh.imp_right fun hlater => ⟨hused, hlater⟩
  unused hunused := by
    rw [hused] at hunused
    cases hunused
  exhausted h := ⟨hused, hexhausted h⟩

/-- A record is handed out. -/
theorem record {text : Bytes} (h : S.Stage i k j (text :: rs)) {r r' : Reader} {n p : Value}
    {left : Bytes × Bytes} (hcurrent : i.current = some r) (hsource : r.source.Follows r'.source)
    (hother : r'.source ≠ .input → S.split (S.streams.toRead r') = rs)
    (hinput : r'.source = .input → S.split (left.1 ++ left.2) = rs)
    (hkept : r.source ≠ .input → S.wantsInput → left.1 ++ left.2 = i.held)
    (hn : n = .counted (k + 1)) (hp : p = .counted (j + 1)) :
    S.Stage { i with current := some r', log := .record (textOf text) n p :: i.log, left }
      (k + 1) (j + 1) rs where
  log := by
    rw [← h.log, List.reverse_cons, List.append_assoc, hn, hp, numbered, List.length_cons]
    have hnumber : k + (rs.length + 1) = k + 1 + rs.length := by omega
    rw [hnumber]
    rfl
  left := by
    intro r'' hr''
    cases hr''
    have hleft := h.left r hcurrent
    refine ⟨mt hsource.directory_iff.mp hleft.readable, fun m offset hm => ?_, hother, fun hr => ?_⟩
    · obtain ⟨offset', hm'⟩ := (hm ▸ hsource).exists_file
      exact hleft.file m offset' hm'
    · exact ⟨(hleft.input (hsource.input_iff.mp hr)).1, hinput hr⟩
  closed h := nomatch h
  next := h.next
  fresh := by
    refine h.fresh.imp_left fun hfresh => ⟨hfresh.stdin, fun r₁ hr₁ => ?_, fun hwants => ?_⟩
    · cases hr₁
      exact mt hsource.input_iff.mp (hfresh.closed r hcurrent)
    · exact (hkept (hfresh.closed r hcurrent) hwants).trans (hfresh.held hwants)
  unused := h.unused
  exhausted := h.exhausted

/-- The input that is open has no more records. -/
theorem close (h : S.Stage i k j []) {r : Reader} {left : Bytes × Bytes}
    (hcurrent : i.current = some r)
    (hkept : r.source ≠ .input → S.wantsInput → left.1 ++ left.2 = i.held) :
    S.Stage { i with current := none, left } k j [] where
  log := h.log
  left _ h := nomatch h
  closed _ := rfl
  next := h.next
  fresh := h.fresh.imp_left fun hfresh => ⟨hfresh.stdin, nofun, fun hwants =>
    (hkept (hfresh.closed r hcurrent) hwants).trans (hfresh.held hwants)⟩
  unused := h.unused
  exhausted := h.exhausted

end Stage

end Supply

end Awk
