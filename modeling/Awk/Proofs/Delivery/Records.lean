import Awk.Proofs.Delivery.Requests

/-! Requests as a whole. A request opens inputs as they are due and hands out the next record, which
is what the log then says; one that finds nothing leaves nothing that is due. -/

namespace Awk

open Machine
open Host (Reader Source Streams Disk)
open Records (Bytes bytesOf textOf next)

namespace MainInput

variable {m m' : Machine} {o : String} {count : Int} {n fuel : Nat}

/-- The records that have been handed out, last first. -/
def handed (i : MainInput) : List Delivery := i.log.filter (·.isRecord)

/-- What assignments among some deliveries, last first, have set a variable to. -/
def assignedTo (x : Name) : List Delivery → Option Value
  | [] => none
  | .assigned y v :: log => if y = x then some v else assignedTo x log
  | .opened _ :: log | .record .. :: log => assignedTo x log

theorem assignedTo_append (x : Name) (new log : List Delivery) :
    assignedTo x (new ++ log) = (assignedTo x new).or (assignedTo x log) := by
  induction new with
  | nil => rfl
  | cons d new ih =>
    cases d with
    | assigned y v =>
      rw [List.cons_append, assignedTo, assignedTo]
      split
      · rfl
      · exact ih
    | opened | record => exact ih

/-- The variables that a request sets on its own, and `NF`, which is the count that it is set to. -/
def requested : List Name := ["FILENAME", "FNR", "NF", "NR"]

theorem value_setValue_requested (env : Environment) {x y : Name} (hx : x ∉ requested)
    (hy : y ∈ requested) (a : Value) : (env.setValue y a).value x = env.value x :=
  Environment.value_setValue_ne _ _ fun h => hx (h ▸ hy)

/-- The assignments that are delivered are carried out, and no others: a variable is what the last
of them has set it to, or else what it was. -/
def Carried (m m' : Machine) : Prop := ∃ new, m'.input.log = new ++ m.input.log ∧
  ∀ x ∉ requested, m'.env.value x = (assignedTo x new).getD (m.env.value x)

namespace Carried

variable {m'' : Machine}

theorem of_log_eq (hlog : m'.input.log = m.input.log) (henv : m'.env = m.env) : Carried m m' :=
  ⟨[], hlog, fun _ _ => henv ▸ rfl⟩

theorem trans (h : Carried m m') (h' : Carried m' m'') : Carried m m'' := by
  obtain ⟨new, hlog, hvalue⟩ := h
  obtain ⟨new', hlog', hvalue'⟩ := h'
  refine ⟨new' ++ new, by rw [hlog', hlog, List.append_assoc], fun x hx => ?_⟩
  rw [hvalue' x hx, hvalue x hx, assignedTo_append]
  cases assignedTo x new' <;> rfl

theorem opened (m : Machine) (i : MainInput) (r : Reader) (name : String)
    (hlog : i.log = m.input.log) : Carried m (opened m i r name) := by
  refine ⟨[.opened name], congrArg (Delivery.opened name :: ·) hlog, fun x hx => ?_⟩
  show ((m.env.setValue "FILENAME" ⟨name⟩).setValue "FNR" (.ofInt 0)).value x = _
  rw [value_setValue_requested _ hx (by decide), value_setValue_requested _ hx (by decide)]
  rfl

end Carried

/-- What opening does: it hands out nothing, and where nothing is opened what is open stays. -/
structure Passes (m m' : Machine) (opened : Bool) : Prop where
  handed : m'.input.handed = m.input.handed
  current : opened = false → m'.input.current = m.input.current
  carried : Carried m m'

namespace Passes

variable {m'' : Machine} {b : Bool}

theorem refl (m : Machine) (b : Bool) : Passes m m b := ⟨rfl, fun _ => rfl, .of_log_eq rfl rfl⟩

theorem trans (h : Passes m m' false) (h' : Passes m' m'' b) : Passes m m'' b :=
  ⟨h'.handed.trans h.handed, fun hb => (h'.current hb).trans (h.current rfl),
    h.carried.trans h'.carried⟩

theorem opened {i : MainInput} (h : i.log = m.input.log) (r : Reader) (name : String) :
    Passes m (opened m i r name) true :=
  ⟨show i.handed = m.input.handed from congrArg (List.filter Delivery.isRecord) h, nofun,
    .opened m i r name h⟩

end Passes

theorem fail_core (f : Host.Failure) (m : Machine) : (fail f m).2.core = m.core :=
  report_core (.io f.name f.cause.message) m

theorem Passes.fail (f : Host.Failure) (m : Machine) : Passes m (fail f m).2 false := by
  have hinput : (MainInput.fail f m).2.input = m.input := congrArg Core.input (fail_core f m)
  exact ⟨hinput ▸ rfl, fun _ => hinput ▸ rfl,
    .of_log_eq (hinput ▸ rfl) (congrArg Core.env (fail_core f m))⟩

theorem useOperand_passes (o : String) (m : Machine) :
    Passes m (useOperand o m).2 (useOperand o m).1 := by
  cases hassignment : assignment? o with
  | some xv =>
    obtain ⟨x, v⟩ := xv
    obtain ⟨-, hinput, -, henv⟩ := assign_scalar_cases x ⟨Literal.unescape v⟩ m
    rw [useOperand_assignment hassignment]
    generalize (assign (.scalar x) ⟨Literal.unescape v⟩ m).2 = m' at hinput henv
    refine ⟨show m'.input.handed = _ from congrArg handed hinput,
      fun _ => show m'.input.current = _ from congrArg current hinput,
      [.assigned x ⟨Literal.unescape v⟩], show _ :: m'.input.log = _ from hinput ▸ rfl,
      fun y hy => ?_⟩
    have hset : m'.env.value y = (m.env.setValue x ⟨Literal.unescape v⟩).value y := by
      obtain henv | ⟨w, -, henv⟩ := henv
      · rw [henv]
      · rw [henv, value_setValue_requested _ hy (by decide)]
    show m'.env.value y =
      (if x = y then some ⟨Literal.unescape v⟩ else none : Option Value).getD (m.env.value y)
    rw [hset, Environment.value_setValue]
    by_cases h : y = x
    · rw [if_pos h, if_pos h.symm]
      rfl
    · rw [if_neg h, if_neg fun hxy => h hxy.symm]
      rfl
  | none =>
    unfold useOperand
    rw [hassignment]
    dsimp only
    by_cases hname : o = "-" || o = "/dev/stdin"
    · rw [if_pos hname]
      exact Passes.opened (i := { m.input with used := true, stdin := none }) rfl
        (m.input.stdin.getD Streams.standardInput) o
    · rw [if_neg hname]
      let m₁ : Machine := { m with input := { m.input with used := true } }
      have hopen : withStreams (·.openFile o) m₁ =
          ((m.streams.openFile o).1, { m₁ with streams := (m.streams.openFile o).2 }) := rfl
      rw [Act.bind_apply, Act.bind_apply,
        show (modifyInput (fun i => { i with used := true }) m).2 = m₁ from rfl, hopen]
      have hmarked : Passes m { m₁ with streams := (m.streams.openFile o).2 } false :=
        ⟨rfl, fun _ => rfl, .of_log_eq rfl rfl⟩
      cases (m.streams.openFile o).1 with
      | ok r => exact hmarked.trans (.opened rfl r o)
      | error cause => exact hmarked.trans (.fail ⟨.open_, o, cause⟩ _)

theorem openLast_passes (m : Machine) :
    Passes m (openLast m).2 (openLast m).1 ∧ (openLast m).2.input.exhausted := by
  by_cases hused : m.input.used
  · rw [openLast_used hused]
    exact ⟨⟨rfl, fun _ => rfl, .of_log_eq rfl rfl⟩, rfl⟩
  · rw [openLast_unused (Bool.eq_false_iff.mpr hused)]
    exact ⟨Passes.opened (i := { m.input with exhausted := true, used := true, stdin := none }) rfl
      (m.input.stdin.getD Streams.standardInput) "", rfl⟩

theorem openBelow_passes {b : Bool} (h : openBelow count n m = .ok b m') :
    Passes m m' b ∧ (b = false → m'.input.exhausted) := by
  induction n generalizing m with
  | zero => cases h
  | succ n ih =>
    by_cases hcount : (m.input.nextOperand : Int) < count
    · have hpassed : Passes m (passed m) false := ⟨rfl, fun _ => rfl, .of_log_eq rfl rfl⟩
      rw [openBelow_next hcount] at h
      cases hoperand : m.env.operand m.input.nextOperand with
      | none =>
        rw [hoperand] at h
        exact (ih h).imp_left hpassed.trans
      | some v =>
        rw [hoperand] at h
        dsimp only at h
        have huse := useOperand_passes v.text (passed m)
        split at h
        · exact (ih h).imp_left hpassed.trans
        · split at h
          · rename_i hopened
            cases h
            rw [hopened] at huse
            exact ⟨hpassed.trans huse, nofun⟩
          · rename_i hopened
            rw [Bool.eq_false_iff.mpr hopened] at huse
            exact (ih h).imp_left (hpassed.trans huse).trans
    · rw [openBelow_last hcount] at h
      cases h
      exact (openLast_passes m).imp_right fun hend _ => hend

theorem openNext_passes {b : Bool} (h : openNext fuel m = .ok b m') :
    Passes m m' b ∧ (b = false → m'.input.exhausted) := by
  by_cases hend : m.input.exhausted
  · rw [openNext_exhausted hend] at h
    cases h
    exact ⟨.refl _ _, fun _ => hend⟩
  · rw [openNext_apply (Bool.eq_false_iff.mpr hend)] at h
    exact openBelow_passes h

/-- A read of the input that is open hands out what it answers; at the end it closes the input. -/
theorem readCurrent_handed (r : Reader) (m : Machine) :
    (readCurrent r m).2.input.handed = ((readCurrent r m).1.map fun text =>
        .record text ((readCurrent r m).2.env.value "NR")
          ((readCurrent r m).2.env.value "FNR")).toList ++ m.input.handed ∧
      Carried m (readCurrent r m).2 := by
  cases hread : m.streams.readRecord r (m.env.value "RS").text with
  | mk result rest =>
    obtain ⟨r', st'⟩ := rest
    cases result with
    | ok found =>
      cases found with
      | some text =>
        rw [readCurrent_some hread]
        refine ⟨rfl, [_], rfl, fun x hx => ?_⟩
        show ((m.env.setValue "NR" _).setValue "FNR" _).value x = _
        rw [value_setValue_requested _ hx (by decide), value_setValue_requested _ hx (by decide)]
        rfl
      | none =>
        rw [readCurrent_none hread]
        exact ⟨rfl, .of_log_eq rfl rfl⟩
    | error cause =>
      let m₁ : Machine := { m with
        streams := st'
        input := { m.input with current := none, left := (st'.inputBuffer, st'.input) } }
      have hrun : readCurrent r m =
          (none, (fail ⟨.read, (m.env.value "FILENAME").text, cause⟩ m₁).2) := by
        rw [readCurrent, Act.bind_apply, Act.bind_apply]
        rw [show scalar "RS" m = (m.env.value "RS", m) from rfl, withStreams_read hread]
        rfl
      have hfail := Passes.fail ⟨.read, (m.env.value "FILENAME").text, cause⟩ m₁
      rw [hrun]
      exact ⟨hfail.handed, hfail.carried⟩

/-- What a request answers is what the log says to have been handed out, with `NR` and `FNR` as they
then are; one that finds nothing leaves nothing open and nothing to open; and the assignments that
it delivers are carried out. -/
theorem nextRecord_handed {record : Option String} (h : nextRecord fuel n m = .ok record m') :
    m'.input.handed = (record.map fun text =>
        .record text (m'.env.value "NR") (m'.env.value "FNR")).toList ++ m.input.handed ∧
      (record = none → m'.input.exhausted ∧ m'.input.current = none) ∧ Carried m m' := by
  induction n generalizing m with
  | zero => cases h
  | succ n ih =>
    cases hcurrent : m.input.current with
    | none =>
      rw [nextRecord_closed hcurrent] at h
      obtain ⟨b, m₁, hopen, hrest⟩ := Run.bind_eq_ok h
      obtain ⟨hpasses, hend⟩ := openNext_passes hopen
      cases b with
      | true =>
        rw [← hpasses.handed]
        obtain ⟨hhanded, hnone, hcarried⟩ := ih hrest
        exact ⟨hhanded, hnone, hpasses.carried.trans hcarried⟩
      | false =>
        cases hrest
        exact ⟨hpasses.handed, fun _ => ⟨hend rfl, (hpasses.current rfl).trans hcurrent⟩,
          hpasses.carried⟩
    | some r =>
      obtain ⟨hread, hcarried⟩ := readCurrent_handed r m
      rw [nextRecord_open hcurrent] at h
      cases hrecord : (readCurrent r m).1 with
      | some text =>
        rw [hrecord] at h hread
        cases h
        exact ⟨hread, nofun, hcarried.trans (.of_log_eq rfl rfl)⟩
      | none =>
        rw [hrecord] at h hread
        rw [← show (readCurrent r m).2.input.handed = m.input.handed from hread]
        obtain ⟨hhanded, hnone, hrest⟩ := ih h
        exact ⟨hhanded, hnone, hcarried.trans hrest⟩

end MainInput

namespace Supply

open MainInput

variable {S : Supply} {p : Program} {m : Machine} {k j fuel : Nat} {rs : List Bytes}

/-- Past the last operand standard input is opened if no operand has been, and else nothing. -/
theorem Ready.openLast (h : S.Ready p m k j [])
    (hend : S.operands.length < m.input.nextOperand) :
    ∃ j' rs', S.Ready p (openLast m).2 k j' rs' := by
  have hpast : S.operands.length ≤ m.input.nextOperand - 1 := by omega
  have hdrop : S.operands.drop (m.input.nextOperand - 1) = [] := List.drop_of_length_le hpast
  cases hused : m.input.used with
  | true =>
    rw [openLast_used hused]
    refine ⟨j, [], { h.along with stage := ?_ }, h.undisturbed.change rfl (fun _ _ hv => hv) rfl⟩
    exact { h.stage with
      fresh := h.stage.fresh.imp_left (·.congr rfl rfl rfl)
      exhausted := fun _ => ⟨hused, hend⟩ }
  | false =>
    rw [openLast_unused hused]
    have hfresh := h.stage.fresh_of_unused hused
    have hnone : ∀ o ∈ S.operands, isFile o = false := by
      have hall := h.stage.unused hused
      rwa [List.take_of_length_le hpast] at hall
    have hreadable : (S.standIn?.getD Streams.standardInput).source ≠ .directory := by
      obtain hsource | hsource := S.standIn_source <;> rw [hsource] <;> decide
    have hdue : S.due m.input.used k (S.operands.drop (m.input.nextOperand - 1)) =
        .opened "" :: (numbered k 0 (S.records "") ++ S.due true (k + (S.records "").length)
          (S.operands.drop (m.input.nextOperand - 1))) := by
      rw [hdrop, hused, due, due, if_neg Bool.false_ne_true, if_pos rfl, List.append_nil]
    rw [hfresh.stdin]
    refine ⟨0, S.records "", Ready.opened h.along.program h.along.steered h.undisturbed rfl ?_⟩
    refine h.stage.opens (reader?_standard rfl) hreadable (.inr ⟨rfl, hnone⟩) hdue rfl rfl rfl
      h.stage.next (fun htakes => hfresh.held (Opens.wantsInput (.inr ⟨rfl, hnone⟩) htakes))
      (.inr ?_) fun _ => hend
    show ∀ o ∈ S.operands.drop (m.input.nextOperand - 1), S.isInput o = false
    rw [hdrop]
    exact fun _ ho => absurd ho List.not_mem_nil

/-- Opening the next input leaves the main input at a stage, however it ends. -/
theorem Ready.openBelow (hS : S.Proper) (h : S.Ready p m k j []) (hcurrent : m.input.current = none)
    (n : Nat) : ∃ j' rs', S.Ready p
      (Run.Outcome.machine (openBelow (S.operands.length + 1 : Nat) n m)) k j' rs' := by
  induction n generalizing m with
  | zero => exact ⟨j, [], h⟩
  | succ n ih =>
    by_cases hcount : m.input.nextOperand < S.operands.length + 1
    · have hnext := h.stage.next
      have hlt : m.input.nextOperand - 1 < S.operands.length := by omega
      have hahead := List.drop_eq_getElem_cons hlt
      have hoperand : m.env.operand m.input.nextOperand =
          some ⟨S.operands[m.input.nextOperand - 1]⟩ := by
        have hthere := h.undisturbed.operands _ hlt
        rw [List.getElem?_eq_getElem hlt, Nat.sub_add_cancel hnext] at hthere
        exact hthere
      rw [openBelow_next (Int.ofNat_lt.mpr hcount), hoperand]
      generalize S.operands[m.input.nextOperand - 1] = o at hahead
      generalize S.operands.drop (m.input.nextOperand - 1 + 1) = rest at hahead
      dsimp only
      by_cases hempty : o.isEmpty
      · rw [if_pos hempty]
        exact ih (h.skip hcurrent hahead hempty) hcurrent
      · have hne := Bool.eq_false_iff.mpr hempty
        rw [if_neg hempty]
        cases hassignment : assignment? o with
        | some xv =>
          obtain ⟨x, v⟩ := xv
          have hmem : o ∈ S.operands := List.mem_of_mem_drop (hahead ▸ List.mem_cons_self)
          have hx := hS.assigns o hmem x v hassignment
          have hfalse : (useOperand o (passed m)).1 = false := by
            rw [useOperand_assignment hassignment]
          have hstill := (useOperand_passes o (passed m)).current hfalse
          rw [hfalse, if_neg Bool.false_ne_true]
          exact ih (h.assigned hcurrent hahead hne hx hassignment) (hstill.trans hcurrent)
        | none =>
          obtain ⟨m', huse, -, hready⟩ := h.useFile hahead hS hne hassignment
          rw [huse, if_pos rfl]
          exact ⟨0, _, hready⟩
    · rw [openBelow_last (mt Int.ofNat_lt.mp hcount)]
      exact h.openLast (by omega)

/-- Opening the next input leaves the main input at a stage, however it ends. -/
theorem Ready.openNext (hS : S.Proper) (h : S.Ready p m k j [])
    (hcurrent : m.input.current = none) (fuel : Nat) :
    ∃ j' rs', S.Ready p (Run.Outcome.machine (openNext fuel m)) k j' rs' := by
  by_cases hend : m.input.exhausted
  · rw [openNext_exhausted hend]
    exact ⟨j, [], h⟩
  · have hcount : (m.env.value "ARGC").toInteger = (S.operands.length + 1 : Nat) := by
      rw [show m.env.value "ARGC" = _ from h.along.steered.count]
      exact Value.toInteger_ofNat hS.range
    rw [openNext_apply (Bool.eq_false_iff.mpr hend), hcount]
    exact h.openBelow hS hcurrent fuel

/-- What is read is the next record of those that the input that is open still has. -/
theorem Ready.readCurrent (h : S.Ready p m k j rs) {r : Reader} (hcurrent : m.input.current = some r) :
    ∃ k' j' rs', S.Ready p (readCurrent r m).2 k' j' rs' := by
  have hleft := h.stage.left r hcurrent
  have hsplit : S.split (m.streams.toRead r) = rs :=
    hleft.split_eq h.undisturbed.files h.undisturbed.input
  have hseparator : (m.env.value "RS").text = S.separator := by
    rw [show m.env.value "RS" = _ from h.along.steered.separator]
  obtain ⟨r', st', hread, hfollows, hdisk, hrest, hshared⟩ :=
    m.streams.readRecord_eq hleft.readable (m.env.value "RS").text
  rw [hseparator] at hread hrest
  have hsame : S.SameFiles st'.disk := hdisk ▸ h.undisturbed.files
  have hsource : r'.source = .input ↔ r.source = .input := hfollows.input_iff
  have hinput (hr : r'.source = .input) : st'.inputBuffer ++ st'.input = st'.toRead r' :=
    (if_pos hr).symm
  have hkept (hr : r.source ≠ .input) (hwants : S.wantsInput) :
      st'.inputBuffer ++ st'.input = m.input.held :=
    (hshared hr).trans (h.undisturbed.input hwants)
  cases hnext : next (bytesOf S.separator) (m.streams.toRead r) with
  | mk found rest =>
    rw [hnext] at hread hrest
    cases found with
    | some text =>
      have hrs : rs = text :: S.split rest := hsplit.symm.trans (Records.all_of_some hnext)
      subst hrs
      rw [readCurrent_some (hseparator ▸ hread)]
      have hother (hr : r'.source ≠ .input) : S.split (S.streams.toRead r') = S.split rest := by
        rw [← toRead_eq hsame hr fun n offset hn => ?_, hrest]
        obtain ⟨offset', hn'⟩ := (hn ▸ hfollows).exists_file
        exact hleft.file n offset' hn'
      have hheld (hr : r'.source = .input) : S.split (st'.inputBuffer ++ st'.input) = S.split rest := by
        rw [hinput hr, hrest]
      let counted := m.env.setValue "NR" (Arithmetic.step (m.env.value "NR") 1)
      let env := counted.setValue "FNR" (Arithmetic.step (counted.value "FNR") 1)
      have hcounted : S.Steered counted (k + 1) := h.along.steered.next
      have hsteered : S.Steered env (k + 1) := hcounted.setValue (by decide) _
      have hnumber : env.value "NR" = .counted (k + 1) := hsteered.number
      have hposition : env.value "FNR" = .counted (j + 1) := by
        have hopen : m.input.current ≠ none := by rw [hcurrent]; nofun
        have hfnr : counted.value "FNR" = .counted j :=
          (Environment.value_setValue_ne _ _ (by decide)).trans (h.along.position hopen)
        rw [Environment.value_setValue_self, hfnr]
        rfl
      refine ⟨k + 1, j + 1, S.split rest, ⟨h.along.program, hsteered, fun _ => hposition,
        h.stage.record hcurrent hfollows hother hheld hkept hnumber hposition⟩, hsame,
        fun i hi => ?_, fun _ => rfl⟩
      have hthere := h.undisturbed.operands i hi
      rw [List.getElem?_eq_getElem hi] at hthere ⊢
      exact Environment.operand_setValue (Environment.operand_setValue hthere _ _) _ _
    | none =>
      have hrs : rs = [] := hsplit.symm.trans (Records.all_of_none (by rw [hnext]))
      subst hrs
      rw [readCurrent_none (hseparator ▸ hread)]
      exact ⟨k, j, [], { h.along with position := nofun, stage := h.stage.close hcurrent hkept },
        hsame, h.undisturbed.operands, fun _ => rfl⟩

/-- A request leaves the main input at a stage, however it ends. After it the commands go on, which
may change what is left to read. -/
theorem Ready.nextRecord (hS : S.Proper) (h : S.Ready p m k j rs) (fuel n : Nat) :
    ∃ k' j' rs', S.Along p (Run.Outcome.machine (nextRecord fuel n m)).core k' j' rs' := by
  induction n generalizing m k j rs with
  | zero => exact ⟨k, j, rs, h.along⟩
  | succ n ih =>
    cases hcurrent : m.input.current with
    | none =>
      obtain rfl := h.stage.closed hcurrent
      obtain ⟨j', rs', hopened⟩ := h.openNext hS hcurrent fuel
      rw [nextRecord_closed hcurrent]
      cases hopen : MainInput.openNext fuel m with
      | ok b m' =>
        rw [hopen] at hopened
        rw [Run.bind_ok hopen]
        cases b with
        | true => exact ih hopened
        | false => exact ⟨k, j', rs', hopened.along⟩
      | error e m' =>
        rw [hopen] at hopened
        rw [Run.bind_error hopen]
        exact ⟨k, j', rs', hopened.along⟩
    | some r =>
      obtain ⟨k', j', rs', hread⟩ := h.readCurrent hcurrent
      rw [nextRecord_open hcurrent]
      cases (MainInput.readCurrent r m).1 with
      | some text => exact ⟨k', j', rs', hread.along⟩
      | none => exact ih hread

end Supply

end Awk
