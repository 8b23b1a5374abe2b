import Awk.Shell.Run
import Awk.Proofs.Host.Files

/-! A command line does nothing to the files but open, write and remove them. -/

namespace Awk.Shell

open Host (Disk)
open Host.Disk (Stable)
open Records (Bytes)

variable {P : Disk → Prop} {d : Disk} {input : Bytes}

theorem foldl_keeps {α σ : Type} {Q : σ → Prop} {f : σ → α → σ} (hf : ∀ s a, Q s → Q (f s a))
    (as : List α) {s : σ} (h : Q s) : Q (as.foldl f s) := by
  induction as generalizing s with
  | nil => exact h
  | cons a as ih => exact ih (hf s a h)

theorem removeFiles_keeps (hP : Stable P) (h : P d) (force : Bool) (names : List String) :
    P (removeFiles d input force names).disk := by
  refine foldl_keeps (Q := fun o : Outcome => P o.disk) (fun o name ho => ?_) names h
  split
  · exact hP.removed _ ho
  · exact ho
  · split <;> exact ho

theorem touchFiles_keeps (hP : Stable P) (h : P d) (names : List String) :
    P (touchFiles d input names).disk := by
  refine foldl_keeps (Q := fun o : Outcome => P o.disk) (fun o name ho => ?_) names h
  split
  · rename_i hopen
    exact hP.opened ho hopen
  · exact ho

theorem copyFile_keeps (hP : Stable P) (h : P d) (input : Bytes) (tool source target : String) :
    P (copyFile tool d input source target).disk := by
  unfold copyFile
  split
  · exact h
  split
  · rename_i hopen
    exact hP.written _ _ _ (hP.opened h hopen)
  · rename_i hopen
    exact hP.opened h hopen
  · exact h

theorem sortFiles_disk (d : Disk) (arguments : List String) :
    (sortFiles d input arguments).disk = d := by
  unfold sortFiles
  dsimp only
  split <;> rfl

theorem tool?_keeps (hP : Stable P) (h : P d) {name : String} {arguments : List String}
    {o : Outcome} (ho : tool? name arguments d input = some o) : P o.disk := by
  unfold tool? at ho
  dsimp only at ho
  split at ho
  all_goals try (cases ho; exact h)
  · split at ho <;> cases ho <;> exact h
  · cases ho
    exact (sortFiles_disk d arguments).symm ▸ h
  · split at ho <;> cases ho <;> exact h
  · cases ho
    exact removeFiles_keeps hP h _ _
  · cases ho
    exact touchFiles_keeps hP h _
  · cases ho
    exact copyFile_keeps hP h _ _ _ _
  · have hcopy := copyFile_keeps hP h input "mv" ((options arguments).2.getD 0 "")
      ((options arguments).2.getD 1 "")
    split at ho <;> cases ho
    · exact hP.removed _ hcopy
    · exact hcopy
  · cases ho
    refine foldl_keeps (fun d name hd => ?_) _ h
    split
    · rename_i hopen
      exact hP.written _ _ _ (hP.opened hd hopen)
    · exact hd
  · cases ho

theorem builtin?_disk {st st' : State} {name : String} {arguments : List String}
    (h : builtin? st name arguments = some st') : st'.disk = st.disk := by
  have hassign (settings : List (String × String)) (st : State) :
      (settings.foldl (fun st setting => st.assign setting.1 setting.2) st).disk = st.disk := by
    induction settings generalizing st with
    | nil => rfl
    | cons _ _ ih => exact ih _
  unfold builtin? at h
  split at h
  · split at h
    · cases h
      rfl
    · split at h <;> cases h <;> rfl
  · dsimp only at h
    split at h
    · cases h
      rfl
    split at h <;> cases h <;> rfl
  · cases h
    exact hassign _ _
  · cases h
    rfl
  · dsimp only at h
    split at h <;> cases h <;> rfl
  all_goals cases h
  all_goals rfl

theorem runNamed_keeps (hP : Stable P) (st : State) (h : P st.disk) (asker name : String)
    (arguments : List String) : P (runNamed st asker name arguments).disk := by
  unfold runNamed
  split
  · rename_i hbuiltin
    exact (builtin?_disk hbuiltin).symm ▸ h
  split
  · unfold unknownCommand
    dsimp only
    split
    · split <;> exact h
    · exact h
  · rename_i htool
    exact tool?_keeps hP h htool

theorem runSimple_keeps (hP : Stable P) {st : State} (h : P st.disk) (words : List Word) :
    P (runSimple st words).disk := by
  unfold runSimple
  dsimp only
  split
  · exact h
  · exact runNamed_keeps hP (st.seek _) h _ _ _
  · exact runNamed_keeps hP (st.seek _) h _ _ _

theorem redirect_keeps (hP : Stable P) {st st' : State} {p p' : Plumbing} {rs : List Redirection}
    (h : P st.disk) (hredirect : redirect st p rs = .ok (p', st')) : P st'.disk := by
  induction rs generalizing st p with
  | nil =>
    cases hredirect
    exact h
  | cons r rs ih =>
    rw [redirect] at hredirect
    dsimp only at hredirect
    have hsought : P (st.seek [st.text r.target]).disk := h
    split at hredirect
    · split at hredirect
      · exact ih hsought hredirect
      · cases hredirect
    · exact ih hsought hredirect
    · split at hredirect
      · cases hredirect
      · rename_i hopen
        exact ih (hP.opened hsought hopen) hredirect

theorem deliver_keeps (hP : Stable P) {st : State} (h : P st.disk) (place : Destination) (s : Bytes) :
    P (deliver st place s).disk := by
  unfold deliver
  split
  · exact h
  · exact h
  · split
    · exact h
    · exact hP.written _ _ _ h
  · exact h

theorem withRedirections_keeps (hP : Stable P) {st : State} (h : P st.disk)
    (rs : List Redirection) {run : State → State} (hrun : ∀ st, P st.disk → P (run st).disk) :
    P (withRedirections st rs run).disk := by
  unfold withRedirections
  split
  · exact h
  · rename_i hredirect
    have hopened := redirect_keeps hP h hredirect
    refine deliver_keeps hP (deliver_keeps hP ?_ _ _) _ _
    exact hrun _ hopened

theorem repeatWhile_keeps {test : State → Bool × State} {body : State → State}
    (htest : ∀ st, P st.disk → P (test st).2.disk) (hbody : ∀ st, P st.disk → P (body st).disk)
    (n status : Nat) {st : State} (h : P st.disk) :
    P (repeatWhile test body n status st).disk := by
  induction n generalizing status st with
  | zero => exact h
  | succ n ih =>
    have htested := htest st h
    rw [repeatWhile]
    split
    · rename_i htrue
      rw [htrue] at htested
      have hdone := hbody _ htested
      dsimp only
      split
      · exact hdone
      · exact ih _ hdone
    · rename_i hfalse
      rw [hfalse] at htested
      split <;> exact htested

theorem run_keeps (hP : Stable P) (script : Script) (st : State) (h : P st.disk) :
    P (run st script).disk := by
  induction script generalizing st with
  | nothing =>
    unfold run
    split <;> exact h
  | simple words rs =>
    unfold run
    split
    · exact h
    · exact withRedirections_keeps hP h rs fun st hst => runSimple_keeps hP hst words
  | redirected body rs ih =>
    unfold run
    split
    · exact h
    · exact withRedirections_keeps hP h rs fun st hst => ih _ hst
  | subshell body ih =>
    unfold run
    split
    · exact h
    · exact ih _ h
  | negated body ih =>
    unfold run
    split
    · exact h
    · exact ih _ h
  | choice test yes no htest hyes hno =>
    unfold run
    split
    · exact h
    dsimp only
    split
    · exact hyes _ (htest _ h)
    · exact hno { run st test with status := 0 } (htest _ h)
  | loop wanted test body htest hbody =>
    unfold run
    split
    · exact h
    · exact repeatWhile_keeps htest hbody _ _ h
  | forEach name words body ih =>
    unfold run
    split
    · exact h
    · refine foldl_keeps (Q := fun st : State => P st.disk) (fun st value hst => ?_) _ h
      exact ih (st.assign name value) hst
  | pipe first second hfirst hsecond =>
    unfold run
    split
    · exact h
    · exact hsecond _ (hfirst _ h)
  | andThen first second hfirst hsecond =>
    unfold run
    split
    · exact h
    dsimp only
    split
    · exact hsecond _ (hfirst _ h)
    · exact hfirst _ h
  | orElse first second hfirst hsecond =>
    unfold run
    split
    · exact h
    dsimp only
    split
    · exact hfirst _ h
    · exact hsecond _ (hfirst _ h)
  | sequence first second hfirst hsecond =>
    unfold run
    split
    · exact h
    · exact hsecond _ (hfirst _ h)

/-- What opening, writing and removing keep holds after a command line. -/
theorem execute_keeps (hP : Stable P) (h : P d) (input : Bytes) (command : String) :
    P (execute d input command).disk := by
  unfold execute
  split
  · exact h
  · exact run_keeps hP _ _ h

theorem carryOut_sound {w : Host.World} (h : w.disk.Sound) (command : String) (given : Option Bytes) :
    (carryOut w command given).2.disk.Sound :=
  execute_keeps Host.Disk.sound_stable h _ command

theorem leaveOff_sound (now : Host.Moment) {w : Host.World} (h : w.disk.Sound) (child : Nat) :
    (leaveOff now w child).disk.Sound := by
  unfold leaveOff
  split
  · dsimp only
    split
    · exact h
    · exact carryOut_sound h _ _
  · exact h

/-- The shell gives no file a second name. -/
theorem keepSound : ∀ (now : Host.Moment) (c : Host.Call) (w : Host.World), w.disk.Sound →
    (commands.answer now c w).2.disk.Sound := by
  intro now c w h
  show (answer now c w).2.disk.Sound
  cases c with
  | pause | feed | send | wait => exact h
  | listen command => exact carryOut_sound h command none
  | run command =>
    have hleft : ∀ (children : List Nat) {w : Host.World}, w.disk.Sound →
        (children.foldl (leaveOff now) w).disk.Sound := by
      intro children
      induction children with
      | nil => exact fun h => h
      | cons child children ih => exact fun h => ih (leaveOff_sound now h child)
    exact carryOut_sound (hleft _ h) command none
  | hangUp child =>
    unfold answer
    dsimp only
    split
    · exact carryOut_sound h _ _
    · exact h

end Awk.Shell
