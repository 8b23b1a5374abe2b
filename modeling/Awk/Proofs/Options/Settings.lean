import Awk.Options
import Awk.Proofs.Source.Steps

/-! Options as a command line spells them. Each sets one thing, and its value is attached to its
letter or is the next argument. Arguments that set one thing after the other are read in full before
what stands behind them, so that all that can be said about a run can be spelled, and every spelling
of it is read as just that. -/

namespace Awk

open Lexer

/-! Assignments. -/

/-- Whether a text is an identifier: a letter or an underscore, and behind it also digits. -/
def isIdentifier (name : String) : Bool :=
  match name.toList with
  | [] => false
  | c :: r => isNameStart c && r.all isNameChar

theorem ne_of_mem_identifier {name : String} (h : isIdentifier name) :
    ∀ c ∈ name.toList, c ≠ '=' := by
  unfold isIdentifier at h
  split at h
  case h_1 => cases h
  case h_2 c r hname =>
    obtain ⟨hc, hr⟩ := Bool.and_eq_true_iff.mp h
    rw [hname, List.forall_mem_cons]
    exact ⟨by rintro rfl; exact absurd hc (by decide),
      fun d hd => by rintro rfl; exact absurd (List.all_eq_true.mp hr _ hd) (by decide)⟩

theorem toList_assignment (name value : String) :
    (name ++ "=" ++ value).toList = name.toList ++ '=' :: value.toList := by
  rw [String.toList_append, String.toList_append, List.append_assoc]
  rfl

/-- An assignment is an identifier, the first `=`, and whatever follows. -/
theorem assignment?_eq_some_iff {text name value : String} :
    assignment? text = some (name, value) ↔ isIdentifier name ∧ text = name ++ "=" ++ value := by
  have hdrop (s : List Char) : s.drop (s.takeWhile (· ≠ '=')).length = s.dropWhile (· ≠ '=') :=
    drop_count _ s
  constructor
  · intro h
    simp only [assignment?, hdrop] at h
    split at h
    case h_2 => cases h
    case h_1 c r d rest hname hrest =>
      obtain ⟨hidentifier, h⟩ := Option.ite_none_right_eq_some.mp h
      obtain ⟨rfl, rfl⟩ := Prod.mk.inj (Option.some.inj h)
      have hd : d = '=' := by
        have hhead := List.head?_dropWhile_not (· ≠ '=') text.toList
        rw [hrest] at hhead
        simpa using hhead
      have htext : text.toList.takeWhile (· ≠ '=') ++ '=' :: rest = text.toList := by
        subst hd
        rw [← hrest, List.takeWhile_append_dropWhile]
      refine ⟨?_, String.toList_inj.mp ?_⟩
      · rw [isIdentifier, String.toList_ofList, hname]
        exact hidentifier
      · rw [toList_assignment, String.toList_ofList, String.toList_ofList, htext]
  · rintro ⟨h, rfl⟩
    have hne : ∀ c ∈ name.toList, decide (c ≠ '=') = true :=
      fun c hc => decide_eq_true (ne_of_mem_identifier h c hc)
    have hname : (name.toList ++ '=' :: value.toList).takeWhile (· ≠ '=') = name.toList := by
      rw [List.takeWhile_append_of_pos hne, List.takeWhile_cons_of_neg (by decide), List.append_nil]
    unfold isIdentifier at h
    split at h
    case h_1 => cases h
    case h_2 c r hlist =>
      simp only [assignment?, toList_assignment, hname, List.drop_left]
      rw [hlist]
      exact (if_pos h).trans (by rw [← hlist, String.ofList_toList, String.ofList_toList])

/-! Settings. -/

/-- What one option sets. -/
inductive Setting where
  | separator (value : String)
  | assignment (name value : String)
  | file (name : String)
  | debug
  deriving Repr, DecidableEq

/-- The arguments of an option that takes a value. An empty value cannot be attached. -/
inductive Given (option value : String) : List String → Prop
  | attached (h : value ≠ "") : Given option value [option ++ value]
  | separate : Given option value [option, value]

namespace Setting

/-- The arguments that set one thing. -/
inductive Written : Setting → List String → Prop
  | separator {value : String} {arguments : List String} (h : Given "-F" value arguments) :
    Written (.separator value) arguments
  | assignment {name value : String} {arguments : List String} (hname : isIdentifier name)
    (h : Given "-v" (name ++ "=" ++ value) arguments) : Written (.assignment name value) arguments
  | file {name : String} {arguments : List String} (h : Given "-f" name arguments) :
    Written (.file name) arguments
  | debug : Written .debug ["--debug"]

theorem Written.ne_nil {s : Setting} {written : List String} (h : s.Written written) :
    written ≠ [] := by
  cases h with
  | separator h | assignment _ h | file h => cases h <;> nofun
  | debug => nofun

/-- The arguments that set one thing after the other. -/
inductive Listed : List Setting → List String → Prop
  | nil : Listed [] []
  | cons {s : Setting} {settings : List Setting} {written rest : List String}
    (h : s.Written written) (hrest : Listed settings rest) :
    Listed (s :: settings) (written ++ rest)

@[simp]
def separator? : Setting → Option String
  | separator value => some value
  | _ => none

@[simp]
def assigned? : Setting → Option (String × String)
  | assignment name value => some (name, value)
  | _ => none

@[simp]
def file? : Setting → Option String
  | file name => some name
  | _ => none

theorem exists_listed {settings : List Setting}
    (h : ∀ s ∈ settings, ∀ a ∈ s.assigned?, isIdentifier a.1) :
    ∃ written, Listed settings written := by
  induction settings with
  | nil => exact ⟨[], .nil⟩
  | cons s settings ih =>
    obtain ⟨hs, hsettings⟩ := List.forall_mem_cons.mp h
    obtain ⟨rest, hrest⟩ := ih hsettings
    have hwritten : ∃ written, s.Written written := by
      cases s with
      | separator value => exact ⟨_, .separator .separate⟩
      | assignment name value => exact ⟨_, .assignment (hs (name, value) rfl) .separate⟩
      | file name => exact ⟨_, .file .separate⟩
      | debug => exact ⟨_, .debug⟩
    obtain ⟨written, hwritten⟩ := hwritten
    exact ⟨_, .cons hwritten hrest⟩

end Setting

/-! Reading. -/

namespace Argument

/-- A dash and a character, which are not the start of a word for an option, and what is attached to
them. -/
theorem ofString_dash {letter : Char} {argument : String} {attached : List Char}
    (hdash : letter ≠ '-') (hhelp : letter ≠ 'h')
    (h : argument.toList = '-' :: letter :: attached) :
    ofString argument =
      if letter.toNat < 128 then .option letter (.ofList attached) else .indivisible := by
  have hword : ∀ c word, letter ≠ c → argument ≠ .ofList ('-' :: c :: word) := by
    rintro c word hc rfl
    rw [String.toList_ofList] at h
    exact hc (List.cons.inj (List.cons.inj h).2).1.symm
  have hends : argument ≠ "--" := hword '-' _ hdash
  have hlong : argument ≠ "--help" := hword '-' _ hdash
  have hshort : argument ≠ "-h" := hword 'h' _ hhelp
  have hversion : argument ≠ "--version" := hword '-' _ hdash
  have hdebug : argument ≠ "--debug" := hword '-' _ hdash
  simp only [ofString, hends, hlong, hshort, hversion, hdebug, h, if_false, decide_false,
    Bool.or_self, Bool.false_eq_true]

theorem ofString_option {letter : Char} {argument attached : String}
    (hknown : OptionValues.known letter) (h : argument = .ofList ['-', letter] ++ attached) :
    ofString argument = .option letter attached := by
  have htext : argument.toList = '-' :: letter :: attached.toList := by
    rw [h, String.toList_append, String.toList_ofList]
    rfl
  have hletter : (letter = 'F' ∨ letter = 'v') ∨ letter = 'f' := by
    simpa [OptionValues.known] using hknown
  obtain (rfl | rfl) | rfl := hletter <;>
    rw [ofString_dash (by decide) (by decide) htext, if_pos (by decide), String.ofList_toList]

end Argument

namespace OptionValues

variable {s : Setting} {settings : List Setting} {written : List String}

/-- The options once one more thing is set. -/
def set (o : OptionValues) : Setting → OptionValues
  | .separator value => { o with fieldSeparator := some (separator value) }
  | .assignment name value => { o with assignments := o.assignments ++ [(name, value)] }
  | .file name => { o with files := o.files ++ [name] }
  | .debug => { o with debug := true }

theorem readOn_given {letter : Char} {value : String} (hknown : known letter)
    (h : Given (.ofList ['-', letter]) value written) (o : OptionValues) (rest : List String) :
    o.readOn (written ++ rest) = (o.add letter value).bind (·.readOn rest) := by
  cases h with
  | attached hvalue =>
    have hoption : Argument.ofString (.ofList ['-', letter] ++ value) = .option letter value :=
      Argument.ofString_option hknown rfl
    have hempty : value.isEmpty = false := by
      simpa [String.isEmpty_iff] using hvalue
    rw [List.singleton_append, readOn, hoption]
    simp only [hknown, hempty]
    rfl
  | separate =>
    have hoption : Argument.ofString (.ofList ['-', letter]) = .option letter "" :=
      Argument.ofString_option hknown (String.append_empty ..).symm
    rw [List.cons_append, List.singleton_append, readOn, hoption]
    simp only [hknown]
    rfl

/-- What is written for a setting is read in full, and then reading goes on. -/
theorem readOn_written (h : s.Written written) (o : OptionValues) (rest : List String) :
    o.readOn (written ++ rest) = (o.set s).readOn rest := by
  cases h with
  | separator h => exact readOn_given rfl h o rest
  | @assignment name value _ hname h =>
    have ha : assignment? (name ++ "=" ++ value) = some (name, value) :=
      assignment?_eq_some_iff.mpr ⟨hname, rfl⟩
    have hadd : o.add 'v' (name ++ "=" ++ value) = .ok (o.set (.assignment name value)) := by
      simp only [add, ha]
      rfl
    exact (readOn_given rfl h o rest).trans (by rw [hadd]; rfl)
  | file h => exact readOn_given rfl h o rest
  | debug => rw [List.singleton_append, readOn]; rfl

theorem readOn_listed (h : Setting.Listed settings written) (o : OptionValues)
    (rest : List String) :
    o.readOn (written ++ rest) = (settings.foldl set o).readOn rest := by
  induction h generalizing o with
  | nil => rfl
  | @cons s settings written others h _ ih =>
    rw [List.append_assoc, readOn_written h, ih, List.foldl_cons]

theorem readOn_end (o : OptionValues) (rest : List String) :
    o.readOn ("--" :: rest) = o.request rest := by
  rw [readOn]
  rfl

/-- The last separator counts, and the assignments and files add up. -/
theorem foldl_set (settings : List Setting) (o : OptionValues) :
    settings.foldl set o =
      { fieldSeparator :=
          ((settings.filterMap Setting.separator?).getLast?.map separator).or o.fieldSeparator
        assignments := o.assignments ++ settings.filterMap Setting.assigned?
        files := o.files ++ settings.filterMap Setting.file?
        debug := o.debug || settings.contains .debug } := by
  induction settings generalizing o with
  | nil => simp
  | cons s settings ih =>
    rw [List.foldl_cons, ih]
    cases s with
    | separator value =>
      have hlast : (value :: settings.filterMap Setting.separator?).getLast?.map separator =
          ((settings.filterMap Setting.separator?).getLast?.map separator).or
            (some (separator value)) := by
        rw [List.getLast?_cons]
        cases (settings.filterMap Setting.separator?).getLast? <;> rfl
      simp [set, List.filterMap_cons, hlast]
    | assignment | file | debug => simp [set, List.filterMap_cons]

end OptionValues

/-! Spelling. -/

namespace ProgramText

/-- The names of the files that hold the text. -/
def fileNames : ProgramText → List String
  | given _ => []
  | files names => names

/-- The text as an argument, unless files hold it. -/
def argument : ProgramText → List String
  | given text => [text]
  | files _ => []

end ProgramText

namespace Options

/-- Settings come to options: the last separator counts, and assignments and files are in order. -/
structure SetBy (o : Options) (settings : List Setting) : Prop where
  fieldSeparator : (settings.filterMap Setting.separator?).getLast? = o.fieldSeparator
  assignments : settings.filterMap Setting.assigned? = o.assignments
  files : settings.filterMap Setting.file? = o.program.fileNames
  debug : settings.contains .debug = o.debug

/-- Arguments that spell options: what sets them, the end of the options, the program's text unless
files hold it, and the operands. -/
def Spelled (o : Options) (arguments : List String) : Prop :=
  ∃ settings written, o.SetBy settings ∧ Setting.Listed settings written ∧
    arguments = written ++ "--" :: (o.program.argument ++ o.operands)

/-- The settings of options, each once. -/
def toSettings (o : Options) : List Setting :=
  o.fieldSeparator.toList.map .separator ++ o.assignments.map (fun a => .assignment a.1 a.2) ++
    o.program.fileNames.map .file ++ if o.debug then [.debug] else []

theorem setBy_toSettings (o : Options) : o.SetBy o.toSettings where
  fieldSeparator := by
    cases hseparator : o.fieldSeparator <;> cases hdebug : o.debug <;>
      simp [toSettings, hseparator, hdebug, List.filterMap_map, List.filterMap_cons,
        Function.comp_def]
  assignments := by simp [toSettings, List.filterMap_map, Function.comp_def]
  files := by simp [toSettings, List.filterMap_map, Function.comp_def]
  debug := by simp [toSettings]

theorem exists_spelled {o : Options} (hnames : ∀ a ∈ o.assignments, isIdentifier a.1) :
    ∃ arguments, o.Spelled arguments := by
  have hset := o.setBy_toSettings
  have hsettings : ∀ s ∈ o.toSettings, ∀ a ∈ s.assigned?, isIdentifier a.1 := by
    intro s hs a ha
    have hmem : a ∈ o.toSettings.filterMap Setting.assigned? := List.mem_filterMap.mpr ⟨s, hs, ha⟩
    exact hnames a (hset.assignments ▸ hmem)
  obtain ⟨written, hwritten⟩ := Setting.exists_listed hsettings
  exact ⟨_, _, written, hset, hwritten, rfl⟩

end Options

/-- What remains of options that are read is the request of a run with them. -/
theorem OptionValues.request_of_setBy {o : Options} {settings : List Setting}
    (hset : o.SetBy settings) (hseparator : o.fieldSeparator ≠ some "t")
    (hescape : o.fieldSeparator ≠ some "\\t") (hprogram : o.program ≠ .files []) :
    (settings.foldl set {}).request (o.program.argument ++ o.operands) = .ok (.run o) := by
  have hvalue : o.fieldSeparator.map separator = o.fieldSeparator := by
    cases hsome : o.fieldSeparator with
    | none => rfl
    | some value =>
      have ht : value ≠ "t" := fun h => hseparator (hsome.trans (congrArg some h))
      have htab : value ≠ "\\t" := fun h => hescape (hsome.trans (congrArg some h))
      simp [separator, ht, htab]
  rw [foldl_set, hset.fieldSeparator, hset.assignments, hset.files, hset.debug, hvalue]
  obtain ⟨fieldSeparator, assignments, program, operands, debug⟩ := o
  cases program with
  | given text => simp [request, ProgramText.fileNames, ProgramText.argument]
  | files names =>
    cases names with
    | nil => exact absurd rfl hprogram
    | cons name names => simp [request, ProgramText.fileNames, ProgramText.argument]

/-- Options in which the separator is not what stands for a tab, the names of variables are
identifiers, and there is a program can be spelled, and are what is read from whatever spells
them. -/
theorem ofArguments_spelled {o : Options} (hseparator : o.fieldSeparator ≠ some "t")
    (hescape : o.fieldSeparator ≠ some "\\t")
    (hnames : ∀ a ∈ o.assignments, isIdentifier a.1) (hprogram : o.program ≠ .files []) :
    (∃ arguments, o.Spelled arguments) ∧
      ∀ arguments, o.Spelled arguments → Request.ofArguments arguments = .ok (.run o) := by
  refine ⟨Options.exists_spelled hnames, ?_⟩
  rintro arguments ⟨settings, written, hset, hlisted, rfl⟩
  rw [Request.ofArguments, OptionValues.readOn_listed hlisted, OptionValues.readOn_end]
  exact OptionValues.request_of_setBy hset hseparator hescape hprogram

/-- Values that look like options, one without a character, and operands that look like options and
assignments. -/
theorem ofArguments_spelled_lookalikes :
    Request.ofArguments ["-f-v", "-v", "x=", "--debug", "-F", "--", "-f", "", "-v_1=-f=", "--",
        "-f", "x=1", "--"] =
      .ok (.run { fieldSeparator := some "--", assignments := [("x", ""), ("_1", "-f=")],
                  program := .files ["-v", ""], operands := ["-f", "x=1", "--"], debug := true }) :=
  (ofArguments_spelled (by decide) (by decide) (by decide) (by decide)).2 _
    ⟨[.file "-v", .assignment "x" "", .debug, .separator "--", .file "", .assignment "_1" "-f="], _,
      ⟨rfl, rfl, rfl, rfl⟩,
      .cons (.file (.attached (by decide))) <| .cons (.assignment rfl .separate) <| .cons .debug <|
        .cons (.separator .separate) <| .cons (.file .separate) <|
        .cons (.assignment rfl (.attached (by decide))) .nil,
      rfl⟩

end Awk
