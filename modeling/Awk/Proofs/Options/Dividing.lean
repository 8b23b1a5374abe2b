import Awk.Proofs.Options.Settings
import Awk.Proofs.Source.Tiling

/-! Where a command line cannot be read. An option is divided behind its second byte, and if that is
inside a character, there is no answer, not even that the option is unknown. This is all that can
happen: what stands before such an argument sets one thing after the other. -/

namespace Awk

namespace Argument

/-- An argument that is taken for an option but has a character across the place where the value
would start. -/
def Indivisible (text : String) : Prop :=
  ∃ letter attached, text.toList = '-' :: letter :: attached ∧ ¬(⟨2⟩ : String.Pos.Raw).IsValid text

theorem utf8Size_eq_one {c : Char} : c.utf8Size = 1 ↔ c.toNat < 128 := by
  rw [Char.utf8Size_eq_one_iff, UInt32.le_iff_toNat_le]
  exact Nat.lt_succ_iff.symm

/-- The second byte of an option is where a character ends if and only if its letter is a single
byte. -/
theorem isValid_two {text : String} {letter : Char} {attached : List Char}
    (h : text.toList = '-' :: letter :: attached) :
    (⟨2⟩ : String.Pos.Raw).IsValid text ↔ letter.toNat < 128 := by
  have hdash : '-'.utf8Size = 1 := by decide
  have hpos := letter.utf8Size_pos
  rw [← utf8Size_eq_one, isValid_iff_byteCount, h]
  constructor
  · rintro ⟨front, back, hfront, hsize⟩
    match front with
    | [] => cases hsize
    | [c] =>
      obtain ⟨rfl, -⟩ := List.cons.inj hfront
      simp [hdash] at hsize
    | c :: d :: front =>
      obtain ⟨rfl, hmore⟩ := List.cons.inj hfront
      obtain ⟨rfl, -⟩ := List.cons.inj hmore
      simp only [byteCount_cons, hdash] at hsize
      omega
  · intro hone
    exact ⟨['-', letter], attached, rfl, by simp [hone, hdash]⟩

theorem ofString_indivisible {text : String} (h : Indivisible text) :
    ofString text = .indivisible := by
  obtain ⟨letter, attached, htext, hcut⟩ := h
  rw [isValid_two htext] at hcut
  have hdash : letter ≠ '-' := by rintro rfl; exact hcut (by decide)
  have hhelp : letter ≠ 'h' := by rintro rfl; exact hcut (by decide)
  rw [ofString_dash hdash hhelp htext, if_neg hcut]

/-- What a text consists of that is taken for this argument. -/
def Consists (text : String) : Argument → Prop
  | .debug => text = "--debug"
  | .option letter attached => text = .ofList ['-', letter] ++ attached
  | .indivisible => Indivisible text
  | _ => True

theorem consists_ofString (text : String) : Consists text (ofString text) := by
  unfold ofString
  split_ifs with hends hhelp hversion hdebug
  · trivial
  · trivial
  · trivial
  · exact hdebug
  split
  case h_1 letter attached htext =>
    split_ifs with hascii
    · show text = .ofList ['-', letter] ++ .ofList attached
      rw [← String.ofList_append, ← String.toList_inj, htext, String.toList_ofList]
      rfl
    · exact ⟨letter, attached, htext, fun h => hascii ((isValid_two htext).mp h)⟩
  case h_2 => trivial

end Argument

namespace OptionValues

theorem request_ne (o : OptionValues) (rest : List String) (a : String) :
    o.request rest ≠ .error (.indivisible a) := by
  unfold request
  split <;> nofun

/-- An option has a value, or nothing follows that it could be. -/
theorem exists_given {letter : Char} {text attached : String} (rest : List String)
    (h : text = .ofList ['-', letter] ++ attached) :
    (attached = "" ∧ rest = []) ∨ ∃ value given others,
      Given (.ofList ['-', letter]) value given ∧ text :: rest = given ++ others := by
  subst h
  by_cases hempty : attached = ""
  · subst hempty
    cases rest with
    | nil => exact .inl ⟨rfl, rfl⟩
    | cons value others =>
      rw [String.append_empty]
      exact .inr ⟨value, _, others, .separate, rfl⟩
  · exact .inr ⟨attached, _, rest, .attached hempty, rfl⟩

/-- If a value is taken up, its option is a setting. -/
theorem written_of_add {o o' : OptionValues} {letter : Char} {value : String}
    {given : List String} (hknown : known letter) (hadd : o.add letter value = .ok o')
    (h : Given (.ofList ['-', letter]) value given) : ∃ s : Setting, s.Written given := by
  have hletter : letter = 'F' ∨ letter = 'v' ∨ letter = 'f' := by
    simpa [known, or_assoc] using hknown
  obtain rfl | rfl | rfl := hletter
  · exact ⟨_, .separator h⟩
  · cases ha : assignment? value with
    | none => simp [add, ha] at hadd
    | some a =>
      obtain ⟨hname, rfl⟩ := assignment?_eq_some_iff.mp ha
      exact ⟨_, .assignment hname h⟩
  · exact ⟨_, .file h⟩

theorem add_ne (o : OptionValues) (letter : Char) (value a : String) :
    o.add letter value ≠ .error (.indivisible a) := by
  unfold add
  split_ifs
  · nofun
  · split <;> nofun
  · nofun

/-- Reading takes what sets one thing and goes on, or stops at an argument that cannot be divided,
or ends with an answer. -/
theorem readOn_cases (o : OptionValues) (arguments : List String) :
    (∃ (s : Setting) (written rest : List String),
      s.Written written ∧ arguments = written ++ rest) ∨
    (∃ a rest, Argument.Indivisible a ∧ arguments = a :: rest) ∨
    ∀ a, o.readOn arguments ≠ .error (.indivisible a) := by
  cases arguments with
  | nil => exact .inr (.inr (o.request_ne []))
  | cons text rest =>
    have hconsists := Argument.consists_ofString text
    cases hargument : Argument.ofString text with
    | endOfOptions =>
      exact .inr (.inr fun a => by rw [readOn, hargument]; exact o.request_ne rest a)
    | help => exact .inr (.inr fun a => by simp [readOn, hargument])
    | version => exact .inr (.inr fun a => by simp [readOn, hargument])
    | positional => exact .inr (.inr fun a => by rw [readOn, hargument]; exact o.request_ne _ a)
    | debug =>
      rw [hargument] at hconsists
      exact .inl ⟨.debug, _, rest, .debug, hconsists ▸ rfl⟩
    | indivisible =>
      rw [hargument] at hconsists
      exact .inr (.inl ⟨text, rest, hconsists, rfl⟩)
    | option letter attached =>
      rw [hargument] at hconsists
      by_cases hknown : known letter
      · obtain ⟨rfl, rfl⟩ | ⟨value, given, others, hgiven, harguments⟩ :=
          exists_given rest hconsists
        · exact .inr (.inr fun a => by simp [readOn, hargument, hknown])
        · cases hadd : o.add letter value with
          | ok o' =>
            obtain ⟨s, hwritten⟩ := written_of_add hknown hadd hgiven
            exact .inl ⟨s, given, others, hwritten, harguments⟩
          | error e =>
            refine .inr (.inr fun a h => add_ne o letter value a ?_)
            rw [harguments, readOn_given hknown hgiven, hadd] at h
            rw [hadd]
            exact congrArg Except.error (Except.error.inj h)
      · exact .inr (.inr fun a => by simp [readOn, hargument, hknown])

theorem readOn_indivisible {a : String} (h : Argument.Indivisible a) (o : OptionValues)
    (rest : List String) : o.readOn (a :: rest) = .error (.indivisible a) := by
  rw [readOn, Argument.ofString_indivisible h]

theorem exists_listed_of_readOn {o : OptionValues} {arguments : List String} {a : String}
    (h : o.readOn arguments = .error (.indivisible a)) :
    ∃ settings written rest, Setting.Listed settings written ∧ Argument.Indivisible a ∧
      arguments = written ++ a :: rest := by
  -- By induction on the number of arguments, as a setting takes one or two of them.
  induction hn : arguments.length using Nat.strong_induction_on generalizing o arguments with
  | _ n ih =>
    obtain ⟨s, written, rest, hwritten, rfl⟩ | ⟨a', rest, hcut, rfl⟩ | hanswer :=
      readOn_cases o arguments
    · rw [readOn_written hwritten] at h
      have hlength : rest.length < n := by
        have hpos := List.length_pos_iff.mpr hwritten.ne_nil
        rw [← hn, List.length_append]
        omega
      obtain ⟨settings, others, rest, hlisted, hcut, rfl⟩ := ih _ hlength h rfl
      exact ⟨s :: settings, written ++ others, rest, .cons hwritten hlisted, hcut,
        (List.append_assoc ..).symm⟩
    · rw [readOn_indivisible hcut] at h
      cases h
      exact ⟨[], [], rest, .nil, hcut, rfl⟩
    · exact absurd h (hanswer a)

end OptionValues

/-- A command line asks for something or has an error to report, but for the ones in which an
argument that cannot be divided stands behind nothing but settings. -/
theorem ofArguments_indivisible_iff {arguments : List String} {a : String} :
    Request.ofArguments arguments = .error (.indivisible a) ↔
      ∃ settings written rest, Setting.Listed settings written ∧ Argument.Indivisible a ∧
        arguments = written ++ a :: rest := by
  constructor
  · exact OptionValues.exists_listed_of_readOn
  · rintro ⟨settings, written, rest, hlisted, hcut, rfl⟩
    rw [Request.ofArguments, OptionValues.readOn_listed hlisted,
      OptionValues.readOn_indivisible hcut]

example : Request.ofArguments ["-F", "-é", "-é"] = .error (.indivisible "-é") := by
  decide

end Awk
