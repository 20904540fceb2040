import ChainProduct.Command.Options
import ChainProduct.Fault
import Mathlib.Data.List.Find

/-!
# The arguments that are accepted

An argument is a flag, an input or wrong. An input is a path or `-`, for the standard input.
Arguments are taken from left to right, and only a path is remembered, so what is accepted depends
on the order of the inputs: no input may come after a path, but the standard input may come before
one (`Options.parse_eq_ok_iff`). The order of flags makes no difference.

The main theorem, `Options.parse_inputs_in_order`, says which orders of the same arguments are
accepted. It is every order when the standard input is the only input or is not named, and no more
than one input is accepted then. Two inputs are accepted when the standard input is named before a
path (`Options.parse_stdin_then_path`).
-/

namespace ChainProduct.Command

/-! ## Kinds of arguments -/

/-- The argument is a path. The empty argument is one too. -/
def IsPath (argument : String) : Prop :=
  ¬ StartsWithHyphen argument

/-- `IsPath` is decidable by looking at the first character. -/
instance (argument : String) : Decidable (IsPath argument) :=
  inferInstanceAs (Decidable (¬ _))

/-- The argument says what to read: the standard input or a path. -/
def IsInput (argument : String) : Prop :=
  argument = "-" ∨ IsPath argument

/-- `IsInput` is decidable by a comparison and a look at the first character. -/
instance (argument : String) : Decidable (IsInput argument) :=
  inferInstanceAs (Decidable (_ ∨ _))

/-- No input comes after a path. -/
def NoInputAfterPath (arguments : List String) : Prop :=
  arguments.Pairwise fun first later ↦ IsPath first → ¬ IsInput later

/-- Where the standard input is named, it is the only input. -/
def StdinAlone (arguments : List String) : Prop :=
  "-" ∈ arguments → arguments.countP (IsInput ·) ≤ 1

variable {argument : String} {arguments other : List String}

/-- A flag is no input. -/
theorem IsHelp.not_isInput (h : IsHelp argument) : ¬ IsInput argument := by
  obtain rfl | rfl := h <;> decide

/-- A path is an input. -/
theorem IsPath.isInput (h : IsPath argument) : IsInput argument :=
  .inr h

namespace Options

variable {options result : Options}

/-- What the arguments ask for, if none of them is wrong. -/
def asked (arguments : List String) : Options :=
  { path := arguments.find? (IsPath ·), help := arguments.any (IsHelp ·) }

/-- A flag asks for help. -/
theorem take_of_isHelp (options : Options) (h : IsHelp argument) :
    options.take argument = .ok { options with help := true } :=
  if_pos h

/-- What is neither a flag nor an input is not recognized. -/
theorem take_of_unknown (options : Options) (hhelp : ¬ IsHelp argument)
    (hinput : ¬ IsInput argument) :
    options.take argument = .error (.unrecognized argument) := by
  have hunknown : StartsWithHyphen argument ∧ argument ≠ "-" := by
    simpa [IsInput, IsPath, and_comm] using hinput
  rw [take, if_neg hhelp, if_pos hunknown]

/-- An input is taken unless a path was given before, and a path is remembered. -/
theorem take_of_isInput (options : Options) (h : IsInput argument) :
    options.take argument =
      if options.path.isSome then .error (.unexpected argument)
      else .ok { options with path := [argument].find? (IsPath ·) } := by
  have hhelp : ¬ IsHelp argument := fun hhelp ↦ hhelp.not_isInput h
  obtain rfl | hpath := h
  · obtain ⟨_ | path, help⟩ := options <;> rfl
  · have hstdin : argument ≠ "-" := fun heq ↦ hpath (by rw [heq]; rfl)
    have hknown : ¬ (StartsWithHyphen argument ∧ argument ≠ "-") := fun hunknown ↦
      hpath hunknown.1
    rw [take, if_neg hhelp, if_neg hknown, if_neg hstdin]
    simp [hpath]

/-- The options that arguments lead to from other options. -/
theorem foldlM_take_eq_ok_iff :
    arguments.foldlM take options = .ok result ↔
      (∀ a ∈ arguments, IsHelp a ∨ IsInput a) ∧
        (options.path.isSome → ∀ a ∈ arguments, ¬ IsInput a) ∧ NoInputAfterPath arguments ∧
        result =
          { path := options.path <|> (asked arguments).path
            help := options.help || (asked arguments).help } := by
  induction arguments generalizing options with
  | nil =>
      have hsame : options = result ↔ result = options := eq_comm
      simpa [pure, Except.pure, asked, NoInputAfterPath] using hsame
  | cons a rest ih =>
      rw [List.foldlM_cons]
      -- The first argument is a flag, an input or wrong. Only an input looks at the path so far.
      by_cases hhelp : IsHelp a
      · rw [take_of_isHelp options hhelp, ok_bind, ih]
        have hpath : ¬ IsPath a := fun hpath ↦ hhelp.not_isInput hpath.isInput
        simp [asked, NoInputAfterPath, hhelp, hhelp.not_isInput, hpath]
      · by_cases hinput : IsInput a
        · rw [take_of_isInput options hinput]
          cases hpath : options.path with
          | some path => simp [hinput]
          | none =>
              rw [if_neg (by simp), ok_bind, ih]
              by_cases hnamed : IsPath a
              · simp [asked, NoInputAfterPath, hhelp, hinput, hnamed, and_assoc]
              · simp [asked, NoInputAfterPath, hhelp, hinput, hnamed]
        · rw [take_of_unknown options hhelp hinput]
          simp [hhelp, hinput]

/-- Arguments are accepted exactly when each is a flag or an input and no input comes after a
path. -/
theorem parse_eq_ok_iff :
    parse arguments = .ok options ↔ (∀ a ∈ arguments, IsHelp a ∨ IsInput a) ∧
      NoInputAfterPath arguments ∧ options = asked arguments := by
  rw [parse, foldlM_take_eq_ok_iff]
  simp [asked]

end Options

/-! ## Inputs in another order -/

/-- Where there is no more than one input, none comes after a path. -/
theorem noInputAfterPath_of_countP_le_one (h : arguments.countP (IsInput ·) ≤ 1) :
    NoInputAfterPath arguments := by
  induction arguments with
  | nil => exact .nil
  | cons a rest ih =>
      rw [List.countP_cons] at h
      -- A path and an input after it would be two inputs.
      refine List.pairwise_cons.mpr ⟨fun b hb hpath hinput ↦ ?_, ih (by omega)⟩
      have hmore : 0 < rest.countP (IsInput ·) :=
        List.countP_pos_iff.mpr ⟨b, hb, decide_eq_true hinput⟩
      rw [if_pos (decide_eq_true hpath.isInput)] at h
      omega

/-- Without the standard input there is no more than one input, if none comes after a path. -/
theorem NoInputAfterPath.countP_le_one (h : NoInputAfterPath arguments) (hstdin : "-" ∉ arguments) :
    arguments.countP (IsInput ·) ≤ 1 := by
  induction arguments with
  | nil => exact Nat.zero_le 1
  | cons a rest ih =>
      obtain ⟨hfirst, hrest⟩ := List.pairwise_cons.mp h
      rw [List.mem_cons, not_or] at hstdin
      by_cases hinput : IsInput a
      · have hpath : IsPath a := hinput.resolve_left (Ne.symm hstdin.1)
        have hnone : rest.countP (IsInput ·) = 0 :=
          List.countP_eq_zero.mpr fun b hb ↦ by simpa using hfirst b hb hpath
        rw [List.countP_cons, hnone]
        split <;> omega
      · rw [List.countP_cons_of_neg (by simpa using hinput)]
        exact ih hrest hstdin.2

/-- There is one path at most if no input comes after one. -/
theorem NoInputAfterPath.subsingleton (h : NoInputAfterPath arguments) :
    {a ∈ arguments | IsPath a}.Subsingleton := by
  rintro a ⟨ha, hpath⟩ b ⟨hb, hpath'⟩
  obtain ⟨i, hi, rfl⟩ := List.getElem_of_mem ha
  obtain ⟨j, hj, rfl⟩ := List.getElem_of_mem hb
  -- Of two paths at different positions, the later one would be an input after a path.
  have horder := List.pairwise_iff_getElem.mp h
  obtain hlt | rfl | hgt := Nat.lt_trichotomy i j
  · exact absurd hpath'.isInput (horder i j hi hj hlt hpath)
  · rfl
  · exact absurd hpath.isInput (horder j i hj hi hgt hpath')

namespace Options

variable {options : Options}

/-- What accepted arguments ask for does not depend on their order. -/
theorem asked_perm (h : NoInputAfterPath arguments) (hperm : other.Perm arguments) :
    asked other = asked arguments := by
  have hpath : arguments.find? (IsPath ·) = other.find? (IsPath ·) :=
    List.find?_eq_find?_of_perm hperm.symm (by simpa using h.subsingleton)
  rw [asked, asked, hpath, hperm.any_eq]

/-- Arguments in another order are accepted exactly when no input comes after a path in it, and then
ask for the same. -/
theorem parse_perm_eq_ok_iff (h : parse arguments = .ok options) (hperm : other.Perm arguments) :
    parse other = .ok options ↔ NoInputAfterPath other := by
  obtain ⟨hkinds, horder, rfl⟩ := parse_eq_ok_iff.mp h
  rw [parse_eq_ok_iff, asked_perm horder hperm]
  have hkinds' : ∀ a ∈ other, IsHelp a ∨ IsInput a := fun a ha ↦
    hkinds a (hperm.mem_iff.mp ha)
  exact ⟨fun hother ↦ hother.2.1, fun horder' ↦ ⟨hkinds', horder', rfl⟩⟩

/-- Where the standard input is the only input if it is named, no more than one is accepted. -/
theorem noInputAfterPath_iff_of_stdinAlone (h : StdinAlone arguments) :
    NoInputAfterPath arguments ↔ arguments.countP (IsInput ·) ≤ 1 := by
  refine ⟨fun horder ↦ ?_, noInputAfterPath_of_countP_le_one⟩
  by_cases hstdin : "-" ∈ arguments
  · exact h hstdin
  · exact horder.countP_le_one hstdin

/-- Flags and inputs are accepted exactly when no input comes after a path. Arguments that are
accepted are accepted, and ask for the same, in every order in which no input comes after a path.
Where the standard input is the only input if it is named, no more than one input is accepted, and
then in every order. -/
theorem parse_inputs_in_order (arguments : List String) :
    ((∀ a ∈ arguments, IsHelp a ∨ IsInput a) →
      ((∃ options, parse arguments = .ok options) ↔ NoInputAfterPath arguments) ∧
      (StdinAlone arguments →
        ((∃ options, parse arguments = .ok options) ↔ arguments.countP (IsInput ·) ≤ 1))) ∧
    ∀ options, parse arguments = .ok options → ∀ other, other.Perm arguments →
      (parse other = .ok options ↔ NoInputAfterPath other) ∧
      (StdinAlone arguments → parse other = .ok options) := by
  refine ⟨fun hkinds ↦ ?_, fun options h other hperm ↦ ?_⟩
  · have haccepted : (∃ options, parse arguments = .ok options) ↔ NoInputAfterPath arguments := by
      refine ⟨fun ⟨options, h⟩ ↦ (parse_eq_ok_iff.mp h).2.1, fun horder ↦ ?_⟩
      exact ⟨asked arguments, parse_eq_ok_iff.mpr ⟨hkinds, horder, rfl⟩⟩
    exact ⟨haccepted, fun hstdin ↦ haccepted.trans (noInputAfterPath_iff_of_stdinAlone hstdin)⟩
  · have haccepted := parse_perm_eq_ok_iff h hperm
    have horder := (parse_eq_ok_iff.mp h).2.1
    refine ⟨haccepted, fun hstdin ↦ haccepted.mpr (noInputAfterPath_of_countP_le_one ?_)⟩
    rw [hperm.countP_eq]
    exact (noInputAfterPath_iff_of_stdinAlone hstdin).mp horder

/-- A flag and a path are accepted in both orders. -/
theorem parse_inputs_in_order_flag :
    StdinAlone ["-h", "a.txt"] ∧ (∀ a ∈ ["-h", "a.txt"], IsHelp a ∨ IsInput a) ∧
      (∃ options, parse ["-h", "a.txt"] = .ok options) ∧
      parse ["-h", "a.txt"] = .ok { path := some "a.txt", help := true } ∧
      ["a.txt", "-h"].Perm ["-h", "a.txt"] ∧
      parse ["a.txt", "-h"] = .ok { path := some "a.txt", help := true } := by
  have hstdin : StdinAlone ["-h", "a.txt"] := fun _ ↦ by decide
  have hkinds : ∀ a ∈ ["-h", "a.txt"], IsHelp a ∨ IsInput a := by decide
  have hparse : parse ["-h", "a.txt"] = .ok { path := some "a.txt", help := true } := by rfl
  have hperm : ["a.txt", "-h"].Perm ["-h", "a.txt"] := .swap ..
  obtain ⟨haccepted, horders⟩ := parse_inputs_in_order ["-h", "a.txt"]
  exact ⟨hstdin, hkinds, ((haccepted hkinds).2 hstdin).mpr (by decide), hparse, hperm,
    (horders _ hparse _ hperm).2 hstdin⟩

/-- The standard input and then a path are two inputs and are accepted, but not in the other
order. -/
theorem parse_stdin_then_path :
    (∀ a ∈ ["-", "a.txt"], IsHelp a ∨ IsInput a) ∧ ["-", "a.txt"].countP (IsInput ·) = 2 ∧
      parse ["-", "a.txt"] = .ok { path := some "a.txt" } ∧
      ["a.txt", "-"].Perm ["-", "a.txt"] ∧
      parse ["a.txt", "-"] = .error (.unexpected "-") := by
  have hparse : parse ["-", "a.txt"] = .ok { path := some "a.txt" } := by rfl
  have hrefused : parse ["a.txt", "-"] = .error (.unexpected "-") := by rfl
  exact ⟨by decide, by decide, hparse, .swap .., hrefused⟩

end Options

end ChainProduct.Command
