import ChainProduct.Proofs.Command.Arguments
import Mathlib.Order.Bounds.Basic

/-!
# The first wrong argument

Which arguments are wrong, told without parsing them. `WrongAfter` says what is wrong with one
argument, given those before it: it is an unknown flag, or an input although a path came before it.
What comes after an argument plays no part in that, nor does a request for help.

The main theorem, `Options.parse_reports_first_wrong`, says that parsing fails exactly when an
argument is wrong, and reports the first one that is. Otherwise the help text is wanted exactly
when a flag asks for it, and the only path is the one to read.
-/

namespace ChainProduct.Command

/-! ## Wrong arguments -/

/-- The argument looks like a flag, but there is no such flag. -/
def IsUnknownFlag (argument : String) : Prop :=
  StartsWithHyphen argument ∧ argument ≠ "-" ∧ ¬ IsHelp argument

/-- What is wrong with an argument that comes after others, as a message. -/
inductive WrongAfter (before : List String) (argument : String) : String → Prop
  | unknown (h : IsUnknownFlag argument) :
      WrongAfter before argument ("unrecognized argument '" ++ argument ++ "'")
  | surplus (h : IsInput argument) (hpath : ∃ path ∈ before, IsPath path) :
      WrongAfter before argument ("unexpected extra argument '" ++ argument ++ "'")

/-- What is wrong with the argument at a position, counted from zero. -/
def WrongAt (arguments : List String) (position : Nat) (message : String) : Prop :=
  ∃ argument, arguments[position]? = some argument ∧
    WrongAfter (arguments.take position) argument message

/-- The positions of wrong arguments. -/
def wrongPositions (arguments : List String) : Set Nat :=
  {position | ∃ message, WrongAt arguments position message}

variable {argument message : String} {arguments before : List String} {position : Nat}

/-- Only an unknown flag is neither a flag nor an input. -/
theorem isUnknownFlag_iff :
    IsUnknownFlag argument ↔ ¬ (IsHelp argument ∨ IsInput argument) := by
  rw [IsUnknownFlag, IsInput, IsPath]
  tauto

/-- An argument after others is not wrong exactly when it is a flag or an input, and no input if
one of the others is a path. -/
theorem not_wrongAfter_iff :
    (∀ message, ¬ WrongAfter before argument message) ↔
      (IsHelp argument ∨ IsInput argument) ∧
        ((∃ path ∈ before, IsPath path) → ¬ IsInput argument) := by
  refine ⟨fun hright ↦ ⟨?_, fun hpath h ↦ hright _ (.surplus h hpath)⟩, ?_⟩
  · exact not_not.mp fun h ↦ hright _ (.unknown (isUnknownFlag_iff.mpr h))
  · rintro ⟨hkind, horder⟩ message (h | ⟨h, hpath⟩)
    · exact isUnknownFlag_iff.mp h hkind
    · exact horder hpath h

/-- What is wrong with an argument does not depend on those that come later. -/
theorem wrongAt_append (after : List String) (h : position < before.length) :
    WrongAt (before ++ after) position message ↔ WrongAt before position message := by
  rw [WrongAt, WrongAt, List.getElem?_append_left h, List.take_append_of_le_length h.le]

/-- No argument is wrong exactly when each is a flag or an input and no input comes after a path. -/
theorem wrongPositions_eq_empty_iff :
    wrongPositions arguments = ∅ ↔
      (∀ a ∈ arguments, IsHelp a ∨ IsInput a) ∧ NoInputAfterPath arguments := by
  have hright : wrongPositions arguments = ∅ ↔ ∀ p, (hp : p < arguments.length) →
      ∀ message, ¬ WrongAfter (arguments.take p) arguments[p] message := by
    rw [Set.eq_empty_iff_forall_notMem]
    refine forall_congr' fun p ↦ ?_
    by_cases hp : p < arguments.length <;> simp [wrongPositions, WrongAt, hp]
  simp only [hright, not_wrongAfter_iff]
  rw [NoInputAfterPath, List.pairwise_iff_getElem]
  constructor
  · intro h
    refine ⟨fun a ha ↦ ?_, fun i j hi hj hij hpath ↦ (h j hj).2 ⟨arguments[i], ?_, hpath⟩⟩
    · obtain ⟨p, hp, rfl⟩ := List.getElem_of_mem ha
      exact (h p hp).1
    · exact List.mem_take_iff_getElem.mpr ⟨i, by omega, rfl⟩
  · rintro ⟨hkinds, horder⟩ p hp
    refine ⟨hkinds _ (List.getElem_mem hp), ?_⟩
    rintro ⟨path, hmem, hpath⟩
    obtain ⟨i, hi, rfl⟩ := List.mem_take_iff_getElem.mp hmem
    exact horder i p (by omega) hp (by omega) hpath

/-! ## Reports -/

namespace Options

variable {options : Options}

/-- Arguments are accepted exactly when none of them is wrong. -/
theorem parse_eq_ok_iff_of_wrongPositions :
    parse arguments = .ok options ↔
      wrongPositions arguments = ∅ ∧ options = asked arguments := by
  rw [parse_eq_ok_iff, wrongPositions_eq_empty_iff, and_assoc]

/-- A wrong argument is refused with its message, on what those before it ask for. -/
theorem exists_take_asked_eq_error (h : WrongAfter before argument message) :
    ∃ error, (asked before).take argument = .error error ∧ error.message = message := by
  cases h with
  | unknown h =>
      obtain ⟨hhelp, hinput⟩ := not_or.mp (isUnknownFlag_iff.mp h)
      exact ⟨_, take_of_unknown _ hhelp hinput, rfl⟩
  | surplus h hpath =>
      have hseen : (asked before).path.isSome := by
        simpa [asked] using hpath
      exact ⟨_, (take_of_isInput _ h).trans (if_pos hseen), rfl⟩

/-- Arguments of which the last is the first that is wrong are refused with its message, whatever
follows them. -/
theorem exists_parse_append_eq_error (hbefore : wrongPositions before = ∅)
    (h : WrongAfter before argument message) :
    ∃ error : UsageError, error.message = message ∧
      ∀ after, parse (before ++ argument :: after) = .error error := by
  obtain ⟨error, htake, hmessage⟩ := exists_take_asked_eq_error h
  have hparse : before.foldlM take {} = .ok (asked before) :=
    parse_eq_ok_iff_of_wrongPositions.mpr ⟨hbefore, rfl⟩
  refine ⟨error, hmessage, fun after ↦ ?_⟩
  rw [parse, List.foldlM_append, hparse, ok_bind, List.foldlM_cons, htake, error_bind]

/-- The first wrong argument is reported, whatever follows it. -/
theorem exists_parse_eq_error_of_isLeast (hfirst : IsLeast (wrongPositions arguments) position)
    (h : WrongAt arguments position message) :
    ∃ error : UsageError, error.message = message ∧
      ∀ after, parse (arguments.take (position + 1) ++ after) = .error error := by
  obtain ⟨argument, hargument, hwrong⟩ := h
  obtain ⟨hlt, rfl⟩ := List.getElem?_eq_some_iff.mp hargument
  have hbefore : wrongPositions (arguments.take position) = ∅ := by
    -- An argument before this one that is wrong would be wrong in the whole list too.
    refine Set.eq_empty_iff_forall_notMem.mpr fun p ⟨other, hp⟩ ↦ ?_
    have hlow : p < (arguments.take position).length := by
      obtain ⟨a, ha, -⟩ := hp
      exact (List.getElem?_eq_some_iff.mp ha).1
    have hwhole := (wrongAt_append (arguments.drop position) hlow).mpr hp
    rw [List.take_append_drop] at hwhole
    have hle : position ≤ p := hfirst.2 ⟨other, hwhole⟩
    rw [List.length_take] at hlow
    omega
  obtain ⟨error, hmessage, hparse⟩ := exists_parse_append_eq_error hbefore hwrong
  refine ⟨error, hmessage, fun after ↦ ?_⟩
  rw [List.take_succ_eq_append_getElem hlt, List.append_assoc]
  exact hparse after

/-- Where no input comes after a path, the path that is asked for is the only one. -/
theorem filter_isPath_eq (h : NoInputAfterPath arguments) :
    arguments.filter (IsPath ·) = (asked arguments).path.toList := by
  induction arguments with
  | nil => rfl
  | cons a rest ih =>
      obtain ⟨hfirst, hrest⟩ := List.pairwise_cons.mp h
      by_cases hpath : IsPath a
      · have hnone : rest.filter (IsPath ·) = [] :=
          List.filter_eq_nil_iff.mpr fun b hb ↦ by
            simpa using fun hpath' : IsPath b ↦ hfirst b hb hpath hpath'.isInput
        rw [List.filter_cons_of_pos (by simpa using hpath), hnone]
        simp [asked, hpath]
      · rw [List.filter_cons_of_neg (by simpa using hpath), ih hrest]
        simp [asked, hpath]

/-- Where no input comes after a path, what is asked for is told by the flags and the paths. -/
theorem eq_asked_iff (h : NoInputAfterPath arguments) :
    options = asked arguments ↔
      (options.help = true ↔ ∃ a ∈ arguments, IsHelp a) ∧
        arguments.filter (IsPath ·) = options.path.toList := by
  have hflags : (asked arguments).help = true ↔ ∃ a ∈ arguments, IsHelp a := by
    simp [asked]
  constructor
  · rintro rfl
    exact ⟨hflags, filter_isPath_eq h⟩
  · rintro ⟨hhelp, hpaths⟩
    have hpath : options.path = (asked arguments).path := by
      rw [asked, ← List.head?_filter, hpaths, Option.head?_toList]
    have hhelp' : options.help = (asked arguments).help :=
      Bool.eq_iff_iff.mpr (hhelp.trans hflags.symm)
    rw [Options.mk.injEq]
    exact ⟨hpath, hhelp'⟩

/-- Parsing fails exactly when an argument is wrong. It reports the first one that is, whatever
follows it. Otherwise help is wanted exactly when a flag asks for it, and the path is the only
argument that is one, if there is one. -/
theorem parse_reports_first_wrong (arguments : List String) :
    ((∃ error, parse arguments = .error error) ↔
      ∃ position message, WrongAt arguments position message) ∧
    (∀ position message, IsLeast (wrongPositions arguments) position →
      WrongAt arguments position message →
      ∃ error, parse arguments = .error error ∧ error.message = message ∧
        ∀ after, parse (arguments.take (position + 1) ++ after) = .error error) ∧
    ∀ options, parse arguments = .ok options ↔
      (∀ position message, ¬ WrongAt arguments position message) ∧
      (options.help = true ↔ ∃ a ∈ arguments, IsHelp a) ∧
      arguments.filter (IsPath ·) = options.path.toList := by
  have hright : wrongPositions arguments = ∅ ↔
      ∀ position message, ¬ WrongAt arguments position message := by
    simp [Set.eq_empty_iff_forall_notMem, wrongPositions]
  refine ⟨?_, fun position message hfirst h ↦ ?_, fun options ↦ ?_⟩
  · have haccepted : (∃ options, parse arguments = .ok options) ↔ wrongPositions arguments = ∅ :=
      ⟨fun ⟨options, h⟩ ↦ (parse_eq_ok_iff_of_wrongPositions.mp h).1,
        fun h ↦ ⟨_, parse_eq_ok_iff_of_wrongPositions.mpr ⟨h, rfl⟩⟩⟩
    rw [hright] at haccepted
    have hfailed : (∃ error, parse arguments = .error error) ↔
        ¬ ∃ options, parse arguments = .ok options := by
      cases parse arguments <;> simp
    rw [hfailed, haccepted]
    simp
  · obtain ⟨error, hmessage, hparse⟩ := exists_parse_eq_error_of_isLeast hfirst h
    have hwhole := hparse (arguments.drop (position + 1))
    rw [List.take_append_drop] at hwhole
    exact ⟨error, hwhole, hmessage, hparse⟩
  · rw [parse_eq_ok_iff_of_wrongPositions, ← hright]
    refine and_congr_right fun hnone ↦ ?_
    obtain ⟨-, horder⟩ := wrongPositions_eq_empty_iff.mp hnone
    exact eq_asked_iff horder

/-- A standard input after a path is reported, although help was asked for before it and an
unknown flag follows. -/
theorem parse_reports_first_wrong_surplus :
    IsLeast (wrongPositions ["-h", "-", "a.txt", "-", "--all"]) 3 ∧
      WrongAt ["-h", "-", "a.txt", "-", "--all"] 3 "unexpected extra argument '-'" ∧
      ∃ error, parse ["-h", "-", "a.txt", "-", "--all"] = .error error ∧
        error.message = "unexpected extra argument '-'" := by
  have hwrong : WrongAt ["-h", "-", "a.txt", "-", "--all"] 3 "unexpected extra argument '-'" :=
    ⟨"-", rfl, .surplus (.inl rfl) ⟨"a.txt", by decide, by decide⟩⟩
  have hparse : parse ["-h", "-", "a.txt"] = .ok { path := some "a.txt", help := true } := by rfl
  have hfirst : IsLeast (wrongPositions ["-h", "-", "a.txt", "-", "--all"]) 3 := by
    refine ⟨⟨_, hwrong⟩, fun p ⟨message, hp⟩ ↦ Nat.le_of_not_lt fun hlow ↦ ?_⟩
    have hbefore : p < ["-h", "-", "a.txt"].length := hlow
    have hwrong := (wrongAt_append ["-", "--all"] hbefore).mp hp
    exact (parse_eq_ok_iff_of_wrongPositions.mp hparse).1.subset ⟨message, hwrong⟩
  obtain ⟨error, hrefused, hmessage, -⟩ :=
    (parse_reports_first_wrong _).2.1 3 _ hfirst hwrong
  exact ⟨hfirst, hwrong, error, hrefused, hmessage⟩

end Options

end ChainProduct.Command
