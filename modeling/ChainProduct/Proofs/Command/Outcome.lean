import ChainProduct.Command.Folder
import ChainProduct.Command.Run
import ChainProduct.Proofs.Settled

/-!
# What a run of the command leaves behind

The main theorem, `run_honours_contract`, says what status a run ends with and what it prints, for
all arguments, for whatever the standard input gives and however paths are opened. Wrong arguments
end it with status two and the help text, a request for help with status zero. Any other run ends
with status zero and the least cost of the chain that was read, or with status one and the reason
why there is none. No cost is printed beside a message or with another status.

Nothing is read before the arguments are known to be right and to ask for a cost (`run_of_usage`,
`run_of_help`).
-/

namespace ChainProduct.Command

/-- The verdict on the input that the options name. A path that cannot be opened is an input that
cannot be read. -/
def Options.verdict (options : Options) (stdin : Source)
    (openFile : String → Except ReadError Source) : Verdict :=
  match options.path with
  | none => Chain.read stdin
  | some path =>
      match openFile path with
      | .error error => .error (.unreadable error)
      | .ok source => Chain.read source

/-- The arguments ask for the cost of an input, and this is the verdict on it. -/
def Judges (arguments : List String) (stdin : Source)
    (openFile : String → Except ReadError Source) (verdict : Verdict) : Prop :=
  ∃ options, Options.parse arguments = .ok options ∧ options.help = false ∧
    options.verdict stdin openFile = verdict

/-- What a run owes for its arguments and its input. -/
structure HonoursContract (arguments : List String) (stdin : Source)
    (openFile : String → Except ReadError Source) (outcome : Outcome) : Prop where
  /-- Wrong arguments are reported, with the help text. -/
  usage : ∀ error, Options.parse arguments = .error error →
    outcome = { status := 2, out := helpText, err := "mcm: " ++ error.message ++ "\n" }
  /-- Help is given whatever the input is. -/
  help : ∀ options, Options.parse arguments = .ok options → options.help = true →
    outcome = { status := 0, out := helpText, err := "" }
  /-- The status tells whether the input was accepted. -/
  status_eq_zero_iff : ∀ verdict, Judges arguments stdin openFile verdict →
    (outcome.status = 0 ↔ ∃ chain, verdict = .ok chain)
  /-- The least cost of an accepted chain is all that is printed. -/
  accepted : ∀ chain, Judges arguments stdin openFile (.ok chain) →
    ∃ cost, IsLeastCost chain.entry 0 (chain.matrices - 1) cost ∧
      outcome = { status := 0, out := toString cost ++ "\n", err := "" }
  /-- A refused input is reported with the reason. -/
  refused : ∀ cause, Judges arguments stdin openFile (.error cause) →
    outcome = { status := 1, out := "", err := "mcm: invalid input: " ++ cause.reason ++ "\n" }
  /-- A printed cost is that of an accepted chain, and no message is beside it. -/
  printed : ∀ cost : Nat, outcome.out = toString cost ++ "\n" →
    outcome.status = 0 ∧ outcome.err = "" ∧ ∃ chain, Judges arguments stdin openFile (.ok chain) ∧
      IsLeastCost chain.entry 0 (chain.matrices - 1) cost

/-! ## Texts -/

/-- A cost is written with its decimal digits. -/
theorem toList_cost (cost : Nat) :
    (toString cost ++ "\n").toList = Nat.toDigits 10 cost ++ ['\n'] := by
  rw [String.toList_append, Nat.toString_eq_repr, Nat.toList_repr]
  rfl

/-- The help text is no cost: it starts with a letter. -/
theorem helpText_ne_cost (cost : Nat) : helpText ≠ toString cost ++ "\n" := by
  intro h
  have hmem : 'U' ∈ helpText.toList := by
    unfold helpText
    simp only [String.append_assoc]
    rw [String.toList_append]
    exact List.mem_append_left _ (by decide)
  rw [h, toList_cost, List.mem_append] at hmem
  cases hmem with
  | inl hdigit =>
      have hU : 'U'.isDigit = true :=
        Nat.isDigit_of_mem_toDigits (Nat.zero_lt_succ 9) (Nat.le_refl 10) hdigit
      cases hU
  | inr hfeed => simp at hfeed

/-- Nothing at all is no cost. -/
theorem empty_ne_cost (cost : Nat) : "" ≠ toString cost ++ "\n" := by
  intro h
  have hlist := congrArg String.toList h
  rw [toList_cost] at hlist
  simp at hlist

/-- A cost can be read off its text. -/
theorem cost_inj {cost other : Nat} (h : toString cost ++ "\n" = toString other ++ "\n") :
    cost = other := by
  have hlist := congrArg String.toList h
  rw [toList_cost, toList_cost] at hlist
  have hvalue := congrArg (Nat.ofDigitChars 10 · 0) (List.append_cancel_right hlist)
  simpa [Nat.ofDigitChars_ten_toDigits] using hvalue

/-! ## Stages of a run -/

section Reads

variable {m : Type → Type} [Monad m] {arguments : List String} {input : m Source}
  {openFile : String → m (Except ReadError Source)}

/-- Nothing is read when the arguments are wrong. -/
theorem run_of_usage {error : UsageError} (h : Options.parse arguments = .error error) :
    run arguments input openFile = pure (.ok (.usage error)) := by
  simp only [run, h]

/-- Nothing is read when help is asked for. -/
theorem run_of_help {options : Options} (h : Options.parse arguments = .ok options)
    (hhelp : options.help = true) : run arguments input openFile = pure (.ok .help) := by
  obtain ⟨path, _⟩ := options
  subst hhelp
  simp only [run, h]

end Reads

variable {arguments : List String} {stdin : Source}
  {openFile : String → Except ReadError Source} {verdict : Verdict}

/-- A run that asks for a cost reports what comes of its input. -/
theorem run_of_judges (h : Judges arguments stdin openFile verdict) :
    run (m := Id) arguments stdin openFile = report (Solved.ofInput verdict Chain.minCost) := by
  obtain ⟨⟨path, _⟩, hparse, rfl, rfl⟩ := h
  cases path with
  | none => simp only [run, hparse]; rfl
  | some path =>
      simp only [run, hparse, Options.verdict]
      change (match openFile path with | .error error => _ | .ok source => _) = _
      cases openFile path with
      | error error => rfl
      | ok source => rfl

/-- Arguments that ask for a cost are not wrong. -/
theorem Judges.parse_ne_error (h : Judges arguments stdin openFile verdict) (error : UsageError) :
    Options.parse arguments ≠ .error error := by
  obtain ⟨options, hparse, -⟩ := h
  simp [hparse]

/-- Arguments that ask for a cost do not ask for help. -/
theorem Judges.help_eq_false (h : Judges arguments stdin openFile verdict) {options : Options}
    (hoptions : Options.parse arguments = .ok options) : options.help = false := by
  obtain ⟨_, hparse, hhelp, -⟩ := h
  obtain rfl := Except.ok.inj (hparse.symm.trans hoptions)
  exact hhelp

/-- An input has one verdict. -/
theorem Judges.unique {other : Verdict} (h : Judges arguments stdin openFile verdict)
    (h' : Judges arguments stdin openFile other) : other = verdict := by
  obtain ⟨options, hparse, -, rfl⟩ := h
  obtain ⟨options', hparse', -, rfl⟩ := h'
  rw [hparse] at hparse'
  cases hparse'
  rfl

/-- An accepted chain whose table fits in memory is answered with its least cost. -/
theorem run_of_accepted {chain : Chain} (h : Judges arguments stdin openFile (.ok chain))
    (fits : FitsMemory chain.matrices) :
    run (m := Id) arguments stdin openFile =
      .ok (.success (leastCost chain.entry 0 (chain.matrices - 1))) := by
  rw [run_of_judges h, Solved.ofInput]
  show report (chain.minCost.mapError .fault) = _
  rw [Chain.minCost_eq_leastCost fits]
  rfl

/-- A refused input is answered with the reason. -/
theorem run_of_refused {cause : InputError}
    (h : Judges arguments stdin openFile (.error cause)) :
    run (m := Id) arguments stdin openFile = .ok (.refusal cause) :=
  run_of_judges h

/-! ## The contract -/

/-- Wrong arguments are answered as the contract says. -/
theorem honours_usage {error : UsageError} (h : Options.parse arguments = .error error) :
    HonoursContract arguments stdin openFile (.usage error) where
  usage := by simp [h, Outcome.usage, complaint]
  help := by simp [h]
  status_eq_zero_iff := by simp [Judges, h]
  accepted := by simp [Judges, h]
  refused := by simp [Judges, h]
  printed cost hcost := absurd hcost (helpText_ne_cost cost)

/-- A request for help is answered as the contract says. -/
theorem honours_help {options : Options} (h : Options.parse arguments = .ok options)
    (hhelp : options.help = true) : HonoursContract arguments stdin openFile .help where
  usage := by simp [h]
  help _ _ _ := rfl
  status_eq_zero_iff := by simp [Judges, h, hhelp]
  accepted := by simp [Judges, h, hhelp]
  refused := by simp [Judges, h, hhelp]
  printed cost hcost := absurd hcost (helpText_ne_cost cost)

/-- The least cost of an accepted chain is the answer that the contract asks for. -/
theorem honours_success {chain : Chain} {cost : Nat}
    (h : Judges arguments stdin openFile (.ok chain))
    (hcost : IsLeastCost chain.entry 0 (chain.matrices - 1) cost) :
    HonoursContract arguments stdin openFile (.success cost) where
  usage error herror := absurd herror (h.parse_ne_error error)
  help options hoptions hhelp := by simp [h.help_eq_false hoptions] at hhelp
  status_eq_zero_iff := by
    intro verdict hverdict
    obtain rfl := h.unique hverdict
    simp [Outcome.success]
  accepted := by
    intro other hother
    cases h.unique hother
    exact ⟨cost, hcost, rfl⟩
  refused := by
    intro cause hcause
    cases h.unique hcause
  printed := by
    intro other hother
    obtain rfl := cost_inj hother
    exact ⟨rfl, rfl, chain, h, hcost⟩

/-- The reason for which an input is refused is the answer that the contract asks for. -/
theorem honours_refusal {cause : InputError}
    (h : Judges arguments stdin openFile (.error cause)) :
    HonoursContract arguments stdin openFile (.refusal cause) where
  usage error herror := absurd herror (h.parse_ne_error error)
  help options hoptions hhelp := by simp [h.help_eq_false hoptions] at hhelp
  status_eq_zero_iff := by
    intro verdict hverdict
    obtain rfl := h.unique hverdict
    simp [Outcome.refusal]
  accepted := by
    intro chain hchain
    cases h.unique hchain
  refused := by
    intro other hother
    cases h.unique hother
    simp [Outcome.refusal, complaint, InputError.message, ← String.append_assoc]
  printed cost hcost := absurd hcost (empty_ne_cost cost)

/-- A run ends with what the contract says, unless the table of an accepted chain does not fit in
memory. -/
theorem run_honours_contract (arguments : List String) (stdin : Source)
    (openFile : String → Except ReadError Source)
    (fits : ∀ chain, Judges arguments stdin openFile (.ok chain) → FitsMemory chain.matrices) :
    ∃ outcome, run (m := Id) arguments stdin openFile = .ok outcome ∧
      HonoursContract arguments stdin openFile outcome := by
  cases hparse : Options.parse arguments with
  | error error => exact ⟨_, run_of_usage hparse, honours_usage hparse⟩
  | ok options =>
      cases hhelp : options.help with
      | true => exact ⟨_, run_of_help hparse hhelp, honours_help hparse hhelp⟩
      | false =>
          have hjudges : Judges arguments stdin openFile (options.verdict stdin openFile) :=
            ⟨options, hparse, hhelp, rfl⟩
          cases hverdict : options.verdict stdin openFile with
          | error cause =>
              rw [hverdict] at hjudges
              exact ⟨_, run_of_refused hjudges, honours_refusal hjudges⟩
          | ok chain =>
              rw [hverdict] at hjudges
              have hleast := isLeastCost_leastCost chain.entry (Nat.zero_le (chain.matrices - 1))
              exact ⟨_, run_of_accepted hjudges (fits chain hjudges),
                honours_success hjudges hleast⟩

/-- Three matrices on the standard input are answered with their least cost, and two in a file of the
folder are when the file is named. -/
theorem run_honours_contract_three :
    let stdin := Source.ofText "3\n10\n100\n5\n50\n"
    let openFile := Folder.openFile [⟨"chain.txt", "2\n4\n5\n6\n".toUTF8.data.toList⟩]
    ((∀ chain, Judges [] stdin openFile (.ok chain) → FitsMemory chain.matrices) ∧
      run (m := Id) [] stdin openFile = .ok { status := 0, out := "7500\n", err := "" } ∧
      ∃ chain, Judges [] stdin openFile (.ok chain) ∧
        IsLeastCost chain.entry 0 (chain.matrices - 1) 7500) ∧
    (∀ chain, Judges ["chain.txt"] stdin openFile (.ok chain) → FitsMemory chain.matrices) ∧
      run (m := Id) ["chain.txt"] stdin openFile = .ok { status := 0, out := "120\n", err := "" } ∧
      ∃ chain, Judges ["chain.txt"] stdin openFile (.ok chain) ∧
        IsLeastCost chain.entry 0 (chain.matrices - 1) 120 := by
  intro stdin openFile
  have hanswer (arguments : List String) (cost : Nat) {chain : Chain}
      (hchain : Judges arguments stdin openFile (.ok chain)) (hfits : FitsMemory chain.matrices)
      (hrun : run (m := Id) arguments stdin openFile = .ok (.success cost)) :
      (∀ chain, Judges arguments stdin openFile (.ok chain) → FitsMemory chain.matrices) ∧
        run (m := Id) arguments stdin openFile = .ok (.success cost) ∧
        ∃ chain, Judges arguments stdin openFile (.ok chain) ∧
          IsLeastCost chain.entry 0 (chain.matrices - 1) cost := by
    have fits : ∀ chain, Judges arguments stdin openFile (.ok chain) →
        FitsMemory chain.matrices := by
      intro other hother
      cases hchain.unique hother
      exact hfits
    obtain ⟨outcome, houtcome, honours⟩ := run_honours_contract arguments stdin openFile fits
    obtain rfl := Except.ok.inj (hrun.symm.trans houtcome)
    obtain ⟨-, -, least⟩ := honours.printed cost rfl
    exact ⟨fits, hrun, least⟩
  have hthree : FitsMemory 3 := by decide
  have htwo : FitsMemory 2 := by decide
  exact ⟨hanswer [] 7500 ⟨{}, rfl, rfl, rfl⟩ hthree rfl,
    hanswer ["chain.txt"] 120 ⟨{ path := some "chain.txt" }, rfl, rfl, rfl⟩ htwo rfl⟩

end ChainProduct.Command
