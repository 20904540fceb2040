import ChainProduct.Command.Run
import ChainProduct.Proofs.Input.Lines

/-!
# Messages stay on one line

An input that is refused may hold any bytes, and some of it is repeated in the message. What is
repeated is quoted, or is the numeral of a number that was read, so all of a message is printable
(`isPrintable_reason`), and it holds nothing that ends a line or steers a terminal. An input cannot
make the command print a line that looks like one of its own.

The main theorem, `report_refusal_isOneLine`, says so for every source that does not fail: what is
reported is one line. The text of a failure comes from elsewhere and is not quoted.
-/

namespace ChainProduct

namespace Text

/-- All of the text is printable. -/
def IsPrintable (text : String) : Prop :=
  ∀ c ∈ text.toList, isPrintable c

/-- The text holds no control character, no line separator and no paragraph separator. -/
def IsOneLine (text : String) : Prop :=
  ∀ c ∈ text.toList, isIn control c = false ∧ ¬ IsLineBreak c

/-- A printable text stays on one line. -/
theorem IsPrintable.isOneLine {text : String} (h : IsPrintable text) : IsOneLine text := by
  intro c hc
  have hprintable := h c hc
  refine ⟨Bool.eq_false_iff.mpr fun hcontrol ↦ ?_, fun hbreak ↦ ?_⟩
  · rw [isPrintable_of_isIn_control hcontrol] at hprintable
    cases hprintable
  · rw [isPrintable_of_isLineBreak hbreak] at hprintable
    cases hprintable

/-- A text of visible characters of ASCII and spaces is printable. -/
theorem isPrintable_of_visible {text : String} (h : text.toList.all isVisibleAscii) :
    IsPrintable text :=
  fun c hc ↦ isPrintable_of_isVisibleAscii (List.all_eq_true.mp h c hc)

/-- A text in two parts is printable when both are. -/
@[simp] theorem isPrintable_append {first second : String} :
    IsPrintable (first ++ second) ↔ IsPrintable first ∧ IsPrintable second := by
  simp only [IsPrintable, String.toList_append, List.mem_append, or_imp, forall_and]

/-- Quoted text is printable, whatever the text is. -/
@[simp] theorem isPrintable_quote (text : String) : IsPrintable (quote text) :=
  fun _ h ↦ isPrintable_of_mem_quote h

/-- The numeral of a natural number is printable. -/
@[simp] theorem isPrintable_repr_nat (number : Nat) : IsPrintable number.repr := by
  intro c hc
  rw [Nat.toList_repr] at hc
  obtain ⟨digit, hlt, rfl⟩ := exists_digitChar_of_mem_toDigits (by decide) hc
  exact isPrintable_digitChar (by omega)

/-- The numeral of an integer is printable. -/
@[simp] theorem isPrintable_repr_int (number : Int) : IsPrintable number.repr := by
  cases number with
  | ofNat value => exact isPrintable_repr_nat value
  | negSucc value =>
      have hminus : IsPrintable "-" := isPrintable_of_visible rfl
      exact isPrintable_append.mpr ⟨hminus, isPrintable_repr_nat (value + 1)⟩

end Text

open Text

/-! ## Reasons -/

/-- What the reason repeats without quotes is printable. -/
def InputError.RepeatsPrintable : InputError → Prop
  | .badDimension written _ => IsPrintable written
  | .unreadable cause => IsPrintable cause.text
  | .custom reason => IsPrintable reason
  | _ => True

/-- All else in a reason is printable. -/
theorem InputError.isPrintable_reason {cause : InputError} (h : cause.RepeatsPrintable) :
    IsPrintable cause.reason := by
  unfold reason
  -- Beside what it repeats, a reason is made of texts in ASCII, numerals and quoted texts.
  cases cause with
  | custom reason => exact h
  | badDimension written position =>
      have hwritten : IsPrintable (toString written) := h
      simp (disch := decide +kernel) [isPrintable_of_visible, hwritten]
  | unreadable error =>
      have htext : IsPrintable error.text := h
      simp (disch := decide +kernel) [isPrintable_of_visible, htext]
  | _ => simp (disch := decide +kernel) [isPrintable_of_visible]

/-- So is all of a message. -/
theorem InputError.isPrintable_message {cause : InputError} (h : cause.RepeatsPrintable) :
    IsPrintable cause.message :=
  isPrintable_append.mpr
    ⟨isPrintable_of_visible rfl, isPrintable_reason h⟩

/-! ## What reading reports -/

/-- What is refused for a cause is reported with this cause. -/
theorem repeatsPrintable_of_refuse {α : Type} {cause reported : InputError}
    (h : (refuse cause : Scan α) = .error (.error reported)) (hcause : cause.RepeatsPrintable) :
    reported.RepeatsPrintable := by
  obtain rfl : cause = reported := Except.error.inj (Except.error.inj h)
  exact hcause

/-- A list of numbers that is no chain is refused with the numeral of one of them, or with how many
there are. -/
theorem Chain.repeatsPrintable_of_ofList {numbers : List Int} {cause : InputError}
    (h : ofList numbers = .error cause) : cause.RepeatsPrintable := by
  obtain ⟨number, position, -, rfl⟩ | rfl := cause_of_ofList h
  · exact isPrintable_repr_int number
  · trivial

/-- A value that is refused is quoted, or its number is given. -/
theorem Stage.repeatsPrintable_of_take {stage : Stage} {line : Nat} {value : List Char}
    {cause : InputError} (h : stage.take line value = .error (.error cause)) :
    cause.RepeatsPrintable := by
  cases stage with
  | count =>
      simp only [take] at h
      split at h
      · exact repeatsPrintable_of_refuse h trivial
      · exact repeatsPrintable_of_refuse h trivial
      · split at h
        · cases h
        · exact repeatsPrintable_of_refuse h trivial
  | dims matrices found =>
      simp only [take] at h
      split at h
      · exact repeatsPrintable_of_refuse h trivial
      · split at h
        · exact repeatsPrintable_of_refuse h trivial
        · split at h
          · cases h
          · -- All dimensions are there, and the list of them is judged.
            exact Chain.repeatsPrintable_of_ofList (Except.error.inj h)

/-- No shortage repeats anything of the input. -/
theorem Stage.repeatsPrintable_shortage (stage : Stage) : stage.shortage.RepeatsPrintable := by
  cases stage <;> trivial

namespace Scanner

/-- What stands on a line that is refused is quoted, or its number is given. -/
theorem repeatsPrintable_of_line {scanner : Scanner} {bytes : List UInt8} {cause : InputError}
    (h : scanner.line bytes = .error (.error cause)) : cause.RepeatsPrintable := by
  simp only [line] at h
  split at h
  · exact repeatsPrintable_of_refuse h (isPrintable_of_visible rfl)
  · cases h
  · exact repeatsPrintable_of_refuse h trivial
  · next value _ =>
      cases htake : scanner.stage.take (scanner.lines + 1) value with
      | error decision =>
          rw [htake] at h
          obtain rfl := Except.error.inj h
          exact Stage.repeatsPrintable_of_take htake
      | ok stage =>
          rw [htake] at h
          cases h

/-- So is what is refused of any number of lines, whichever of them decides. -/
theorem repeatsPrintable_of_verdict {scanner : Scanner} {lines : List (List UInt8)}
    {cause : InputError} (h : scanner.verdict lines = .error cause) : cause.RepeatsPrintable := by
  induction lines generalizing scanner with
  | nil =>
      obtain rfl : scanner.stage.shortage = cause := Except.error.inj h
      exact scanner.stage.repeatsPrintable_shortage
  | cons first rest ih =>
      cases hline : scanner.line first with
      | error decision =>
          rw [verdict_cons_of_error hline] at h
          subst h
          exact repeatsPrintable_of_line hline
      | ok next =>
          rw [verdict_cons_of_ok hline] at h
          exact ih h

end Scanner

/-- A source that does not fail is refused for a cause that repeats nothing unprintable. -/
theorem Chain.repeatsPrintable_of_read {source : Source} (hsource : source.failure? = none)
    {cause : InputError} (h : read source = .error cause) : cause.RepeatsPrintable := by
  rw [read_eq, hsource] at h
  exact Scanner.repeatsPrintable_of_verdict h

/-- An input is refused when reading it refuses it. -/
theorem Source.minCost_eq_error_input_iff {source : Source} {cause : InputError} :
    source.minCost = .error (.input cause) ↔ Chain.read source = .error cause := by
  unfold Source.minCost Solved.ofInput
  cases Chain.read source with
  | error reported =>
      show (.error (.input reported) : Solved Nat) = .error (.input cause) ↔ _
      simp
  | ok chain =>
      show chain.minCost.mapError SolveError.fault = .error (.input cause) ↔ _
      cases chain.minCost <;> exact ⟨nofun, nofun⟩

/-! ## What is reported -/

namespace Command

/-- When a source that does not fail is refused, the message stays on one line. What is reported is
this line with the name of the command before it, and nothing else. -/
theorem report_refusal_isOneLine {source : Source} (hsource : source.failure? = none)
    {cause : InputError} (h : source.minCost = .error (.input cause)) :
    IsOneLine cause.message ∧
      ∃ line, IsOneLine line ∧ "mcm: invalid input: ".toList <+: line.toList ∧
        report source.minCost = .ok { status := 1, out := "", err := line ++ "\n" } := by
  have hread := Source.minCost_eq_error_input_iff.mp h
  have hmessage := InputError.isPrintable_message (Chain.repeatsPrintable_of_read hsource hread)
  have hname : IsPrintable "mcm: " := isPrintable_of_visible rfl
  have hline : IsPrintable ("mcm: " ++ cause.message) := isPrintable_append.mpr ⟨hname, hmessage⟩
  refine ⟨hmessage.isOneLine, "mcm: " ++ cause.message, hline.isOneLine, ?_, ?_⟩
  · exact ⟨cause.reason.toList, by simp [InputError.message]⟩
  · rw [h]
    rfl

/-- A line separator, a tab and an escape sequence in the input are reported in quotes. -/
theorem report_refusal_isOneLine_escape :
    let source := Source.ofText "1\n4\u2028\x1b[2J\t5\n"
    let cause := InputError.severalValues 2 "4\u2028\x1b[2J\t5"
    source.failure? = none ∧ source.minCost = .error (.input cause) ∧
      IsOneLine cause.message ∧ report source.minCost = .ok
        { status := 1
          out := ""
          err := "mcm: invalid input: line 2: expected a single integer, got " ++
            "\"4\\u\x7b2028\x7d\\u\x7b1b\x7d[2J\\t5\"\n" } := by
  intro source cause
  have hcost : source.minCost = .error (.input cause) := by rfl
  obtain ⟨hmessage, -⟩ := report_refusal_isOneLine rfl hcost
  refine ⟨rfl, hcost, hmessage, ?_⟩
  rw [hcost, report, Except.ok.injEq]
  decide +kernel

end Command

end ChainProduct
