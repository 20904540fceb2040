import ChainProduct.Proofs.Input.Decision
import Mathlib.Data.List.Induction

/-!
# Reading from a source that fails

A source serves some bytes and then is at its end or fails; a read that was interrupted counts as
neither. What is read depends on the bytes that were served and on the failure alone, and of the
bytes on no more than the complete lines until one decides. The main theorem, `read_until_decided`,
says so for a failure at any offset: when the complete lines before it decide (`LinesDecide`), every
source that starts with them gives the same, whatever comes after them, and otherwise the failure is
the outcome, whatever the line that it cuts off holds.
-/

namespace ChainProduct

namespace Source

/-- A source that fails at an offset serves the bytes before it. -/
theorem failingAt_of_not_interrupted (data : List UInt8) (offset : Nat) {error : ReadError}
    {times : Nat} (herror : error.kind ≠ .interrupted) (htimes : 1 ≤ times) :
    (failingAt data offset error times).served = data.take offset ∧
      (failingAt data offset error times).failure? = some error := by
  obtain ⟨more, rfl⟩ : ∃ more, times = more + 1 := ⟨times - 1, by omega⟩
  simp [failingAt, List.replicate_succ, served, failure?, herror]

/-- Reads that were interrupted serve nothing and are no failure. -/
theorem replicate_interrupted (rest : Source) {error : ReadError} (times : Nat)
    (herror : error.kind = .interrupted) :
    (List.replicate times (.failure error) ++ rest : Source).served = rest.served ∧
      (List.replicate times (.failure error) ++ rest : Source).failure? = rest.failure? := by
  induction times with
  | zero => exact ⟨rfl, rfl⟩
  | succ times ih => simpa [List.replicate_succ, served, failure?, herror] using ih

/-- A source that is interrupted at an offset serves all bytes. -/
theorem failingAt_of_interrupted (data : List UInt8) (offset : Nat) {error : ReadError}
    (times : Nat) (herror : error.kind = .interrupted) :
    (failingAt data offset error times).served = data ∧
      (failingAt data offset error times).failure? = none := by
  obtain ⟨hserved, hfailure⟩ := replicate_interrupted [.bytes (data.drop offset)] times herror
  simp [failingAt, served, failure?, hserved, hfailure]

end Source

/-! ## Complete lines -/

/-- Every line of the bytes is ended by a line feed. -/
def EndsLine (data : List UInt8) : Prop :=
  data = [] ∨ ∃ before, data = before ++ [lineFeed]

/-- The longest first part of bytes of which every line is ended by a line feed. -/
structure IsCompletePart (complete data : List UInt8) : Prop where
  isPrefix : complete <+: data
  endsLine : EndsLine complete
  longest : ∀ other, other <+: data → EndsLine other → other.length ≤ complete.length

/-- No line feed follows the longest such part. -/
theorem IsCompletePart.exists_rest {complete data : List UInt8} (h : IsCompletePart complete data) :
    ∃ rest, data = complete ++ rest ∧ lineFeed ∉ rest := by
  obtain ⟨rest, rfl⟩ := h.isPrefix
  refine ⟨rest, rfl, fun hmem ↦ ?_⟩
  obtain ⟨line, after, rfl⟩ := List.append_of_mem hmem
  have hlonger := h.longest (complete ++ line ++ [lineFeed]) ⟨after, by simp⟩
    (.inr ⟨complete ++ line, rfl⟩)
  simp only [List.length_append, List.length_singleton] at hlonger
  omega

/-- Complete lines with no line feed after them are the longest part of that kind. -/
theorem isCompletePart_append {complete rest : List UInt8} (h : EndsLine complete)
    (hrest : lineFeed ∉ rest) : IsCompletePart complete (complete ++ rest) where
  isPrefix := List.prefix_append complete rest
  endsLine := h
  longest := by
    intro other hstarts hother
    obtain ⟨after, hafter⟩ := hstarts
    rcases List.append_eq_append_iff.mp hafter with ⟨more, rfl, -⟩ | ⟨more, rfl, rfl⟩
    · simp
    · -- What is longer ends within the rest, but not with a line feed.
      rcases List.eq_nil_or_concat more with rfl | ⟨first, last, rfl⟩
      · simp
      · exfalso
        rcases hother with hnil | ⟨before, hbefore⟩
        · simp at hnil
        · rw [List.concat_eq_append, ← List.append_assoc] at hbefore
          obtain rfl : last = lineFeed := by simpa using (List.append_inj' hbefore rfl).2
          exact hrest (by simp)

/-- Bytes have a longest part of complete lines. -/
theorem exists_isCompletePart (data : List UInt8) : ∃ complete, IsCompletePart complete data := by
  have hcut : ∃ complete rest, data = complete ++ rest ∧ EndsLine complete ∧ lineFeed ∉ rest := by
    induction data using List.reverseRecOn with
    | nil => exact ⟨[], [], rfl, .inl rfl, List.not_mem_nil⟩
    | append_singleton data last ih =>
        by_cases hlast : last = lineFeed
        · exact ⟨data ++ [last], [], by simp, .inr ⟨data, by rw [hlast]⟩, List.not_mem_nil⟩
        · obtain ⟨complete, rest, rfl, hcomplete, hrest⟩ := ih
          exact ⟨complete, rest ++ [last], by simp, hcomplete, by simp [hrest, Ne.symm hlast]⟩
  obtain ⟨complete, rest, rfl, hcomplete, hrest⟩ := hcut
  exact ⟨complete, isCompletePart_append hcomplete hrest⟩

/-- Bytes have one longest part of complete lines. -/
theorem IsCompletePart.unique {complete other data : List UInt8} (h : IsCompletePart complete data)
    (hother : IsCompletePart other data) : other = complete := by
  have hle := h.longest other hother.isPrefix hother.endsLine
  have hge := hother.longest complete h.isPrefix h.endsLine
  exact (List.prefix_of_prefix_length_le hother.isPrefix h.isPrefix hle).eq_of_length
    (Nat.le_antisymm hle hge)

/-- Complete lines are followed by the lines of the rest. -/
theorem splitOn_append_of_endsLine {complete : List UInt8} (h : EndsLine complete)
    (rest : List UInt8) : (complete ++ rest).splitOn lineFeed =
      completeLines complete ++ rest.splitOn lineFeed := by
  rcases h with rfl | ⟨before, rfl⟩
  · rfl
  · have hlines : (before ++ [lineFeed]).splitOn lineFeed = before.splitOn lineFeed ++ [[]] :=
      List.splitOn_append_cons_self before []
    rw [List.append_assoc, List.singleton_append, List.splitOn_append_cons_self, completeLines,
      hlines, List.dropLast_concat]

/-- Complete lines are followed by the complete lines of the rest. -/
theorem completeLines_append {complete : List UInt8} (h : EndsLine complete)
    (rest : List UInt8) :
    completeLines (complete ++ rest) = completeLines complete ++ completeLines rest := by
  rw [completeLines, splitOn_append_of_endsLine h,
    List.dropLast_append_of_ne_nil (List.splitOn_ne_nil lineFeed rest)]
  rfl

/-- The longest part of complete lines holds all of them. -/
theorem IsCompletePart.completeLines_eq {complete data : List UInt8}
    (h : IsCompletePart complete data) : completeLines data = completeLines complete := by
  obtain ⟨rest, rfl, hrest⟩ := h.exists_rest
  have hnone : completeLines rest = [] := by
    rw [completeLines, List.splitOn_eq_singleton hrest, List.dropLast_singleton]
  rw [completeLines_append h.endsLine, hnone, List.append_nil]

/-! ## What is read -/

/-- Sources that serve the same bytes and fail the same way hold the same. -/
theorem Chain.read_congr {source other : Source} (hserved : source.served = other.served)
    (hfailure : source.failure? = other.failure?) : Chain.read source = Chain.read other := by
  rw [Chain.read_eq, Chain.read_eq, hserved, hfailure]

/-- Complete lines that decide are all that matters of a source that starts with them. -/
theorem Chain.read_of_scan_eq_error {complete : List UInt8} {verdict : Verdict} {source : Source}
    (hcomplete : EndsLine complete) (hstarts : complete <+: source.served)
    (h : Scanner.initial.scan (completeLines complete) = .error verdict) :
    Chain.read source = verdict := by
  obtain ⟨rest, hrest⟩ := hstarts
  rw [Chain.read_eq, ← hrest]
  cases source.failure? with
  | none => rw [splitOn_append_of_endsLine hcomplete, Scanner.verdict_append, h]
  | some error => rw [completeLines_append hcomplete, Scanner.scan_append, h, error_bind]

/-- A failure is the outcome when the complete lines before it do not decide. -/
theorem Chain.read_of_scan_eq_ok {complete : List UInt8} {scanner : Scanner} {source : Source}
    {error : ReadError} (hcomplete : IsCompletePart complete source.served)
    (hfailure : source.failure? = some error)
    (h : Scanner.initial.scan (completeLines complete) = .ok scanner) :
    Chain.read source = .error (.unreadable error) := by
  rw [Chain.read_eq, hcomplete.completeLines_eq, h, hfailure]

/-- Complete lines in memory that do not decide are too few. -/
theorem Chain.read_ofBytes_of_scan_eq_ok {complete : List UInt8} {scanner : Scanner}
    (hcomplete : EndsLine complete)
    (h : Scanner.initial.scan (completeLines complete) = .ok scanner) :
    Chain.read (.ofBytes complete) = .error scanner.stage.shortage := by
  have hlines := splitOn_append_of_endsLine hcomplete []
  rw [List.append_nil, List.splitOn_nil] at hlines
  show Chain.read ([complete].map .bytes) = _
  rw [Chain.read_bytes_eq_verdict, List.flatten_singleton, hlines, Scanner.verdict_append, h]
  exact Scanner.verdict_cons_of_ok scanner.line_nil []

/-- A failure to read is not a shortage of lines. -/
theorem Stage.shortage_ne_unreadable (stage : Stage) (error : ReadError) :
    stage.shortage ≠ .unreadable error := by
  cases stage with
  | count => exact nofun
  | dims matrices found => exact nofun

/-- Where a source fails, the complete lines before the failure are what decides. When they do,
every source that starts with them gives the same, whatever bytes or failures come after them, and
only then. They do so when one of those that are not blank is wrong in its place, or when the matrix
count and all dimensions are there. Otherwise the failure is the outcome, whatever the line holds
that it cuts off. A read that was interrupted changes nothing. -/
theorem Chain.read_until_decided (data : List UInt8) (offset : Nat) {times : Nat}
    {error : ReadError} (herror : error.kind ≠ .interrupted) (htimes : 1 ≤ times) :
    ∃ complete, IsCompletePart complete (data.take offset) ∧
    (∀ source : Source, source.served = data.take offset → source.failure? = some error →
      Chain.read source = Chain.read (.failingAt data offset error times)) ∧
    ((∃ verdict, Scanner.initial.scan (completeLines complete) = .error verdict) ↔
      LinesDecide (nonBlankLines (completeLines complete))) ∧
    (∀ verdict, Scanner.initial.scan (completeLines complete) = .error verdict →
      Chain.read (.failingAt data offset error times) = verdict ∧
      ∀ source : Source, complete <+: source.served → Chain.read source = verdict) ∧
    (¬ LinesDecide (nonBlankLines (completeLines complete)) →
      Chain.read (.failingAt data offset error times) = .error (.unreadable error) ∧
      (InputError.unreadable error).reason = "failed to read input: " ++ error.text ∧
      ∃ source : Source, complete <+: source.served ∧
        Chain.read source ≠ .error (.unreadable error)) ∧
    ∀ interruption : ReadError, interruption.kind = .interrupted →
      (∀ before after, Chain.read (before ++ .failure interruption :: after) =
        Chain.read (before ++ after)) ∧
      Chain.read (.failingAt data offset interruption times) = Chain.read (.ofBytes data) := by
  obtain ⟨hserved, hfailure⟩ := Source.failingAt_of_not_interrupted data offset herror htimes
  obtain ⟨complete, hpart⟩ := exists_isCompletePart (data.take offset)
  have hcomplete : IsCompletePart complete (Source.failingAt data offset error times).served :=
    hserved ▸ hpart
  refine ⟨complete, hpart, fun source hbytes hfails ↦ ?_, Scanner.scan_count_eq_error_iff 0,
    fun verdict hscan ↦ ⟨?_, fun source hstarts ↦ ?_⟩, fun hundecided ↦ ?_,
    fun interruption hkind ↦ ⟨fun before after ↦ ?_, ?_⟩⟩
  · exact read_congr (hbytes.trans hserved.symm) (hfails.trans hfailure.symm)
  · exact read_of_scan_eq_error hcomplete.endsLine hcomplete.isPrefix hscan
  · exact read_of_scan_eq_error hcomplete.endsLine hstarts hscan
  · obtain ⟨scanner, hscan⟩ := Scanner.exists_scan_eq_ok hundecided
    refine ⟨read_of_scan_eq_ok hcomplete hfailure hscan, rfl, .ofBytes complete,
      ⟨[], by simp [Source.ofBytes, Source.served]⟩, ?_⟩
    rw [read_ofBytes_of_scan_eq_ok hcomplete.endsLine hscan]
    exact fun h ↦ scanner.stage.shortage_ne_unreadable error (Except.error.inj h)
  · exact read_interrupted before after hkind
  · obtain ⟨hall, hnone⟩ := Source.failingAt_of_interrupted data offset times hkind
    exact read_congr (hall.trans (by simp [Source.ofBytes, Source.served]))
      (hnone.trans (by simp [Source.ofBytes, Source.failure?]))

/-- A failure within the line of the last dimension is reported, and one right behind it comes too
late, as it does behind a line that is not UTF-8. -/
theorem Chain.read_until_decided_line_ends :
    let data : List UInt8 := [50, 10, 52, 10, 53, 10, 54, 10]
    let broken : List UInt8 := [50, 10, 255, 10]
    let error : ReadError := { kind := .timedOut }
    Chain.read (.failingAt data 7 error 1) = .error (.unreadable error) ∧
      (∃ chain : Chain, chain.dims = #[4, 5, 6] ∧
        Chain.read (.failingAt data 8 error 1) = .ok chain ∧
        ∀ source : Source, data <+: source.served → Chain.read source = .ok chain) ∧
      Chain.read (.failingAt broken 3 error 1) = .error (.unreadable error) ∧
      Chain.read (.failingAt broken 4 error 1) = .error (.unreadable .notText) ∧
      ∀ source : Source, broken <+: source.served →
        Chain.read source = .error (.unreadable .notText) := by
  intro data broken error
  have herror : error.kind ≠ .interrupted := by decide
  have hcount : IsNumberLine greatestCount [50] 2 :=
    ⟨['2'], rfl, Text.natural?_eq_some_iff.mp rfl, by decide, by decide⟩
  have hdims : ∀ dim ∈ [[52], [53], [54]], ∃ value, IsNumberLine greatestInteger dim value := by
    refine List.forall_mem_cons.mpr ⟨⟨4, ['4'], rfl, ?_⟩, List.forall_mem_cons.mpr
      ⟨⟨5, ['5'], rfl, ?_⟩, List.forall_mem_singleton.mpr ⟨6, ['6'], rfl, ?_⟩⟩⟩ <;>
      exact ⟨Text.natural?_eq_some_iff.mp rfl, by decide, by decide⟩
  refine ⟨?_, ?_, ?_, ?_⟩
  · have hpart : IsCompletePart [50, 10, 52, 10, 53, 10] (data.take 7) :=
      isCompletePart_append (.inr ⟨[50, 10, 52, 10, 53], rfl⟩) (show lineFeed ∉ [54] by decide)
    obtain ⟨_, hcut, -, hdecide, -, hundecided, -⟩ :=
      read_until_decided data 7 herror (Nat.le_refl 1)
    obtain rfl := hpart.unique hcut
    refine (hundecided fun hlines ↦ ?_).1
    obtain ⟨verdict, hscan⟩ := hdecide.mpr hlines
    cases hscan
  · have hpart : IsCompletePart data (data.take 8) :=
      isCompletePart_append (.inr ⟨data.take 7, rfl⟩) (show lineFeed ∉ [] by decide)
    obtain ⟨_, hcut, -, hdecide, hdecided, -⟩ := read_until_decided data 8 herror (Nat.le_refl 1)
    obtain rfl := hpart.unique hcut
    obtain ⟨verdict, hscan⟩ := hdecide.mpr (.dimensions hcount (.all hdims rfl))
    cases hscan
    exact ⟨_, rfl, hdecided _ rfl⟩
  · have hpart : IsCompletePart [50, 10] (broken.take 3) :=
      isCompletePart_append (.inr ⟨[50], rfl⟩) (show lineFeed ∉ [255] by decide)
    obtain ⟨_, hcut, -, hdecide, -, hundecided, -⟩ :=
      read_until_decided broken 3 herror (Nat.le_refl 1)
    obtain rfl := hpart.unique hcut
    refine (hundecided fun hlines ↦ ?_).1
    obtain ⟨verdict, hscan⟩ := hdecide.mpr hlines
    cases hscan
  · have hpart : IsCompletePart broken (broken.take 4) :=
      isCompletePart_append (.inr ⟨[50, 10, 255], rfl⟩) (show lineFeed ∉ [] by decide)
    obtain ⟨_, hcut, -, hdecide, hdecided, -⟩ :=
      read_until_decided broken 4 herror (Nat.le_refl 1)
    obtain rfl := hpart.unique hcut
    obtain ⟨verdict, hscan⟩ := hdecide.mpr
      (.dimensions hcount (@DimensionsDecide.bad _ [] [] [255] (fun _ ↦ nofun) (by decide)
        (.notText rfl)))
    cases hscan
    exact hdecided _ rfl

end ChainProduct
