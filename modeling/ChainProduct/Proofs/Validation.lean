import ChainProduct.Solve

/-!
# Which lists are chains

A list is judged by the integers that its elements stand for: it is the chain with these dimensions
if there is one (`Chain.ofList_eq_ok_iff_valuesOf`), and otherwise refused for its first element
that is no dimension, or else for its length.

The main theorem, `Chain.ofList_exact`, says that for every kind of element. So lists of different
kinds with the same integers are refused both or have the same answers, and the dimensions of a
chain are a list of that chain.
-/

namespace ChainProduct

variable {α β : Type} [ToDimension α] [ToDimension β]

/-- The integers that the elements of a list stand for. -/
def valuesOf (xs : List α) : List Int :=
  xs.map ToDimension.value

/-- The element at a position, counted from zero, is the first one that is no dimension. -/
def IsFirstBad (xs : List α) (position : Nat) (x : α) : Prop :=
  xs[position]? = some x ∧ ¬ IsDimension (ToDimension.value x) ∧
    ∀ i < position, ∀ y, xs[i]? = some y → IsDimension (ToDimension.value y)

namespace Chain

/-- The dimensions of a chain, as numbers of 32 bits. -/
def toList (chain : Chain) : List UInt32 :=
  chain.dims.toList.map UInt32.ofNat

variable {xs : List α} {ys : List β} {chain : Chain} {x : α} {position : Nat}

/-! ## Lists that are chains -/

/-- The dimensions of a chain fit in 32 bits. -/
theorem valuesOf_toList (chain : Chain) :
    valuesOf chain.toList = chain.dims.toList.map Int.ofNat := by
  rw [valuesOf, toList, List.map_map]
  refine List.map_congr_left fun d hd ↦ ?_
  have hmax : d < UInt32.size := by
    have hle : d ≤ maxDimension := by
      have := (chain.isDimension d (Array.mem_toList_iff.mp hd)).2
      omega
    exact Nat.lt_of_le_of_lt hle (by decide)
  exact congrArg Int.ofNat (UInt32.toNat_ofNat_of_lt hmax)

/-- A list is a chain exactly when its elements stand for the dimensions of the chain. -/
theorem ofList_eq_ok_iff_valuesOf : ofList xs = .ok chain ↔ valuesOf chain.toList = valuesOf xs := by
  rw [ofList_eq_ok_iff, valuesOf_toList, valuesOf]
  constructor
  · rintro ⟨-, hdims, hlist⟩
    rw [hlist, List.map_map]
    refine List.map_congr_left fun x hx ↦ Int.toNat_of_nonneg ?_
    have := (hdims x hx).1
    omega
  · intro hvalues
    have hlength : chain.dims.size = xs.length := by
      simpa using congrArg List.length hvalues
    refine ⟨hlength ▸ chain.two_le_size, fun x hx ↦ ?_, ?_⟩
    · obtain ⟨d, hd, hx⟩ := List.mem_map.mp (hvalues ▸ List.mem_map_of_mem hx)
      exact hx ▸ chain.isDimension d (Array.mem_toList_iff.mp hd)
    · simpa [Function.comp_def] using congrArg (List.map Int.toNat) hvalues

/-! ## Lists that are refused -/

/-- The first element that is no dimension is reported, however short the list is. -/
theorem ofList_of_isFirstBad (h : IsFirstBad xs position x) :
    ofList xs = .error (.badDimension (ToDimension.written x) position) :=
  ofList_of_firstBad? (firstBad?_eq_some_iff.mpr h)

/-- The length of a list of dimensions is reported if it is too short. -/
theorem ofList_of_short (hdims : ∀ x ∈ xs, IsDimension (ToDimension.value x))
    (hshort : xs.length < 2) : ofList xs = .error (.tooFewDimensions xs.length) := by
  cases hlist : ofList xs with
  | ok chain =>
      have := (ofList_eq_ok_iff.mp hlist).1
      omega
  | error cause =>
      obtain ⟨x, position, hbad, -⟩ | rfl := cause_of_ofList hlist
      · cases hbad.symm.trans (firstBad?_eq_none_iff.mpr hdims)
      · rfl

/-! ## Kinds of elements -/

/-- Lists of different kinds with the same integers are refused both, or are the same chain. -/
theorem ofList_congr (h : valuesOf ys = valuesOf xs) :
    ((∃ cause, ofList xs = .error cause) ∧ ∃ cause, ofList ys = .error cause) ∨
      ∃ chain, ofList xs = .ok chain ∧ ofList ys = .ok chain := by
  have hsame (chain : Chain) : ofList ys = .ok chain ↔ ofList xs = .ok chain := by
    rw [ofList_eq_ok_iff_valuesOf, ofList_eq_ok_iff_valuesOf, h]
  cases hx : ofList xs with
  | ok chain => exact .inr ⟨chain, rfl, (hsame chain).mpr hx⟩
  | error cause =>
      cases hy : ofList ys with
      | ok chain => cases hx.symm.trans ((hsame chain).mp hy)
      | error cause' => exact .inl ⟨⟨cause, rfl⟩, cause', rfl⟩

/-- A list is a chain exactly when it has two elements or more, each of them a positive integer of
32 bits, and these are its dimensions. Its first element that is no such integer is reported with
its position, also when the list is too short, and otherwise its length is. So lists of different
kinds with the same integers are refused both, or are the same chain with the same least cost and
the same table. The dimensions of a chain are that chain again. -/
theorem ofList_exact (xs : List α) :
    ((∃ chain, ofList xs = .ok chain) ↔
      2 ≤ xs.length ∧ ∀ x ∈ xs, IsDimension (ToDimension.value x)) ∧
    (∀ chain, ofList xs = .ok chain →
      valuesOf chain.toList = valuesOf xs ∧ ofList chain.toList = .ok chain) ∧
    (∀ position x, IsFirstBad xs position x →
      ∃ cause, ofList xs = .error cause ∧ cause.reason =
        s!"dimension {ToDimension.written x} at position {position} must be in 1..={maxDimension}") ∧
    ((∀ x ∈ xs, IsDimension (ToDimension.value x)) → xs.length < 2 →
      ∃ cause, ofList xs = .error cause ∧
        cause.reason = s!"need at least two dimensions (one matrix), got {xs.length}") ∧
    ∀ {β : Type} [ToDimension β] (ys : List β), valuesOf ys = valuesOf xs →
      ((∃ cause, ofList xs = .error cause) ∧ ∃ cause, ofList ys = .error cause) ∨
      ∃ chain, ofList xs = .ok chain ∧ ofList ys = .ok chain ∧
        solve ys = solve xs ∧ solveTable ys = solveTable xs := by
  refine ⟨exists_ofList_eq_ok_iff, fun chain h ↦ ?_, fun position x h ↦ ?_, fun hdims hshort ↦ ?_,
    fun ys h ↦ ?_⟩
  · exact ⟨ofList_eq_ok_iff_valuesOf.mp h, ofList_eq_ok_iff_valuesOf.mpr rfl⟩
  · exact ⟨_, ofList_of_isFirstBad h, rfl⟩
  · exact ⟨_, ofList_of_short hdims hshort, rfl⟩
  · rcases ofList_congr h with hrefused | ⟨chain, hx, hy⟩
    · exact .inl hrefused
    · refine .inr ⟨chain, hx, hy, ?_, ?_⟩
      · rw [solve, solve, hx, hy]
      · rw [solveTable, solveTable, hx, hy]

/-- A line feed and the letter d stand for 10 and 100, and solving them gives the same as solving
these numbers. A negative number is reported although it stands alone. -/
theorem ofList_exact_kinds :
    (∃ chain, ofList ['\n', 'd'] = .ok chain ∧ ofList [(10 : Int), 100] = .ok chain ∧
      solve [(10 : Int), 100] = solve ['\n', 'd']) ∧
    IsFirstBad [(-5 : Int)] 0 (-5) ∧
    ∃ cause, ofList [(-5 : Int)] = .error cause ∧
      cause.reason = "dimension -5 at position 0 must be in 1..=4294967295" := by
  have hfirst : IsFirstBad [(-5 : Int)] 0 (-5) := ⟨rfl, by decide, by simp⟩
  have hsame : valuesOf [(10 : Int), 100] = valuesOf ['\n', 'd'] := rfl
  have hdims : ∀ c ∈ ['\n', 'd'], IsDimension (ToDimension.value c) :=
    List.forall_mem_cons.mpr ⟨by decide, List.forall_mem_singleton.mpr (by decide)⟩
  obtain ⟨haccepted, -, -, -, hkinds⟩ := ofList_exact ['\n', 'd']
  obtain ⟨-, -, hrefused, -⟩ := ofList_exact [(-5 : Int)]
  refine ⟨?_, hfirst, ?_⟩
  · obtain ⟨chain, hchain⟩ := haccepted.mpr ⟨Nat.le_refl 2, hdims⟩
    rcases hkinds [(10 : Int), 100] hsame with
      ⟨⟨cause, hcause⟩, -⟩ | ⟨chain, hx, hy, hsolve, -⟩
    · cases hchain.symm.trans hcause
    · exact ⟨chain, hx, hy, hsolve⟩
  · obtain ⟨cause, hcause, hreason⟩ := hrefused 0 (-5) hfirst
    refine ⟨cause, hcause, hreason.trans ?_⟩
    decide

end Chain

end ChainProduct
