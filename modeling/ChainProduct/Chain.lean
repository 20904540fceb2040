import ChainProduct.Fault
import ChainProduct.InputError

/-!
# Matrix chains

A chain of `n ≥ 1` matrices is given by `n + 1` dimensions: matrix `i` has `d i` rows and
`d (i + 1)` columns. `Chain.ofList` builds a chain from a list of numbers of any kind and names the
first number that is no dimension. Main statement: it succeeds exactly on lists of at least two
dimensions (`Chain.ofList_eq_ok_iff`).
-/

namespace ChainProduct

/-- A kind of value that can stand for a dimension: it has an integer value and a written form. -/
class ToDimension (α : Type) where
  value : α → Int
  written : α → String

instance : ToDimension Int := ⟨id, toString⟩

instance : ToDimension Nat := ⟨Int.ofNat, toString⟩

/-- A character stands for its code point. -/
instance : ToDimension Char := ⟨fun c ↦ c.toNat, toString⟩

/-- The truth values stand for one and zero. -/
instance : ToDimension Bool := ⟨fun b ↦ b.toNat, toString⟩

instance : ToDimension UInt8 := ⟨fun x ↦ x.toNat, fun x ↦ toString x.toNat⟩

instance : ToDimension UInt16 := ⟨fun x ↦ x.toNat, fun x ↦ toString x.toNat⟩

instance : ToDimension UInt32 := ⟨fun x ↦ x.toNat, fun x ↦ toString x.toNat⟩

instance : ToDimension UInt64 := ⟨fun x ↦ x.toNat, fun x ↦ toString x.toNat⟩

instance : ToDimension Int8 := ⟨Int8.toInt, fun x ↦ toString x.toInt⟩

instance : ToDimension Int16 := ⟨Int16.toInt, fun x ↦ toString x.toInt⟩

instance : ToDimension Int32 := ⟨Int32.toInt, fun x ↦ toString x.toInt⟩

instance : ToDimension Int64 := ⟨Int64.toInt, fun x ↦ toString x.toInt⟩

/-- The integer is a dimension of a matrix. -/
def IsDimension (value : Int) : Prop :=
  1 ≤ value ∧ value ≤ maxDimension

/-- `IsDimension` is decidable by two comparisons. -/
instance (value : Int) : Decidable (IsDimension value) :=
  inferInstanceAs (Decidable (_ ∧ _))

/-- A chain of matrices, given by its dimensions. -/
@[ext]
structure Chain where
  dims : Array Nat
  two_le_size : 2 ≤ dims.size
  isDimension : ∀ d ∈ dims, IsDimension d
  deriving DecidableEq

/-- The shape of a matrix. -/
structure Shape where
  rows : Nat
  cols : Nat
  deriving DecidableEq, Repr

/-- The number of scalar multiplications in the product of a `rows × shared` and a
`shared × cols` matrix. -/
def productCost (rows shared cols : Nat) : Nat :=
  rows * shared * cols

/-- `productCost`, multiplied step by step within the range of costs. -/
def multiplyCost (rows shared cols : Nat) : Checked Nat := do
  mulCost (← mulCost rows shared) cols

/-- The product of the transposed matrices in reverse order costs the same. -/
theorem productCost_reverse (rows shared cols : Nat) :
    productCost cols shared rows = productCost rows shared cols := by
  rw [productCost, productCost, Nat.mul_right_comm, Nat.mul_comm cols, Nat.mul_right_comm]

/-- The cost of a product stays the same when its dimensions are turned round. -/
theorem productCost_rotate (rows shared cols : Nat) :
    productCost shared cols rows = productCost rows shared cols := by
  rw [productCost, productCost, Nat.mul_comm, Nat.mul_assoc]

/-- No product of three dimensions is larger than that of the largest ones. -/
theorem productCost_le {rows shared cols : Nat} (hrows : rows ≤ maxDimension)
    (hshared : shared ≤ maxDimension) (hcols : cols ≤ maxDimension) :
    productCost rows shared cols ≤ productCost maxDimension maxDimension maxDimension :=
  Nat.mul_le_mul (Nat.mul_le_mul hrows hshared) hcols

/-- Dimensions are multiplied within the range of costs. -/
theorem multiplyCost_eq_ok {rows shared cols : Nat} (hrows : rows ≤ maxDimension)
    (hshared : shared ≤ maxDimension) (hcols : cols ≤ maxDimension) :
    multiplyCost rows shared cols = .ok (productCost rows shared cols) := by
  have hfirst : rows * shared < costLimit :=
    Nat.lt_of_le_of_lt (Nat.mul_le_mul hrows hshared) (by decide)
  have hproduct : productCost rows shared cols < costLimit :=
    Nat.lt_of_le_of_lt (productCost_le hrows hshared hcols) (by decide)
  rw [multiplyCost, mulCost_eq_ok_iff.mpr ⟨hfirst, rfl⟩]
  exact mulCost_eq_ok_iff.mpr ⟨hproduct, rfl⟩

namespace Chain

variable {α : Type} [ToDimension α]

/-- The first element that is no dimension, with its position counted from zero. -/
def firstBad? (xs : List α) : Option (α × Nat) :=
  xs.zipIdx.find? fun x ↦ ¬ IsDimension (ToDimension.value x.1)

/-- Without a first bad element, every element is a dimension. -/
theorem isDimension_of_firstBad? {xs : List α} (h : firstBad? xs = none) :
    ∀ x ∈ xs, IsDimension (ToDimension.value x) := by
  intro x hx
  obtain ⟨i, hi, rfl⟩ := List.getElem_of_mem hx
  simpa using List.find?_eq_none.mp h (xs[i], i) (by simp [List.mk_mem_zipIdx_iff_getElem?])

/-- The chain with the given dimensions. An element that is no dimension is reported before a
shortage of elements. -/
def ofList (xs : List α) : Except InputError Chain :=
  match h : firstBad? xs with
  | some (x, position) => .error (.badDimension (ToDimension.written x) position)
  | none =>
      if hlen : 2 ≤ xs.length then
        .ok
          { dims := (xs.map fun x ↦ (ToDimension.value x).toNat).toArray
            two_le_size := by simpa using hlen
            isDimension := by
              intro d hd
              obtain ⟨x, hx, rfl⟩ := List.mem_map.mp (List.mem_toArray.mp hd)
              have := isDimension_of_firstBad? h x hx
              rwa [Int.toNat_of_nonneg (by unfold IsDimension at this; omega)] }
      else .error (.tooFewDimensions xs.length)

/-- The number of matrices. -/
def matrices (chain : Chain) : Nat :=
  chain.dims.size - 1

/-- The dimension at an index, zero beyond the last one. -/
def entry (chain : Chain) (i : Nat) : Nat :=
  chain.dims.getD i 0

/-- The dimension at an index of the chain. -/
def dim (chain : Chain) (i : Nat) : Checked Nat :=
  if h : i < chain.dims.size then .ok chain.dims[i] else .error .outOfRange

/-- The shape of matrix `i`. -/
def shape (chain : Chain) (i : Nat) : Checked Shape := do
  let rows ← chain.dim i
  let cols ← chain.dim (i + 1)
  return { rows, cols }

/-- The value as it is shown when debugging. -/
def inspect (chain : Chain) : String :=
  "Dimensions \x7b values: [" ++ ", ".intercalate (chain.dims.toList.map toString) ++ "] \x7d"

/-- There is one dimension more than there are matrices. -/
theorem size_dims (chain : Chain) : chain.dims.size = chain.matrices + 1 := by
  have := chain.two_le_size
  unfold matrices
  omega

/-- A chain has at least one matrix. -/
theorem one_le_matrices (chain : Chain) : 1 ≤ chain.matrices := by
  have := chain.two_le_size
  unfold matrices
  omega

/-- The dimensions of a chain have the indices from zero to the number of matrices. -/
theorem dim_eq_ok_iff {chain : Chain} {i d : Nat} :
    chain.dim i = .ok d ↔ i ≤ chain.matrices ∧ d = chain.entry i := by
  have := chain.size_dims
  unfold dim entry
  split
  · simp [eq_comm, show i ≤ chain.matrices by omega]
  · next h => simp [show ¬ i ≤ chain.matrices by omega]

/-- The shape of a matrix is made of neighbouring dimensions. -/
theorem shape_eq (chain : Chain) (i : Nat) :
    chain.shape i =
      if i < chain.matrices then .ok ⟨chain.entry i, chain.entry (i + 1)⟩
      else .error .outOfRange := by
  have hsize := chain.size_dims
  split
  · next h =>
      have h0 : chain.dim i = .ok (chain.entry i) := dim_eq_ok_iff.mpr ⟨by omega, rfl⟩
      have h1 : chain.dim (i + 1) = .ok (chain.entry (i + 1)) := dim_eq_ok_iff.mpr ⟨h, rfl⟩
      simp [shape, h0, h1, bind, Except.bind, pure, Except.pure]
  · next h =>
      have h1 : chain.dim (i + 1) = .error .outOfRange := by simp [dim, hsize, h]
      unfold shape
      rw [h1]
      unfold dim
      split <;> rfl

/-- The matrices of a chain have a shape, and nothing beyond them has. -/
theorem shape_eq_ok_iff {chain : Chain} {i : Nat} {s : Shape} :
    chain.shape i = .ok s ↔ i < chain.matrices ∧ s = ⟨chain.entry i, chain.entry (i + 1)⟩ := by
  rw [shape_eq]
  by_cases h : i < chain.matrices <;> simp [h, eq_comm]

/-- Every entry of a chain is a dimension. -/
theorem isDimension_entry (chain : Chain) {i : Nat} (h : i ≤ chain.matrices) :
    IsDimension (chain.entry i) := by
  have := chain.size_dims
  have hlt : i < chain.dims.size := by omega
  simpa [entry, hlt] using chain.isDimension _ (chain.dims.getElem_mem hlt)

/-- No entry of a chain is larger than the largest dimension. -/
theorem entry_le (chain : Chain) {i : Nat} (h : i ≤ chain.matrices) :
    chain.entry i ≤ maxDimension := by
  have := (chain.isDimension_entry h).2
  omega

/-- The first bad element stands at its position and is no dimension, and all elements before it
are dimensions. -/
theorem firstBad?_eq_some_iff {xs : List α} {x : α} {position : Nat} :
    firstBad? xs = some (x, position) ↔ xs[position]? = some x ∧
      ¬ IsDimension (ToDimension.value x) ∧
      ∀ i < position, ∀ y, xs[i]? = some y → IsDimension (ToDimension.value y) := by
  rw [firstBad?, List.find?_eq_some_iff_getElem]
  constructor
  · rintro ⟨hbad, i, hi, hx, hbefore⟩
    rw [List.getElem_zipIdx, Prod.mk.injEq] at hx
    obtain ⟨rfl, rfl⟩ := hx
    rw [List.length_zipIdx] at hi
    refine ⟨by simp [hi], by simpa using hbad, fun j hj y hy ↦ ?_⟩
    rw [List.getElem?_eq_getElem (by omega), Option.some.injEq] at hy
    subst hy
    simpa using hbefore j (by omega)
  · rintro ⟨hx, hbad, hbefore⟩
    obtain ⟨hlt, rfl⟩ := List.getElem?_eq_some_iff.mp hx
    refine ⟨by simpa using hbad, position, by simpa using hlt, by simp, fun j hj ↦ ?_⟩
    simpa using hbefore j hj _ (List.getElem?_eq_getElem (by omega))

/-- There is no bad element exactly when all elements are dimensions. -/
theorem firstBad?_eq_none_iff {xs : List α} :
    firstBad? xs = none ↔ ∀ x ∈ xs, IsDimension (ToDimension.value x) := by
  refine ⟨isDimension_of_firstBad?, fun hdims ↦ Option.eq_none_iff_forall_ne_some.mpr ?_⟩
  rintro ⟨x, position⟩ h
  obtain ⟨hx, hbad, -⟩ := firstBad?_eq_some_iff.mp h
  exact hbad (hdims x (List.mem_of_getElem? hx))

/-- The first bad element is no dimension of its list. -/
theorem not_isDimension_of_firstBad? {xs : List α} {x : α} {position : Nat}
    (h : firstBad? xs = some (x, position)) :
    xs[position]? = some x ∧ ¬ IsDimension (ToDimension.value x) :=
  ⟨(firstBad?_eq_some_iff.mp h).1, (firstBad?_eq_some_iff.mp h).2.1⟩

/-- The first bad element is reported. -/
theorem ofList_of_firstBad? {xs : List α} {x : α} {position : Nat}
    (h : firstBad? xs = some (x, position)) :
    ofList xs = .error (.badDimension (ToDimension.written x) position) := by
  unfold ofList
  split
  · next heq =>
      rw [h, Option.some.injEq, Prod.mk.injEq] at heq
      rw [heq.1, heq.2]
  · next heq =>
      rw [h] at heq
      contradiction

/-- A list that is no chain has a bad element or too few elements, and that is reported. -/
theorem cause_of_ofList {xs : List α} {cause : InputError} (h : ofList xs = .error cause) :
    (∃ x position, firstBad? xs = some (x, position) ∧
      cause = .badDimension (ToDimension.written x) position) ∨
      cause = .tooFewDimensions xs.length := by
  unfold ofList at h
  split at h
  · next x position hbad => exact .inl ⟨x, position, hbad, (Except.error.inj h).symm⟩
  · split at h
    · cases h
    · exact .inr (Except.error.inj h).symm

/-- Without a bad element, two elements or more are a chain. -/
theorem exists_ofList_of_firstBad? {xs : List α} (h : firstBad? xs = none) (hlen : 2 ≤ xs.length) :
    ∃ chain, ofList xs = .ok chain := by
  unfold ofList
  split
  · next heq =>
      rw [h] at heq
      contradiction
  · exact ⟨_, dif_pos hlen⟩

/-- A list is a chain exactly when it has two elements or more and all are dimensions. -/
theorem ofList_eq_ok_iff {xs : List α} {chain : Chain} :
    ofList xs = .ok chain ↔ 2 ≤ xs.length ∧ (∀ x ∈ xs, IsDimension (ToDimension.value x)) ∧
      chain.dims.toList = xs.map fun x ↦ (ToDimension.value x).toNat := by
  unfold ofList
  split
  · next x position h =>
      obtain ⟨hmem, hbad⟩ := not_isDimension_of_firstBad? h
      have hx : x ∈ xs := List.mem_of_getElem? hmem
      simp only [reduceCtorEq, false_iff, not_and]
      exact fun _ hall ↦ absurd (hall x hx) hbad
  · next h =>
      have hall := isDimension_of_firstBad? h
      split
      · next hlen =>
          simp only [Except.ok.injEq, Chain.ext_iff, hlen, true_and]
          exact ⟨fun hdims ↦ ⟨hall, by simp [← hdims]⟩, fun hdims ↦ by simp [← hdims.2]⟩
      · next hlen => simp [hlen]

/-- There is a chain for a list exactly when it has two elements or more and all are dimensions. -/
theorem exists_ofList_eq_ok_iff {xs : List α} :
    (∃ chain, ofList xs = .ok chain) ↔
      2 ≤ xs.length ∧ ∀ x ∈ xs, IsDimension (ToDimension.value x) := by
  refine ⟨fun ⟨chain, h⟩ ↦ ?_, fun ⟨hlength, hdims⟩ ↦ ?_⟩
  · obtain ⟨hlength, hdims, -⟩ := ofList_eq_ok_iff.mp h
    exact ⟨hlength, hdims⟩
  · exact exists_ofList_of_firstBad? (firstBad?_eq_none_iff.mpr hdims) hlength

end Chain

end ChainProduct
