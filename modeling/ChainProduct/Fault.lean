/-!
# Faults and bounded arithmetic

Indices are exact below `2 ^ 64` and costs below `2 ^ 128`. A computation that would leave these
ranges, read a cell that does not exist, or break a promise between its parts stops with a
`Fault` instead of going on with a wrong number. The operations compute in `Nat` and test the
exact result once, so `addIndex_eq_ok_iff` and its companions say precisely when each succeeds.
-/

namespace ChainProduct

/-- The causes for which a computation stops. -/
inductive Fault where
  /-- A sum, product or difference lies outside the range of its kind. -/
  | overflow
  /-- An index lies outside the dimensions of a chain or the cells of a table. -/
  | outOfRange
  /-- A split was to be costed before both of its halves were known. -/
  | unsetHalf
  /-- The number that marks a cell as unset was to be stored as a cost. -/
  | reservedCost
  /-- A table was asked for that is larger than memory can address. -/
  | tooLarge
  /-- A layer produced a number of cells other than its width. -/
  | wrongWidth
  deriving DecidableEq, Repr

/-- A one-line description of the cause. -/
def Fault.message : Fault → String
  | .overflow => "arithmetic left its range"
  | .outOfRange => "index out of range"
  | .unsetHalf => "a sub-chain was evaluated before its halves"
  | .reservedCost => "a cost collides with the unset marker"
  | .tooLarge => "the table does not fit in memory"
  | .wrongWidth => "a layer produced the wrong number of cells"

/-- A computation that yields a value or stops with a fault. -/
abbrev Checked := Except Fault

/-- Every index and every count is below this limit, the 64th power of two. -/
def indexLimit : Nat := 0x1_0000_0000_0000_0000

/-- Every cost is below this limit, the 128th power of two. -/
def costLimit : Nat := 0x1_0000_0000_0000_0000_0000_0000_0000_0000

/-- The number itself when it is below the limit, and an overflow otherwise. -/
def fit (limit number : Nat) : Checked Nat :=
  if number < limit then .ok number else .error .overflow

/-- The sum of two indices. -/
def addIndex (a b : Nat) : Checked Nat :=
  fit indexLimit (a + b)

/-- The product of two indices. -/
def mulIndex (a b : Nat) : Checked Nat :=
  fit indexLimit (a * b)

/-- The difference of two indices, which has to be no less than zero. -/
def subIndex (a b : Nat) : Checked Nat :=
  if b ≤ a then .ok (a - b) else .error .overflow

/-- The sum of two costs. -/
def addCost (a b : Nat) : Checked Nat :=
  fit costLimit (a + b)

/-- The product of two costs. -/
def mulCost (a b : Nat) : Checked Nat :=
  fit costLimit (a * b)

/-- A computation goes on with the value of its first step. -/
@[simp] theorem ok_bind {ε α β : Type} (value : α) (next : α → Except ε β) :
    (Except.ok value >>= next) = next value :=
  rfl

/-- A computation stops with the fault of its first step. -/
@[simp] theorem error_bind {ε α β : Type} (fault : ε) (next : α → Except ε β) :
    (Except.error fault >>= next) = .error fault :=
  rfl

/-- A computation of two steps succeeds exactly when both do. -/
theorem bind_eq_ok_iff {ε α β : Type} {first : Except ε α} {next : α → Except ε β} {result : β} :
    first >>= next = .ok result ↔ ∃ value, first = .ok value ∧ next value = .ok result := by
  cases first <;> simp [bind, Except.bind]

/-- A computation of two steps stops exactly when one of them does. -/
theorem bind_eq_error_iff {ε α β : Type} {first : Except ε α} {next : α → Except ε β}
    {fault : ε} : first >>= next = .error fault ↔
      first = .error fault ∨ ∃ value, first = .ok value ∧ next value = .error fault := by
  cases first <;> simp [bind, Except.bind]

/-- Where every step succeeds, so do all of them one after another. -/
theorem mapM_eq_ok {ε α β : Type} {step : α → Except ε β} {value : α → β} {xs : List α}
    (h : ∀ x ∈ xs, step x = .ok (value x)) : xs.mapM step = .ok (xs.map value) := by
  induction xs with
  | nil => rfl
  | cons x xs ih =>
      have hx := h x List.mem_cons_self
      have hxs := ih fun y hy ↦ h y (List.mem_cons_of_mem x hy)
      rw [List.mapM_cons, hx, hxs]
      rfl

/-- Steps one after another depend on what each of them does with its own element. -/
theorem mapM_congr {ε α β : Type} {step other : α → Except ε β} {xs : List α}
    (h : ∀ x ∈ xs, step x = other x) : xs.mapM step = xs.mapM other := by
  induction xs with
  | nil => rfl
  | cons x xs ih =>
      obtain ⟨hx, hxs⟩ := List.forall_mem_cons.mp h
      rw [List.mapM_cons, List.mapM_cons, hx, ih hxs]

/-- Steps one after another stop with the fault of one of them. -/
theorem exists_mem_of_mapM_eq_error {ε α β : Type} {step : α → Except ε β} {xs : List α}
    {fault : ε} (h : xs.mapM step = .error fault) : ∃ x ∈ xs, step x = .error fault := by
  induction xs with
  | nil => cases h
  | cons x xs ih =>
      rw [List.mapM_cons, bind_eq_error_iff] at h
      rcases h with hx | ⟨y, -, hrest⟩
      · exact ⟨x, List.mem_cons_self, hx⟩
      · rcases bind_eq_error_iff.mp hrest with hxs | ⟨ys, -, hdone⟩
        · obtain ⟨z, hz, hstep⟩ := ih hxs
          exact ⟨z, List.mem_cons_of_mem x hz, hstep⟩
        · cases hdone

/-- A number fits exactly when it is below the limit, and then it is unchanged. -/
theorem fit_eq_ok_iff {limit number result : Nat} :
    fit limit number = .ok result ↔ number < limit ∧ result = number := by
  unfold fit
  split
  · simp_all [eq_comm]
  · simp_all [Nat.not_lt.mpr]

/-- A sum of indices exists exactly when it is an index. -/
theorem addIndex_eq_ok_iff {a b result : Nat} :
    addIndex a b = .ok result ↔ a + b < indexLimit ∧ result = a + b :=
  fit_eq_ok_iff

/-- A product of indices exists exactly when it is an index. -/
theorem mulIndex_eq_ok_iff {a b result : Nat} :
    mulIndex a b = .ok result ↔ a * b < indexLimit ∧ result = a * b :=
  fit_eq_ok_iff

/-- A difference of indices exists exactly when it is not negative. -/
theorem subIndex_eq_ok_iff {a b result : Nat} :
    subIndex a b = .ok result ↔ b ≤ a ∧ result = a - b := by
  unfold subIndex
  split
  · simp_all [eq_comm]
  · simp_all [Nat.not_le.mpr]

/-- A sum of costs exists exactly when it is a cost. -/
theorem addCost_eq_ok_iff {a b result : Nat} :
    addCost a b = .ok result ↔ a + b < costLimit ∧ result = a + b :=
  fit_eq_ok_iff

/-- A product of costs exists exactly when it is a cost. -/
theorem mulCost_eq_ok_iff {a b result : Nat} :
    mulCost a b = .ok result ↔ a * b < costLimit ∧ result = a * b :=
  fit_eq_ok_iff

end ChainProduct
