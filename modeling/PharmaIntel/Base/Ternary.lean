import Mathlib

/-! The three-valued logic of SQL: `none` is NULL, as a value and as a truth value. An `IF`
takes its branch on TRUE only, a `CHECK` refuses on FALSE only. -/

namespace PharmaIntel.Base.Ternary

abbrev Truth := Option Bool

def neg (a : Truth) : Truth := a.map (!·)

def conj : Truth → Truth → Truth
  | some false, _ | _, some false => some false
  | some true, b => b
  | none, _ => none

def disj : Truth → Truth → Truth
  | some true, _ | _, some true => some true
  | some false, b => b
  | none, _ => none

/-- A chain of conditions joined by `AND`. -/
def conjAll : List Truth → Truth := List.foldr conj (some true)

section Atoms
variable {α : Type} [DecidableEq α]

/-- `a = b`. -/
def equals (a b : Option α) : Truth := a.bind (fun x => b.map (fun y => decide (x = y)))

/-- `a IN (..)`, for values that are not NULL. -/
def isIn (a : Option α) (values : List α) : Truth := a.map (fun x => decide (x ∈ values))

/-- A predicate that is strict in its argument. -/
def holds {β : Type} (p : β → Bool) (a : Option β) : Truth := a.map p

def isNull {β : Type} (a : Option β) : Truth := some a.isNone

def isNotNull {β : Type} (a : Option β) : Truth := some a.isSome

/-- `a IS DISTINCT FROM b`, for values and for rows. -/
def distinct (a b : α) : Truth := some (decide (a ≠ b))

@[simp] theorem equals_some (a b : α) : equals (some a) (some b) = some (decide (a = b)) := rfl

@[simp] theorem equals_null (b : Option α) : equals none b = none := rfl

@[simp] theorem isIn_some (a : α) (values : List α) : isIn (some a) values = some (decide (a ∈ values)) := rfl

@[simp] theorem isIn_null (values : List α) : isIn none values = none := rfl

@[simp] theorem distinct_true (a b : α) : distinct a b = some true ↔ a ≠ b := by simp [distinct]

@[simp] theorem distinct_false (a b : α) : distinct a b = some false ↔ a = b := by simp [distinct]

end Atoms

@[simp] theorem equals_true {α : Type} [DecidableEq α] (a : Option α) (b : α) :
    equals a (some b) = some true ↔ a = some b := by
  cases a <;> simp [equals]

theorem some_equals_true {α : Type} [DecidableEq α] (a : α) (b : Option α) :
    equals (some a) b = some true ↔ b = some a := by
  cases b <;> simp [equals, eq_comm]

@[simp] theorem isIn_true {α : Type} [DecidableEq α] (a : Option α) (values : List α) :
    isIn a values = some true ↔ ∃ value ∈ values, a = some value := by
  cases a <;> simp [isIn]

@[simp] theorem isNull_true {β : Type} (a : Option β) : isNull a = some true ↔ a = none := by simp [isNull]

@[simp] theorem isNull_false {β : Type} (a : Option β) : isNull a = some false ↔ a ≠ none := by
  cases a <;> simp [isNull]

@[simp] theorem isNotNull_true {β : Type} (a : Option β) : isNotNull a = some true ↔ a ≠ none := by
  cases a <;> simp [isNotNull]

@[simp] theorem isNotNull_false {β : Type} (a : Option β) : isNotNull a = some false ↔ a = none := by
  simp [isNotNull]

@[simp] theorem neg_true (a : Truth) : neg a = some true ↔ a = some false := by
  rcases a with _ | _ | _ <;> simp [neg]

@[simp] theorem neg_false (a : Truth) : neg a = some false ↔ a = some true := by
  rcases a with _ | _ | _ <;> simp [neg]

@[simp] theorem conj_true (a b : Truth) : conj a b = some true ↔ a = some true ∧ b = some true := by
  rcases a with _ | _ | _ <;> rcases b with _ | _ | _ <;> simp [conj]

@[simp] theorem conj_false (a b : Truth) : conj a b = some false ↔ a = some false ∨ b = some false := by
  rcases a with _ | _ | _ <;> rcases b with _ | _ | _ <;> simp [conj]

@[simp] theorem disj_true (a b : Truth) : disj a b = some true ↔ a = some true ∨ b = some true := by
  rcases a with _ | _ | _ <;> rcases b with _ | _ | _ <;> simp [disj]

@[simp] theorem disj_false (a b : Truth) : disj a b = some false ↔ a = some false ∧ b = some false := by
  rcases a with _ | _ | _ <;> rcases b with _ | _ | _ <;> simp [disj]

theorem conjAll_true (conditions : List Truth) :
    conjAll conditions = some true ↔ ∀ condition ∈ conditions, condition = some true := by
  induction conditions with
  | nil => simp [conjAll]
  | cons condition rest ih =>
    rw [List.forall_mem_cons, ← ih]
    exact conj_true condition (conjAll rest)

/-! ## Truth values that are not NULL -/

theorem neg_known {a : Truth} (known : a ≠ none) : neg a ≠ none := by
  simpa [neg] using known

theorem conj_known {a b : Truth} (left : a ≠ none) (right : b ≠ none) : conj a b ≠ none := by
  rcases a with _ | _ | _ <;> rcases b with _ | _ | _ <;> simp_all [conj]

theorem disj_known {a b : Truth} (left : a ≠ none) (right : b ≠ none) : disj a b ≠ none := by
  rcases a with _ | _ | _ <;> rcases b with _ | _ | _ <;> simp_all [disj]

theorem equals_known {α : Type} [DecidableEq α] {a b : Option α} (left : a ≠ none) (right : b ≠ none) :
    equals a b ≠ none := by
  obtain ⟨x, rfl⟩ := Option.ne_none_iff_exists'.mp left
  obtain ⟨y, rfl⟩ := Option.ne_none_iff_exists'.mp right
  simp

theorem isIn_known {α : Type} [DecidableEq α] {a : Option α} (known : a ≠ none) (values : List α) :
    isIn a values ≠ none := by
  simpa [isIn] using known

theorem isNull_known {β : Type} (a : Option β) : isNull a ≠ none := nofun

theorem isNotNull_known {β : Type} (a : Option β) : isNotNull a ≠ none := nofun

/-- A `CHECK` over known values passes only if it is true. -/
theorem passed_true {a : Truth} (known : a ≠ none) (passed : a ≠ some false) : a = some true := by
  rcases a with _ | _ | _
  · exact absurd rfl known
  · exact absurd rfl passed
  · rfl

end PharmaIntel.Base.Ternary
