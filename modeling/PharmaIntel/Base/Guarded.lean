import Mathlib
import PharmaIntel.Base.Keyed

/-! A table of keyed rows under arbitrary statements. A guard sees the old row and the new one,
or none when the row is deleted, and refuses what it does not admit. -/

namespace PharmaIntel.Base

/-- A statement as it reaches one row. `elsewhere` is what else the table asks of the new row. -/
inductive Write (ρ κ : Type) where
  | insert (new : ρ) (elsewhere : Bool)
  | update (k : κ) (new : ρ) (elsewhere : Bool)
  | delete (k : κ)
  deriving DecidableEq

section Tables
variable {ρ κ ε : Type} [DecidableEq κ] {key : ρ → κ}

structure KeyedTable (key : ρ → κ) where
  rows : List ρ
  unique : (rows.map key).Nodup

def KeyedTable.empty : KeyedTable key := ⟨[], List.nodup_nil⟩

/-- The new row beside those that stay. -/
def KeyedTable.put (table : KeyedTable key) {others : List ρ} (kept : others.Sublist table.rows) (refusal : ε) (new : ρ)
    (elsewhere : Bool) : Except ε (KeyedTable key) :=
  if taken : key new ∈ others.map key then .error refusal
  else if elsewhere then .ok ⟨others ++ [new], nodup_snoc (table.unique.sublist (kept.map key)) taken⟩
  else .error refusal

def KeyedTable.write (guard : ρ → Option ρ → Except ε Unit) (refusal : ε) (table : KeyedTable key) :
    Write ρ κ → Except ε (KeyedTable key)
  | .insert new elsewhere => table.put (List.Sublist.refl _) refusal new elsewhere
  | .update k new elsewhere =>
      match findBy key k table.rows with
      | none => .ok table
      | some old =>
          match guard old (some new) with
          | .error refused => .error refused
          | .ok () => table.put (List.filter_sublist (p := fun row => key row ≠ k)) refusal new elsewhere
  | .delete k =>
      match findBy key k table.rows with
      | none => .ok table
      | some old =>
          match guard old none with
          | .error refused => .error refused
          | .ok () =>
              .ok ⟨table.rows.filter (fun row => key row ≠ k), table.unique.sublist (List.filter_sublist.map key)⟩

variable {guard : ρ → Option ρ → Except ε Unit} {refusal : ε} {table next : KeyedTable key} {write : Write ρ κ}

theorem KeyedTable.put_ok {others : List ρ} {kept : others.Sublist table.rows} {new : ρ} {elsewhere : Bool}
    (done : table.put kept refusal new elsewhere = .ok next) : next.rows = others ++ [new] := by
  unfold put at done
  split_ifs at done
  exact congrArg rows (Except.ok.inj done).symm

/-- A row that is not the written one stays as it is. -/
theorem mem_others {rows : List ρ} {old row : ρ} {k : κ} (nodup : (rows.map key).Nodup)
    (found : findBy key k rows = some old) (member : row ∈ rows) :
    row = old ∨ row ∈ rows.filter (fun other => key other ≠ k) := by
  obtain ⟨inside, same⟩ := findBy_some found
  by_cases here : key row = k
  · exact Or.inl (List.inj_on_of_nodup_map nodup member inside (here.trans same.symm))
  · exact Or.inr (List.mem_filter.mpr ⟨member, by simpa using here⟩)

/-- Where the guard admits no deletion and only updates within `K`, no statement loses a row. -/
theorem KeyedTable.write_keeps {K : ρ → ρ → Prop} (same : ∀ row, K row row)
    (updates : ∀ old new, guard old (some new) = .ok () → K old new) (deletes : ∀ old, guard old none ≠ .ok ())
    (done : table.write guard refusal write = .ok next) :
    ∀ row ∈ table.rows, ∃ after ∈ next.rows, K row after := by
  intro row member
  cases write with
  | insert new elsewhere =>
    dsimp only [KeyedTable.write] at done
    rw [put_ok done]
    exact ⟨row, List.mem_append_left _ member, same row⟩
  | update k new elsewhere =>
    dsimp only [KeyedTable.write] at done
    split at done
    · obtain rfl := Except.ok.inj done
      exact ⟨row, member, same row⟩
    · rename_i old found
      split at done
      · cases done
      · rename_i admitted
        rw [put_ok done]
        rcases mem_others table.unique found member with rfl | other
        · exact ⟨new, List.mem_append_right _ (List.mem_singleton_self new), updates _ new admitted⟩
        · exact ⟨row, List.mem_append_left _ other, same row⟩
  | delete k =>
    dsimp only [KeyedTable.write] at done
    split at done
    · obtain rfl := Except.ok.inj done
      exact ⟨row, member, same row⟩
    · split at done
      · cases done
      · rename_i old _ _ admitted
        exact absurd admitted (deletes old)

/-- Every row after a statement was there before, is inserted by it, or is an update that the guard admits. -/
theorem KeyedTable.write_from (done : table.write guard refusal write = .ok next) :
    ∀ row ∈ next.rows, row ∈ table.rows ∨ (∃ elsewhere, write = .insert row elsewhere) ∨
      ∃ old ∈ table.rows, guard old (some row) = .ok () := by
  intro row member
  cases write with
  | insert new elsewhere =>
    dsimp only [KeyedTable.write] at done
    rw [put_ok done] at member
    rcases List.mem_append.mp member with before | last
    · exact Or.inl before
    · rw [List.mem_singleton.mp last]
      exact Or.inr (Or.inl ⟨elsewhere, rfl⟩)
  | update k new elsewhere =>
    dsimp only [KeyedTable.write] at done
    split at done
    · obtain rfl := Except.ok.inj done
      exact Or.inl member
    · rename_i old found
      split at done
      · cases done
      · rename_i admitted
        rw [put_ok done] at member
        rcases List.mem_append.mp member with before | last
        · exact Or.inl (List.mem_of_mem_filter before)
        · rw [List.mem_singleton.mp last]
          exact Or.inr (Or.inr ⟨old, (findBy_some found).1, admitted⟩)
  | delete k =>
    dsimp only [KeyedTable.write] at done
    split at done
    · obtain rfl := Except.ok.inj done
      exact Or.inl member
    · split at done
      · cases done
      · obtain rfl := Except.ok.inj done
        exact Or.inl (List.mem_of_mem_filter member)

end Tables

/-! ## Transactions -/

theorem map_ok {α β ε : Type} {f : α → β} {result : Except ε α} {value : β} (done : result.map f = .ok value) :
    ∃ a, result = .ok a ∧ value = f a := by
  cases result with
  | error e => cases done
  | ok a => exact ⟨a, rfl, (Except.ok.inj done).symm⟩

section Transactions
variable {σ α ε : Type} (execute : σ → α → Except ε σ)

/-- All statements of a transaction take effect, or none. -/
def transaction (state : σ) (statements : List α) : σ :=
  match statements.foldlM execute state with
  | .ok next => next
  | .error _ => state

variable {execute}

/-- What each statement preserves, a transaction preserves. -/
theorem transaction_preserves {Admitted : α → Prop} {Holds : σ → Prop}
    (preserved : ∀ state statement next, Admitted statement → Holds state → execute state statement = .ok next →
      Holds next) {state : σ} {statements : List α} (admitted : ∀ statement ∈ statements, Admitted statement)
    (holds : Holds state) : Holds (transaction execute state statements) := by
  have all : ∀ state next, statements.foldlM execute state = .ok next → Holds state → Holds next := by
    induction statements with
    | nil =>
      intro state next done holds
      rw [← Except.ok.inj done]
      exact holds
    | cons statement rest ih =>
      intro state next done holds
      rw [List.foldlM_cons] at done
      cases first : execute state statement with
      | error refusal =>
        rw [first] at done
        cases done
      | ok middle =>
        rw [first] at done
        exact ih (fun other member => admitted other (List.mem_cons_of_mem _ member)) middle next done
          (preserved state statement middle (admitted statement List.mem_cons_self) holds first)
  unfold transaction
  cases outcome : statements.foldlM execute state with
  | error refusal => exact holds
  | ok next => exact all state next outcome holds

end Transactions

end PharmaIntel.Base
