import Mathlib

/-! Lists taken apart and put together: in batches, in another order of their positions,
trimmed at both ends, and grown by entries that may still change. -/

namespace PharmaIntel.Base

/-! ## Batches

Consecutive batches of a list, as `itertools.batched` makes them. -/

section Batches
variable {α : Type}

/-- `batch` is the batch being filled. -/
def batchedFrom (size : Nat) : List α → List α → List (List α)
  | batch, [] => if batch.isEmpty then [] else [batch]
  | batch, row :: rows =>
      if (batch ++ [row]).length = size then (batch ++ [row]) :: batchedFrom size [] rows
      else batchedFrom size (batch ++ [row]) rows

/-- `itertools.batched`. -/
def batched (size : Nat) (rows : List α) : List (List α) := batchedFrom size [] rows

/-- Non-empty consecutive batches of `rows`. -/
structure Partition (rows : List α) (batches : List (List α)) : Prop where
  nonempty : ∀ batch ∈ batches, batch ≠ []
  flatten : batches.flatten = rows

theorem batchedFrom_partition (size : Nat) (batch rows : List α) :
    Partition (batch ++ rows) (batchedFrom size batch rows) := by
  induction rows generalizing batch with
  | nil =>
    cases batch with
    | nil => exact ⟨by simp [batchedFrom], rfl⟩
    | cons row rest => exact ⟨by simp [batchedFrom], by simp [batchedFrom]⟩
  | cons row rows ih =>
    by_cases full : (batch ++ [row]).length = size
    · have rest := ih []
      rw [batchedFrom, if_pos full]
      refine ⟨?_, ?_⟩
      · intro other member
        rcases List.mem_cons.mp member with rfl | later
        · simp
        · exact rest.nonempty other later
      · simpa using rest.flatten
    · rw [batchedFrom, if_neg full]
      simpa using ih (batch ++ [row])

theorem batched_partition (size : Nat) (rows : List α) : Partition rows (batched size rows) :=
  batchedFrom_partition size [] rows

end Batches

/-! ## Orders of positions

Lists put in another order by a permutation of their positions. A list of another length is left
alone, and two lists of the same length are reordered together. -/

section Reordered
variable {α β : Type} {n : Nat} (order : Equiv.Perm (Fin n))

def reorder (l : List α) : List α :=
  if full : l.length = n then List.ofFn (fun i => l.get ((order i).cast full.symm)) else l

@[simp] theorem length_reorder (l : List α) : (reorder order l).length = l.length := by
  unfold reorder
  split_ifs with full
  · rw [List.length_ofFn, full]
  · rfl

theorem reorder_perm (l : List α) : (reorder order l).Perm l := by
  unfold reorder
  split_ifs with full
  · subst full
    have same : List.ofFn (fun i => l.get i) = l := List.ofFn_get l
    calc (List.ofFn (fun i => l.get (order i))).Perm (List.ofFn (fun i => l.get i)) :=
          order.ofFn_comp_perm l.get
      _ = l := same
  · exact List.Perm.refl l

theorem reorder_zip {first : List α} {second : List β} (firstFull : first.length = n)
    (secondFull : second.length = n) :
    (reorder order first).zip (reorder order second) = reorder order (first.zip second) := by
  have full : (first.zip second).length = n := by simp [firstFull, secondFull]
  apply List.ext_getElem
  · simp
  · intro i left right
    simp [reorder, firstFull, secondFull]

end Reordered

/-! ## Trimmed ends

Trimming a list at both ends by a predicate, and what stays trimmed under a smaller predicate or
an expansion of every element. -/

section Trimmed
variable {α β : Type}

def trimBy (p : α → Bool) (l : List α) : List α := (l.dropWhile p).rdropWhile p

/-- No element at either end satisfies `p`. -/
structure NoEdge (p : α → Bool) (l : List α) : Prop where
  head : ∀ a ∈ l.head?, p a = false
  last : ∀ a ∈ l.getLast?, p a = false

theorem NoEdge.nil (p : α → Bool) : NoEdge p ([] : List α) := ⟨by simp, by simp⟩

theorem trimBy_of_noEdge {p : α → Bool} {l : List α} (trimmed : NoEdge p l) : trimBy p l = l := by
  have front : l.dropWhile p = l := by
    cases l with
    | nil => rfl
    | cons a l =>
      have first : p a = false := trimmed.head a rfl
      rw [List.dropWhile_cons_of_neg (by simp [first])]
  rw [trimBy, front, List.rdropWhile_eq_self_iff]
  intro nonempty
  rw [trimmed.last _ (List.getLast?_eq_getLast_of_ne_nil nonempty)]
  decide

theorem trimBy_noEdge (p : α → Bool) (l : List α) : NoEdge p (trimBy p l) := by
  have front : ∀ a ∈ (l.dropWhile p).head?, p a = false := by
    intro a first
    have stops := List.head?_dropWhile_not p l
    rw [Option.mem_def.mp first] at stops
    simpa using stops
  refine ⟨?_, ?_⟩
  · intro a first
    obtain ⟨rest, whole⟩ := List.rdropWhile_prefix p (l.dropWhile p)
    apply front
    rw [← whole, List.head?_append]
    simp only [trimBy, Option.mem_def] at first
    simp [first]
  · intro a last
    have kept : trimBy p l ≠ [] := by
      intro empty
      simp [empty] at last
    have stops : ¬p ((trimBy p l).getLast kept) := List.rdropWhile_last_not p (l.dropWhile p) kept
    rw [List.getLast?_eq_getLast_of_ne_nil kept, Option.mem_some] at last
    rw [← last]
    simpa using stops

theorem NoEdge.mono {p q : α → Bool} {l : List α} (trimmed : NoEdge p l)
    (weaker : ∀ a ∈ l, q a = true → p a = true) : NoEdge q l := by
  have inside : ∀ a ∈ l, p a = false → q a = false := by
    intro a member clear
    by_contra marked
    simp [weaker a member (by simpa using marked)] at clear
  exact ⟨fun a first => inside a (List.mem_of_mem_head? first) (trimmed.head a first),
    fun a last => inside a (List.mem_of_mem_getLast? last) (trimmed.last a last)⟩

/-- Replacing every element by a non-empty list keeps the ends clear when the
replacement marks nothing new. -/
theorem NoEdge.flatMap {p : α → Bool} {q : β → Bool} {l : List α} (expand : α → List β)
    (trimmed : NoEdge p l) (nonempty : ∀ a, expand a ≠ [])
    (marks : ∀ a, ∀ b ∈ expand a, q b = true → p a = true) : NoEdge q (l.flatMap expand) := by
  have clear : ∀ a, p a = false → ∀ b ∈ expand a, q b = false := by
    intro a unmarked b member
    by_contra marked
    simp [marks a b member (by simpa using marked)] at unmarked
  refine ⟨?_, ?_⟩
  · intro b first
    cases l with
    | nil => simp at first
    | cons a l =>
      rw [List.flatMap_cons, List.head?_append_of_ne_nil _ (nonempty a)] at first
      exact clear a (trimmed.head a rfl) b (List.mem_of_mem_head? first)
  · intro b last
    induction l using List.reverseRecOn with
    | nil => simp at last
    | append_singleton front a _ =>
      rw [List.flatMap_append, List.flatMap_singleton,
        List.getLast?_append_of_ne_nil _ (nonempty a)] at last
      exact clear a (trimmed.last a (by simp)) b (List.mem_of_mem_getLast? last)

end Trimmed

/-! ## Append-only lists

Append-only lists whose entries may still change: later the list has an entry for each earlier
one, related to it, and new entries after them. -/

section Growing
variable {α : Type} {R : α → α → Prop}

/-- The second list has grown out of the first. -/
inductive Grows (R : α → α → Prop) : List α → List α → Prop where
  | appended (new : List α) : Grows R [] new
  | entry {first second : α} {before after : List α} (related : R first second) (rest : Grows R before after) :
      Grows R (first :: before) (second :: after)

theorem grows_of_forall₂ {before after : List α} (related : List.Forall₂ R before after) (new : List α) :
    Grows R before (after ++ new) := by
  induction related with
  | nil => exact .appended new
  | cons here _ ih => exact .entry here ih

theorem grows_map {items : List α} {change : α → α} (related : ∀ item ∈ items, R item (change item))
    (new : List α) : Grows R items (items.map change ++ new) := by
  apply grows_of_forall₂
  rw [List.forall₂_map_right_iff, List.forall₂_same]
  exact related

theorem grows_append (reflexive : ∀ item, R item item) (items new : List α) : Grows R items (items ++ new) := by
  have grown := @grows_map α R items id (fun item _ => reflexive item) new
  rwa [List.map_id] at grown

theorem grows_refl (reflexive : ∀ item, R item item) (items : List α) : Grows R items items := by
  have grown := grows_append reflexive items []
  rwa [List.append_nil] at grown

theorem Grows.trans (transitive : ∀ first second third, R first second → R second third → R first third)
    {first second third : List α} (earlier : Grows R first second) (later : Grows R second third) :
    Grows R first third := by
  induction earlier generalizing third with
  | appended new => exact .appended third
  | entry related _ ih =>
    cases later with
    | entry next rest => exact .entry (transitive _ _ _ related next) (ih rest)

theorem Grows.imp_mem {S : α → α → Prop} {before after : List α} (grown : Grows R before after)
    (weaker : ∀ first ∈ before, ∀ second, R first second → S first second) : Grows S before after := by
  induction grown with
  | appended new => exact .appended new
  | entry related _ ih =>
    exact .entry (weaker _ List.mem_cons_self _ related)
      (ih (fun first member => weaker first (List.mem_cons_of_mem _ member)))

/-- Every earlier entry is still there, changed as it may. -/
theorem Grows.entry_of_mem {before after : List α} (grown : Grows R before after) {item : α}
    (member : item ∈ before) : ∃ later ∈ after, R item later := by
  induction grown with
  | appended new => cases member
  | entry related _ ih =>
    rcases List.mem_cons.mp member with rfl | inside
    · exact ⟨_, List.mem_cons_self, related⟩
    · obtain ⟨later, found, kept⟩ := ih inside
      exact ⟨later, List.mem_cons_of_mem _ found, kept⟩

end Growing

end PharmaIntel.Base
