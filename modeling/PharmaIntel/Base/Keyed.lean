import Mathlib

/-! Tables as lists whose elements carry a key: looking an element up and changing
it in place. -/

namespace PharmaIntel.Base

/-! ## A row at the end -/

theorem nodup_snoc {α κ : Type} {key : α → κ} {rows : List α} {row : α} (nodup : (rows.map key).Nodup)
    (fresh : key row ∉ rows.map key) : ((rows ++ [row]).map key).Nodup := by
  rw [List.map_append, List.map_singleton]
  exact List.nodup_append'.mpr ⟨nodup, List.nodup_singleton _, List.disjoint_singleton.mpr fresh⟩

theorem forall_mem_snoc {α : Type} {Holds : α → Prop} {rows : List α} {row : α}
    (all : ∀ other ∈ rows, Holds other) (new : Holds row) : ∀ other ∈ rows ++ [row], Holds other := by
  intro other member
  rcases List.mem_append.mp member with old | last
  · exact all other old
  · exact List.mem_singleton.mp last ▸ new

/-! ## Looking up and changing -/

variable {α κ : Type} [DecidableEq κ] (key : α → κ)

def findBy (k : κ) (l : List α) : Option α := l.find? (fun a => key a = k)

def updateBy (k : κ) (change : α → α) (l : List α) : List α :=
  l.map (fun a => if key a = k then change a else a)

variable {key} {k : κ} {change : α → α} {l : List α}

theorem findBy_some {a : α} (found : findBy key k l = some a) : a ∈ l ∧ key a = k :=
  ⟨List.mem_of_find?_eq_some found, by simpa using List.find?_some found⟩

theorem findBy_of_mem (nodup : (l.map key).Nodup) {a : α} (member : a ∈ l) :
    findBy key (key a) l = some a := by
  cases found : findBy key (key a) l with
  | none =>
    have absent := List.find?_eq_none.mp found a member
    simp at absent
  | some b =>
    obtain ⟨inside, same⟩ := findBy_some found
    rw [List.inj_on_of_nodup_map nodup inside member same]

theorem findBy_none (absent : findBy key k l = none) : k ∉ l.map key := by
  intro member
  obtain ⟨a, inside, same⟩ := List.mem_map.mp member
  have missing := List.find?_eq_none.mp absent a inside
  simp [same] at missing

theorem filter_key_eq (nodup : (l.map key).Nodup) (k : κ) :
    l.filter (fun a => key a = k) = (findBy key k l).toList := by
  induction l with
  | nil => rfl
  | cons a rest ih =>
    rw [List.map_cons, List.nodup_cons] at nodup
    by_cases here : key a = k
    · have absent : rest.filter (fun b => key b = k) = [] := by
        rw [List.filter_eq_nil_iff]
        intro b member same
        exact nodup.1 (List.mem_map.mpr ⟨b, member, (of_decide_eq_true same).trans here.symm⟩)
      rw [List.filter_cons_of_pos (by simpa using here), absent, findBy,
        List.find?_cons_of_pos (by simpa using here)]
      rfl
    · rw [List.filter_cons_of_neg (by simpa using here), ih nodup.2, findBy, findBy,
        List.find?_cons_of_neg (by simpa using here)]

/-- What a search has found is found again after its change. -/
theorem find_updateBy {p : α → Bool} {a changed : α} (found : l.find? p = some a) (same : key changed = key a)
    (holds : p changed = true) : (updateBy key (key changed) (fun _ => changed) l).find? p = some changed := by
  induction l with
  | nil => cases found
  | cons first rest ih =>
    rw [updateBy, List.map_cons]
    by_cases here : key first = key changed
    · rw [if_pos here, List.find?_cons_of_pos holds]
    · rw [if_neg here]
      have apart : ¬p first = true := by
        intro matching
        rw [List.find?_cons_of_pos matching, Option.some.injEq] at found
        exact here (found ▸ same.symm)
      rw [List.find?_cons_of_neg apart] at found ⊢
      exact ih found

theorem updateBy_map_key (keeps : ∀ a, key (change a) = key a) :
    (updateBy key k change l).map key = l.map key := by
  rw [updateBy, List.map_map]
  apply List.map_congr_left
  intro a _
  rw [Function.comp_apply]
  split_ifs
  · exact keeps a
  · rfl

theorem findBy_updateBy_same (keeps : ∀ a, key (change a) = key a) :
    findBy key k (updateBy key k change l) = (findBy key k l).map change := by
  induction l with
  | nil => rfl
  | cons a rest ih =>
    rw [findBy, updateBy, List.map_cons]
    by_cases here : key a = k
    · rw [if_pos here, List.find?_cons_of_pos (by simp [keeps, here]), findBy,
        List.find?_cons_of_pos (by simp [here])]
      rfl
    · rw [if_neg here, List.find?_cons_of_neg (by simp [here]), findBy,
        List.find?_cons_of_neg (by simp [here])]
      exact ih

theorem findBy_updateBy_other (keeps : ∀ a, key (change a) = key a) {other : κ} (apart : other ≠ k) :
    findBy key other (updateBy key k change l) = findBy key other l := by
  induction l with
  | nil => rfl
  | cons a rest ih =>
    rw [findBy, updateBy, List.map_cons]
    by_cases here : key a = k
    · have skip : key a ≠ other := fun same => apart (same.symm.trans here)
      rw [if_pos here, List.find?_cons_of_neg (by simpa [keeps] using skip), findBy,
        List.find?_cons_of_neg (by simpa using skip)]
      exact ih
    · rw [if_neg here, findBy]
      by_cases found : key a = other
      · rw [List.find?_cons_of_pos (by simpa using found), List.find?_cons_of_pos (by simpa using found)]
      · rw [List.find?_cons_of_neg (by simpa using found), List.find?_cons_of_neg (by simpa using found)]
        exact ih

theorem mem_updateBy {b : α} (member : b ∈ updateBy key k change l) :
    (b ∈ l ∧ key b ≠ k) ∨ ∃ a ∈ l, key a = k ∧ b = change a := by
  obtain ⟨a, inside, same⟩ := List.mem_map.mp member
  by_cases here : key a = k
  · rw [if_pos here] at same
    exact Or.inr ⟨a, inside, here, same.symm⟩
  · rw [if_neg here] at same
    subst same
    exact Or.inl ⟨inside, here⟩

/-- A predicate that the change does not turn on keeps its elements apart. -/
theorem updateBy_filter_sublist {β : Type} (image : α → β) (p : α → Bool)
    (keeps : ∀ a, image (change a) = image a) (calms : ∀ a, p (change a) = true → p a = true) :
    (((updateBy key k change l).filter p).map image).Sublist ((l.filter p).map image) := by
  induction l with
  | nil => simp [updateBy]
  | cons a rest ih =>
    rw [updateBy, List.map_cons, ← updateBy]
    have image_eq : image (if key a = k then change a else a) = image a := by
      split_ifs
      · exact keeps a
      · rfl
    have p_le : p (if key a = k then change a else a) = true → p a = true := by
      split_ifs
      · exact calms a
      · exact id
    by_cases after : p (if key a = k then change a else a) = true
    · rw [List.filter_cons_of_pos after, List.filter_cons_of_pos (p_le after), List.map_cons,
        List.map_cons, image_eq]
      exact ih.cons_cons _
    · rw [List.filter_cons_of_neg after]
      by_cases before : p a = true
      · rw [List.filter_cons_of_pos before, List.map_cons]
        exact ih.cons _
      · rw [List.filter_cons_of_neg before]
        exact ih

end PharmaIntel.Base
