import Mathlib

/-! Finite maps. Dictionaries keep the order of insertion; partial maps can be joined. -/

namespace PharmaIntel.Base

/-! ## Dictionaries

Insertion-ordered dictionaries: a write to a known key keeps its place, a write to a new key goes
to the end. A dictionary built from a list of pairs answers with the last pair of a key, one built
by grouping with all of them. -/

structure Dict (κ ν : Type) where
  entries : List (κ × ν)
  deriving DecidableEq, Repr

namespace Dict
variable {κ ν : Type} [DecidableEq κ]

def empty : Dict κ ν := ⟨[]⟩

def get (d : Dict κ ν) (key : κ) : Option ν :=
  (d.entries.find? (fun entry => entry.1 = key)).map Prod.snd

def set (d : Dict κ ν) (key : κ) (value : ν) : Dict κ ν :=
  if d.entries.any (fun entry => entry.1 = key) then
    ⟨d.entries.map (fun entry => if entry.1 = key then (key, value) else entry)⟩
  else ⟨d.entries ++ [(key, value)]⟩

def values (d : Dict κ ν) : List ν := d.entries.map Prod.snd

def ofPairs (pairs : List (κ × ν)) : Dict κ ν :=
  pairs.foldl (fun d pair => d.set pair.1 pair.2) empty

/-- `d.setdefault(key, []).append(value)`. -/
def append (d : Dict κ (List ν)) (key : κ) (value : ν) : Dict κ (List ν) :=
  d.set key ((d.get key).getD [] ++ [value])

def group (pairs : List (κ × ν)) : Dict κ (List ν) :=
  pairs.foldl (fun d pair => d.append pair.1 pair.2) empty

@[simp] theorem get_empty (key : κ) : (empty : Dict κ ν).get key = none := rfl

private theorem find_overwrite_self (entries : List (κ × ν)) (key : κ) (value : ν)
    (known : entries.any (fun entry => entry.1 = key)) :
    ((entries.map (fun entry => if entry.1 = key then (key, value) else entry)).find?
      (fun entry => entry.1 = key)).map Prod.snd = some value := by
  induction entries with
  | nil => simp at known
  | cons entry tail ih =>
    by_cases here : entry.1 = key
    · simp only [List.map_cons, if_pos here, List.find?_cons, decide_true, Option.map_some]
    · have later : tail.any (fun entry => entry.1 = key) := by simpa [here] using known
      rw [List.map_cons, if_neg here, List.find?_cons_of_neg (by simpa using here)]
      exact ih later

private theorem find_overwrite_other (entries : List (κ × ν)) (key other : κ) (value : ν)
    (apart : key ≠ other) :
    (entries.map (fun entry => if entry.1 = key then (key, value) else entry)).find?
      (fun entry => entry.1 = other) = entries.find? (fun entry => entry.1 = other) := by
  induction entries with
  | nil => rfl
  | cons entry tail ih =>
    by_cases here : entry.1 = key
    · have skip : entry.1 ≠ other := fun equal => apart (here.symm.trans equal)
      simpa only [List.map_cons, if_pos here, List.find?_cons, apart, skip, decide_false] using ih
    · simp only [List.map_cons, if_neg here, List.find?_cons, ih]

theorem get_set (d : Dict κ ν) (key other : κ) (value : ν) :
    (d.set key value).get other = if key = other then some value else d.get other := by
  unfold set get
  by_cases known : d.entries.any (fun entry => entry.1 = key)
  · rw [if_pos known]
    by_cases same : key = other
    · subst other
      rw [if_pos rfl]
      exact find_overwrite_self d.entries key value known
    · rw [if_neg same, find_overwrite_other d.entries key other value same]
  · rw [if_neg known]
    have absent : d.entries.find? (fun entry => entry.1 = key) = none := by
      simpa only [List.any_eq_true, not_exists, not_and, List.find?_eq_none] using known
    by_cases same : key = other
    · subst other
      simp [List.find?_append, absent]
    · simp [List.find?_append, same]

theorem mem_values_of_get {d : Dict κ ν} {key : κ} {value : ν} (found : d.get key = some value) :
    value ∈ d.values := by
  obtain ⟨entry, located, rfl⟩ := Option.map_eq_some_iff.mp found
  exact List.mem_map_of_mem (List.mem_of_find?_eq_some located)

/-- The last pair of a key wins. -/
theorem get_ofPairs (pairs : List (κ × ν)) (key : κ) :
    (ofPairs pairs).get key = ((pairs.filter (fun pair => pair.1 = key)).getLast?).map Prod.snd := by
  induction pairs using List.reverseRecOn with
  | nil => rfl
  | append_singleton front pair ih =>
    have last : ofPairs (front ++ [pair]) = (ofPairs front).set pair.1 pair.2 := by
      simp [ofPairs, List.foldl_append]
    rw [last, get_set]
    by_cases same : pair.1 = key
    · simp [List.filter_append, same]
    · simpa [List.filter_append, same] using ih

/-- Where the keys are distinct, a dictionary holds the pairs it was built from. -/
theorem get_ofPairs_eq_some {pairs : List (κ × ν)} (distinct : (pairs.map Prod.fst).Nodup)
    (key : κ) (value : ν) : (ofPairs pairs).get key = some value ↔ (key, value) ∈ pairs := by
  induction pairs using List.reverseRecOn with
  | nil => simp [ofPairs]
  | append_singleton front pair ih =>
    have last : ofPairs (front ++ [pair]) = (ofPairs front).set pair.1 pair.2 := by
      simp [ofPairs, List.foldl_append]
    rw [List.map_append, List.map_singleton, List.nodup_append] at distinct
    obtain ⟨frontDistinct, _, apart⟩ := distinct
    rw [last, get_set, List.mem_append, List.mem_singleton]
    split_ifs with same
    · subst same
      have absent : (pair.1, value) ∉ front := fun member =>
        apart _ (List.mem_map_of_mem member) _ List.mem_cons_self rfl
      simp [absent, Prod.ext_iff, eq_comm]
    · have other : (key, value) ≠ pair := fun equal => same (by rw [← equal])
      simp [ih frontDistinct, other]

/-- The order of pairs with distinct keys does not matter. -/
theorem get_ofPairs_perm {first second : List (κ × ν)} (perm : first.Perm second)
    (distinct : (first.map Prod.fst).Nodup) (key : κ) :
    (ofPairs first).get key = (ofPairs second).get key := by
  apply Option.ext
  intro value
  rw [get_ofPairs_eq_some distinct, get_ofPairs_eq_some ((perm.map Prod.fst).nodup distinct)]
  exact perm.mem_iff

/-- Grouping keeps every value of a key, in the order of the pairs. -/
theorem get_group (pairs : List (κ × ν)) (key : κ) :
    ((group pairs).get key).getD [] = (pairs.filter (fun pair => pair.1 = key)).map Prod.snd := by
  induction pairs using List.reverseRecOn with
  | nil => rfl
  | append_singleton front pair ih =>
    have last : group (front ++ [pair]) = (group front).append pair.1 pair.2 := by
      simp [group, List.foldl_append]
    rw [last, append, get_set]
    by_cases same : pair.1 = key
    · simp [List.filter_append, same] at ih ⊢
      exact ih
    · simpa [List.filter_append, same] using ih

end Dict

/-! ## Partial maps

Joining partial maps. Where two maps agree the join forgets their order, and joining what is
already there changes nothing. -/

section Joins
variable {κ ν : Type*} {f g h : κ → Option ν}

/-- Equal values wherever both are defined. -/
def Agree (f g : κ → Option ν) : Prop := ∀ key v w, f key = some v → g key = some w → v = w

/-- Everything `f` holds is held by `g`. -/
def Below (f g : κ → Option ν) : Prop := ∀ key v, f key = some v → g key = some v

/-- The first map answers wherever it can. -/
def join (f g : κ → Option ν) (key : κ) : Option ν := (f key).or (g key)

theorem Agree.symm (agree : Agree f g) : Agree g f := fun key v w left right => (agree key w v right left).symm

theorem Below.trans (first : Below f g) (second : Below g h) : Below f h :=
  fun key v held => second key v (first key v held)

theorem below_join_right (agree : Agree f g) : Below g (join f g) := by
  intro key v held
  rw [join]
  cases first : f key with
  | none => exact held
  | some w =>
    rw [agree key w v first held]
    rfl

theorem join_comm (agree : Agree f g) : join f g = join g f := by
  funext key
  unfold join
  cases first : f key with
  | none => simp
  | some v =>
    cases second : g key with
    | none => rfl
    | some w =>
      rw [agree key v w first second]

theorem join_assoc : join (join f g) h = join f (join g h) := by
  funext key
  exact Option.or_assoc

/-- Two maps that agree with each other commute over any third. -/
theorem join_right_comm (agree : Agree g h) : join (join f g) h = join (join f h) g := by
  rw [join_assoc, join_comm agree, ← join_assoc]

theorem join_of_below (below : Below g f) : join f g = f := by
  funext key
  unfold join
  cases held : g key with
  | none => rw [Option.or_none]
  | some v =>
    rw [below key v held]
    rfl

theorem Below.agree (below : Below g f) : Agree f g := by
  intro key v w first second
  rw [below key w second] at first
  exact (Option.some.inj first).symm

theorem Agree.join (first : Agree f h) (second : Agree g h) : Agree (join f g) h := by
  intro key v w joined held
  rw [PharmaIntel.Base.join] at joined
  rcases Option.or_eq_some_iff.mp joined with inside | ⟨_, inside⟩
  · exact first key v w inside held
  · exact second key v w inside held

end Joins

end PharmaIntel.Base
