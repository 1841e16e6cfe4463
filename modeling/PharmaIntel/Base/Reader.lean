import Mathlib

/-! Sources that are read in pieces. How a source splits what it serves may depend on
everything it was asked for. -/

namespace PharmaIntel.Base

/-- What a read gives: a chunk, empty at the end, another value, or an exception. -/
inductive Reply (α : Type) where
  | chunk (items : List α)
  | other (truthy : Bool)
  | raised
  deriving DecidableEq, Repr

section Sources
variable {σ α : Type} (reading : σ → Int → Reply α × σ)

/-- The source serves the items in non-empty chunks no longer than asked for, then ends. -/
inductive Serves : σ → List α → Prop where
  | ended {source : σ} (next : Int → σ) (replies : ∀ size, 0 < size → reading source size = (.chunk [], next size)) :
      Serves source []
  | more {source : σ} {items : List α} (chunk : Int → List α) (next : Int → σ)
      (replies : ∀ size, 0 < size → reading source size = (.chunk (chunk size), next size))
      (nonempty : ∀ size, 0 < size → chunk size ≠ [])
      (bounded : ∀ size, 0 < size → (chunk size).length ≤ size)
      (starts : ∀ size, 0 < size → chunk size <+: items)
      (later : ∀ size, 0 < size → Serves (next size) (items.drop (chunk size).length)) :
      Serves source items

/-- Every read gives the next items, until they end; a source that `mayFail` may raise instead. -/
def Delivers (mayFail : Prop) (source : σ) (items : List α) : Prop :=
  ∃ Holds : σ → List α → Prop, Holds source items ∧ ∀ source items, Holds source items → ∀ size, 0 < size →
    (mayFail ∧ ∃ next, reading source size = (.raised, next)) ∨ ∃ chunk rest next,
      reading source size = (.chunk chunk, next) ∧ items = chunk ++ rest ∧ chunk.length ≤ size ∧
        (chunk = [] → rest = []) ∧ (chunk ≠ [] → Holds next rest)

/-- The source after these reads. -/
def readAll (source : σ) (sizes : List Int) : σ := sizes.foldl (fun source size => (reading source size).2) source

/-- The source never ends. -/
def Endless (source : σ) : Prop :=
  ∃ Holds : σ → Prop, Holds source ∧ ∀ source, Holds source → ∀ size, 0 < size → ∃ chunk next,
    reading source size = (.chunk chunk, next) ∧ chunk ≠ [] ∧ chunk.length ≤ size ∧ Holds next

/-- No chunk of the source is longer than asked for. -/
def Bounded (source : σ) : Prop :=
  ∃ Holds : σ → Prop, Holds source ∧ ∀ source, Holds source → ∀ size, 0 < size → ∀ chunk next,
    reading source size = (.chunk chunk, next) → chunk.length ≤ size ∧ (chunk ≠ [] → Holds next)

variable {reading}

/-- One read of a source that serves the items. -/
theorem Serves.reads {source : σ} {items : List α} (serves : Serves reading source items) {size : Int}
    (positive : 0 < size) :
    ∃ chunk rest next, reading source size = (.chunk chunk, next) ∧ items = chunk ++ rest ∧ chunk.length ≤ size ∧
      (chunk = [] → rest = []) ∧ (chunk ≠ [] → Serves reading next rest) := by
  cases serves with
  | ended next replies => exact ⟨[], [], next size, replies size positive, rfl, by simp; omega, by simp, by simp⟩
  | more chunk next replies nonempty bounded starts later =>
    obtain ⟨rest, whole⟩ := starts size positive
    refine ⟨chunk size, rest, next size, replies size positive, whole.symm, bounded size positive,
      fun empty => absurd empty (nonempty size positive), fun _ => ?_⟩
    have after := later size positive
    rwa [← whole, List.drop_left] at after

theorem Serves.delivers {source : σ} {items : List α} (serves : Serves reading source items) (mayFail : Prop) :
    Delivers reading mayFail source items :=
  ⟨Serves reading, serves, fun _ _ serves _ positive => Or.inr (serves.reads positive)⟩

/-- One read of a source that delivers the items. -/
theorem Delivers.reads {mayFail : Prop} {source : σ} {items : List α} (delivers : Delivers reading mayFail source items)
    {size : Int} (positive : 0 < size) :
    (mayFail ∧ ∃ next, reading source size = (.raised, next)) ∨ ∃ chunk rest next,
      reading source size = (.chunk chunk, next) ∧ items = chunk ++ rest ∧ chunk.length ≤ size ∧
        (chunk = [] → rest = []) ∧ (chunk ≠ [] → Delivers reading mayFail next rest) := by
  obtain ⟨Holds, holds, always⟩ := delivers
  rcases always source items holds size positive with raises |
    ⟨chunk, rest, next, replied, whole, length, ends, later⟩
  · exact Or.inl raises
  · exact Or.inr ⟨chunk, rest, next, replied, whole, length, ends, fun some => ⟨Holds, later some, always⟩⟩

theorem readAll_snoc (source : σ) (sizes : List Int) (size : Int) :
    readAll reading source (sizes ++ [size]) = (reading (readAll reading source sizes) size).2 :=
  List.foldl_concat _ _ _ _

theorem Serves.bounded {source : σ} {items : List α} (serves : Serves reading source items) :
    Bounded reading source := by
  refine ⟨fun source => ∃ items, Serves reading source items, ⟨items, serves⟩, ?_⟩
  rintro source ⟨items, serves⟩ size positive chunk next replied
  obtain ⟨served, rest, after, observed, _, length, _, later⟩ := serves.reads positive
  obtain ⟨same, rfl⟩ := Prod.mk.inj (observed.symm.trans replied)
  obtain rfl := Reply.chunk.inj same
  exact ⟨length, fun nonempty => ⟨rest, later nonempty⟩⟩

theorem Endless.reads {source : σ} (endless : Endless reading source) {size : Int} (positive : 0 < size) :
    ∃ chunk next, reading source size = (.chunk chunk, next) ∧ chunk ≠ [] ∧ chunk.length ≤ size ∧
      Endless reading next := by
  obtain ⟨Holds, holds, always⟩ := endless
  obtain ⟨chunk, next, replied, nonempty, length, later⟩ := always source holds size positive
  exact ⟨chunk, next, replied, nonempty, length, Holds, later, always⟩

theorem Endless.bounded {source : σ} (endless : Endless reading source) : Bounded reading source := by
  refine ⟨Endless reading, endless, ?_⟩
  intro source endless size positive chunk next replied
  obtain ⟨served, after, observed, _, length, later⟩ := endless.reads positive
  obtain ⟨same, rfl⟩ := Prod.mk.inj (observed.symm.trans replied)
  obtain rfl := Reply.chunk.inj same
  exact ⟨length, fun _ => later⟩

theorem Bounded.reads {source next : σ} {chunk : List α} {size : Int} (bounded : Bounded reading source)
    (positive : 0 < size) (replied : reading source size = (.chunk chunk, next)) :
    chunk.length ≤ size ∧ (chunk ≠ [] → Bounded reading next) := by
  obtain ⟨Holds, holds, always⟩ := bounded
  obtain ⟨length, later⟩ := always source holds size positive chunk next replied
  exact ⟨length, fun nonempty => ⟨Holds, later nonempty, always⟩⟩

end Sources

section Lists
variable {α : Type}

/-- A list served in chunks of at most `limit` items. -/
def readUpTo (limit : Nat) (items : List α) (size : Int) : Reply α × List α :=
  (.chunk (items.take (min limit size.toNat)), items.drop (min limit size.toNat))

theorem readUpTo_serves {limit : Nat} (positive : 0 < limit) (items : List α) :
    Serves (readUpTo limit) items items := by
  induction bound : items.length using Nat.strong_induction_on generalizing items with
  | _ length ih =>
    subst bound
    cases items with
    | nil => exact .ended (fun _ => []) (fun size _ => by simp [readUpTo])
    | cons item rest =>
      refine .more (fun size => (item :: rest).take (min limit size.toNat))
        (fun size => (item :: rest).drop (min limit size.toNat)) (fun size _ => rfl) ?_ ?_
        (fun size _ => List.take_prefix _ _) ?_
      · intro size some
        have step : min limit size.toNat ≠ 0 := by omega
        simp [step]
      · intro size some
        rw [List.length_take]
        omega
      · intro size some
        have step : 0 < min limit size.toNat := by omega
        rw [List.length_take, ← List.drop_eq_drop_min]
        refine ih _ ?_ _ rfl
        rw [List.length_drop, List.length_cons]
        omega

end Lists

end PharmaIntel.Base
