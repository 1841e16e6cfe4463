import Mathlib
import PharmaIntel.Base.Orders
import PharmaIntel.QueueRules

/-! The retry delay as it is computed on `timedelta`s. Its loop counts in whole
microseconds, doubles and cuts off at the maximum. -/

namespace PharmaIntel.RetryDelay
open PharmaIntel.Base PharmaIntel.Models
open PharmaIntel.Queue (doublingLoop)

/-! ## Durations -/

/-- A `timedelta`, in its normal form and range. -/
structure Timedelta where
  days : Int
  seconds : Int
  microseconds : Int
  days_range : -999999999 ≤ days ∧ days ≤ 999999999
  seconds_range : 0 ≤ seconds ∧ seconds < 86400
  microseconds_range : 0 ≤ microseconds ∧ microseconds < 1000000
  deriving DecidableEq

/-- `_timedelta_microseconds`. -/
def timedeltaMicroseconds (value : Timedelta) : Int :=
  value.days * 86400000000 + value.seconds * 1000000 + value.microseconds

/-- `timedelta(microseconds=..)`, which overflows out of range. -/
def Timedelta.ofMicroseconds (microseconds : Int) : Option Timedelta :=
  if range : -999999999 ≤ microseconds / 86400000000 ∧ microseconds / 86400000000 ≤ 999999999 then
    some
      { days := microseconds / 86400000000
        seconds := microseconds % 86400000000 / 1000000
        microseconds := microseconds % 1000000
        days_range := range
        seconds_range := by omega
        microseconds_range := by omega }
  else none

/-- `timedelta(0)`. -/
def Timedelta.zero : Timedelta := ⟨0, 0, 0, by decide, by decide, by decide⟩

/-- `first <= second`, field by field. -/
def Timedelta.le (first second : Timedelta) : Bool :=
  decide (first.days < second.days ∨ first.days = second.days ∧
    (first.seconds < second.seconds ∨ first.seconds = second.seconds ∧ first.microseconds ≤ second.microseconds))

/-- The check of `_validate_duration` compares `timedelta`s. It is the queue's on microseconds. -/
theorem le_zero_iff (value : Timedelta) : value.le .zero = true ↔ timedeltaMicroseconds value ≤ 0 := by
  have seconds := value.seconds_range
  have microseconds := value.microseconds_range
  rw [Timedelta.le, decide_eq_true_eq]
  unfold timedeltaMicroseconds Timedelta.zero
  dsimp only
  omega

theorem ofMicroseconds_exact {microseconds : Int} {value : Timedelta}
    (made : Timedelta.ofMicroseconds microseconds = some value) : timedeltaMicroseconds value = microseconds := by
  unfold Timedelta.ofMicroseconds at made
  split_ifs at made
  obtain rfl := Option.some.inj made
  unfold timedeltaMicroseconds
  dsimp only
  omega

/-- A duration that is not negative and not longer than another one is in range. -/
theorem ofMicroseconds_below {microseconds : Int} {bound : Timedelta} (low : 0 ≤ microseconds)
    (high : microseconds ≤ timedeltaMicroseconds bound) :
    ∃ value, Timedelta.ofMicroseconds microseconds = some value := by
  have days := bound.days_range
  have seconds := bound.seconds_range
  have rest := bound.microseconds_range
  unfold timedeltaMicroseconds at high
  unfold Timedelta.ofMicroseconds
  rw [dif_pos (by omega)]
  exact ⟨_, rfl⟩

/-! ## The delay -/

/-- What `retry_delay` can raise. -/
inductive DelayError where
  | raised (error : PyError)
  | overflowError
  deriving DecidableEq

/-- The checks and the loop are the queue's; the delay is a `timedelta` again. -/
def retryDelay (attemptCount : Nat) (baseDelay maximumDelay : Timedelta) : Except DelayError Timedelta :=
  match Queue.retryDelay attemptCount (timedeltaMicroseconds baseDelay) (timedeltaMicroseconds maximumDelay) with
  | .error e => .error (.raised e)
  | .ok delayUs =>
      match Timedelta.ofMicroseconds delayUs with
      | none => .error .overflowError
      | some delay => .ok delay

/-- The products `delay_us * 2` of the loop, each before it is cut off. -/
def doublings (attemptCount : Nat) (baseDelay maximumDelay : Timedelta) : List Int :=
  (doublingLoop (timedeltaMicroseconds maximumDelay) (attemptCount - 1)
    (min (timedeltaMicroseconds baseDelay) (timedeltaMicroseconds maximumDelay))).2

theorem doublingLoop_eq (maximumUs : Int) (steps : Nat) (delayUs : Int) :
    doublingLoop maximumUs steps delayUs = cappedGrowth (fun delayUs => delayUs * 2) maximumUs steps delayUs := by
  induction steps generalizing delayUs with
  | zero => rfl
  | succ steps ih => rw [doublingLoop, cappedGrowth, ih]

theorem iterate_double (delayUs : Int) (steps : Nat) :
    (fun delayUs : Int => delayUs * 2)^[steps] delayUs = delayUs * 2 ^ steps := by
  rw [mul_right_iterate]

theorem doublingLoop_closed {baseUs : Int} (positive : 0 < baseUs) (maximumUs : Int) (steps : Nat) :
    (doublingLoop maximumUs steps (min baseUs maximumUs)).1 = min (baseUs * 2 ^ steps) maximumUs := by
  have kept : ∀ delayUs : Int, 0 < delayUs → 0 < delayUs * 2 := fun _ long => by omega
  have rises : ∀ delayUs : Int, 0 < delayUs → delayUs ≤ delayUs * 2 := fun _ long => by omega
  rw [doublingLoop_eq, cappedGrowth_min kept rises positive, iterate_double]

section Delay
variable {attemptCount : Nat} {baseDelay maximumDelay : Timedelta}

/-- In microseconds the delay is the closed form. -/
theorem delayUs_closed (started : 1 ≤ attemptCount) (basePositive : 0 < timedeltaMicroseconds baseDelay)
    (maximumPositive : 0 < timedeltaMicroseconds maximumDelay) :
    Queue.retryDelay attemptCount (timedeltaMicroseconds baseDelay) (timedeltaMicroseconds maximumDelay) =
      .ok (min (timedeltaMicroseconds baseDelay * 2 ^ (attemptCount - 1)) (timedeltaMicroseconds maximumDelay)) := by
  rw [Queue.retryDelay, if_neg (not_lt.mpr started), Queue.validateDuration_ok basePositive,
    Queue.validateDuration_ok maximumPositive, doublingLoop_closed basePositive]
  rfl

theorem retryDelay_ok (started : 1 ≤ attemptCount) (basePositive : 0 < timedeltaMicroseconds baseDelay)
    (maximumPositive : 0 < timedeltaMicroseconds maximumDelay) :
    ∃ delay, retryDelay attemptCount baseDelay maximumDelay = .ok delay ∧ timedeltaMicroseconds delay =
      min (timedeltaMicroseconds baseDelay * 2 ^ (attemptCount - 1)) (timedeltaMicroseconds maximumDelay) := by
  have grown : 0 < timedeltaMicroseconds baseDelay * 2 ^ (attemptCount - 1) :=
    mul_pos basePositive (pow_pos (by decide) _)
  obtain ⟨delay, made⟩ := ofMicroseconds_below (lt_min grown maximumPositive).le (min_le_right _ _)
  refine ⟨delay, ?_, ofMicroseconds_exact made⟩
  rw [retryDelay, delayUs_closed started basePositive maximumPositive]
  dsimp only
  rw [made]

/-- No doubling is left once the product has reached the maximum. -/
theorem maximum_reached (basePositive : 0 < timedeltaMicroseconds baseDelay)
    (maximumPositive : 0 < timedeltaMicroseconds maximumDelay) :
    timedeltaMicroseconds maximumDelay ≤ timedeltaMicroseconds baseDelay *
      2 ^ ⌈Real.logb 2 ((timedeltaMicroseconds maximumDelay : ℝ) / (timedeltaMicroseconds baseDelay : ℝ))⌉₊ := by
  have base : (0 : ℝ) < (timedeltaMicroseconds baseDelay : ℝ) := Int.cast_pos.mpr basePositive
  have maximum : (0 : ℝ) < (timedeltaMicroseconds maximumDelay : ℝ) := Int.cast_pos.mpr maximumPositive
  have log := Nat.le_ceil
    (Real.logb 2 ((timedeltaMicroseconds maximumDelay : ℝ) / (timedeltaMicroseconds baseDelay : ℝ)))
  rw [Real.logb_le_iff_le_rpow one_lt_two (div_pos maximum base), Real.rpow_natCast, div_le_iff₀ base, mul_comm] at log
  exact_mod_cast log

theorem doublings_eq : doublings attemptCount baseDelay maximumDelay =
    (cappedGrowth (fun delayUs => delayUs * 2) (timedeltaMicroseconds maximumDelay) (attemptCount - 1)
      (min (timedeltaMicroseconds baseDelay) (timedeltaMicroseconds maximumDelay))).2 := by
  rw [doublings, doublingLoop_eq]

theorem doublings_length (basePositive : 0 < timedeltaMicroseconds baseDelay)
    (maximumPositive : 0 < timedeltaMicroseconds maximumDelay) :
    (doublings attemptCount baseDelay maximumDelay).length ≤ min (attemptCount - 1)
      ⌈Real.logb 2 ((timedeltaMicroseconds maximumDelay : ℝ) / (timedeltaMicroseconds baseDelay : ℝ))⌉₊ := by
  rw [doublings_eq]
  apply le_min
  · exact grown_length_le _ _
  · rcases le_total (timedeltaMicroseconds baseDelay) (timedeltaMicroseconds maximumDelay) with below | reached
    · rw [min_eq_left below]
      apply grown_length_le_of_reached
      rw [iterate_double]
      exact maximum_reached basePositive maximumPositive
    · rw [min_eq_right reached, cappedGrowth_of_cap_le le_rfl]
      exact Nat.zero_le _

theorem doublings_none (reached : timedeltaMicroseconds maximumDelay ≤ timedeltaMicroseconds baseDelay) :
    doublings attemptCount baseDelay maximumDelay = [] := by
  rw [doublings_eq, min_eq_right reached, cappedGrowth_of_cap_le le_rfl]

theorem doublings_bounded {product : Int} (member : product ∈ doublings attemptCount baseDelay maximumDelay) :
    product ≤ 2 * timedeltaMicroseconds maximumDelay := by
  rw [doublings_eq] at member
  obtain ⟨before, below, rfl⟩ := grown_below member
  omega

/-- A delay is never too long for a `timedelta`: the only errors are those of the checks. -/
theorem retryDelay_fits (attemptCount : Nat) (baseDelay maximumDelay : Timedelta) :
    retryDelay attemptCount baseDelay maximumDelay ≠ .error .overflowError := by
  by_cases positive : 1 ≤ attemptCount ∧ 0 < timedeltaMicroseconds baseDelay ∧ 0 < timedeltaMicroseconds maximumDelay
  · obtain ⟨started, basePositive, maximumPositive⟩ := positive
    obtain ⟨delay, computed, _⟩ := retryDelay_ok started basePositive maximumPositive
    rw [computed]
    simp
  · have refused : ∃ e, Queue.retryDelay attemptCount (timedeltaMicroseconds baseDelay)
        (timedeltaMicroseconds maximumDelay) = .error e := by
      unfold Queue.retryDelay
      split_ifs with early
      · exact ⟨_, rfl⟩
      by_cases base : 0 < timedeltaMicroseconds baseDelay
      · have maximum : ¬0 < timedeltaMicroseconds maximumDelay :=
          fun maximum => positive ⟨not_lt.mp early, base, maximum⟩
        rw [Queue.validateDuration_ok base, Queue.validateDuration, if_pos (not_lt.mp maximum)]
        exact ⟨_, rfl⟩
      · rw [Queue.validateDuration, if_pos (not_lt.mp base)]
        exact ⟨_, rfl⟩
    obtain ⟨e, refused⟩ := refused
    rw [retryDelay, refused]
    simp

end Delay

/-- A later attempt, a longer base and a longer maximum never shorten the closed form. -/
theorem closed_mono {baseUs longerBaseUs maximumUs longerMaximumUs : Int} {steps laterSteps : Nat}
    (positive : 0 < baseUs) (later : steps ≤ laterSteps) (base : baseUs ≤ longerBaseUs)
    (maximum : maximumUs ≤ longerMaximumUs) :
    min (baseUs * 2 ^ steps) maximumUs ≤ min (longerBaseUs * 2 ^ laterSteps) longerMaximumUs := by
  apply min_le_min _ maximum
  have powers : (2 : Int) ^ steps ≤ 2 ^ laterSteps := pow_le_pow_right₀ one_le_two later
  calc baseUs * 2 ^ steps ≤ baseUs * 2 ^ laterSteps := mul_le_mul_of_nonneg_left powers positive.le
    _ ≤ longerBaseUs * 2 ^ laterSteps := mul_le_mul_of_nonneg_right base (pow_nonneg zero_le_two _)

/-- The delay is the exponential one, cut off once at the maximum. The loop ends with its last
product, and it needs no more of them than lead from the base to the maximum. -/
theorem retryDelay_closedForm (attemptCount : Nat) (baseDelay maximumDelay : Timedelta)
    (started : 1 ≤ attemptCount) (basePositive : 0 < timedeltaMicroseconds baseDelay)
    (maximumPositive : 0 < timedeltaMicroseconds maximumDelay) :
    (∃ delay, retryDelay attemptCount baseDelay maximumDelay = .ok delay ∧
      timedeltaMicroseconds delay =
        min (timedeltaMicroseconds baseDelay * 2 ^ (attemptCount - 1)) (timedeltaMicroseconds maximumDelay) ∧
      0 < timedeltaMicroseconds delay ∧ timedeltaMicroseconds delay ≤ timedeltaMicroseconds maximumDelay ∧
      (∀ laterCount longerBase longerMaximum, attemptCount ≤ laterCount →
        timedeltaMicroseconds baseDelay ≤ timedeltaMicroseconds longerBase →
        timedeltaMicroseconds maximumDelay ≤ timedeltaMicroseconds longerMaximum →
        ∃ later, retryDelay laterCount longerBase longerMaximum = .ok later ∧
          timedeltaMicroseconds delay ≤ timedeltaMicroseconds later) ∧
      timedeltaMicroseconds delay =
        ((doublings attemptCount baseDelay maximumDelay).getLast?.map
          (fun product => min product (timedeltaMicroseconds maximumDelay))).getD
            (min (timedeltaMicroseconds baseDelay) (timedeltaMicroseconds maximumDelay))) ∧
    (doublings attemptCount baseDelay maximumDelay).length ≤ min (attemptCount - 1)
      ⌈Real.logb 2 ((timedeltaMicroseconds maximumDelay : ℝ) / (timedeltaMicroseconds baseDelay : ℝ))⌉₊ ∧
    (timedeltaMicroseconds maximumDelay ≤ timedeltaMicroseconds baseDelay →
      doublings attemptCount baseDelay maximumDelay = []) ∧
    ∀ product ∈ doublings attemptCount baseDelay maximumDelay, product ≤ 2 * timedeltaMicroseconds maximumDelay := by
  refine ⟨?_, doublings_length basePositive maximumPositive, doublings_none, fun _ => doublings_bounded⟩
  obtain ⟨delay, computed, closed⟩ := retryDelay_ok started basePositive maximumPositive
  have grown : 0 < timedeltaMicroseconds baseDelay * 2 ^ (attemptCount - 1) :=
    mul_pos basePositive (pow_pos (by decide) _)
  refine ⟨delay, computed, closed, closed ▸ lt_min grown maximumPositive, closed ▸ min_le_right _ _, ?_, ?_⟩
  · intro laterCount longerBase longerMaximum later base maximum
    obtain ⟨other, otherComputed, otherClosed⟩ := @retryDelay_ok laterCount longerBase longerMaximum
      (started.trans later) (basePositive.trans_le base) (maximumPositive.trans_le maximum)
    refine ⟨other, otherComputed, ?_⟩
    rw [closed, otherClosed]
    exact closed_mono basePositive (Nat.sub_le_sub_right later 1) base maximum
  · rw [closed, ← doublingLoop_closed basePositive, doublingLoop_eq, cappedGrowth_last, doublings_eq]

namespace Sample

/-- `timedelta(seconds=10)`. -/
def base : Timedelta := ⟨0, 10, 0, by decide, by decide, by decide⟩

/-- `timedelta(seconds=25)`. -/
def maximum : Timedelta := ⟨0, 25, 0, by decide, by decide, by decide⟩

end Sample

/-- At the third attempt the second product is cut off. -/
theorem retryDelay_closedForm_sample :
    (∃ delay, retryDelay 3 Sample.base Sample.maximum = .ok delay ∧ timedeltaMicroseconds delay = 25000000) ∧
      doublings 3 Sample.base Sample.maximum = [20000000, 40000000] ∧
      ∀ product ∈ doublings 3 Sample.base Sample.maximum, product ≤ 50000000 := by
  obtain ⟨⟨delay, computed, closed, _⟩, _, _, bounded⟩ :=
    retryDelay_closedForm 3 Sample.base Sample.maximum (by decide) (by decide) (by decide)
  refine ⟨⟨delay, computed, ?_⟩, by decide +kernel, bounded⟩
  rw [closed]
  decide +kernel

end PharmaIntel.RetryDelay
