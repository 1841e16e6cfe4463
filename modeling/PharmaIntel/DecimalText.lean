import Mathlib
import PharmaIntel.Storable

/-! The grammar of the decimal parser, stated apart from it: an optional minus, ASCII
digits, and an optional point with more digits after it. Such a text writes the rational
whose digits stand at their places; the parser returns that rational or one issue. -/

namespace PharmaIntel.Contracts
open PharmaIntel.Base PharmaIntel.PyText PharmaIntel.Staging

/-! ## Digits and places -/

def digitValue (c : Char) : Nat := c.toNat - '0'.toNat

/-- The digits from the one that stands at `10 ^ place` on. -/
def placeValue : Int → List Char → ℚ
  | _, [] => 0
  | place, c :: rest => digitValue c * 10 ^ place + placeValue (place - 1) rest

theorem digitsValue_snoc (digits : List Char) (c : Char) :
    digitsValue (digits ++ [c]) = digitsValue digits * 10 + digitValue c := by
  simp [digitsValue, digitValue]

theorem digitsValue_append (first second : List Char) :
    digitsValue (first ++ second) = digitsValue first * 10 ^ second.length + digitsValue second := by
  induction second using List.reverseRecOn with
  | nil => simp [digitsValue]
  | append_singleton second c ih =>
    rw [← List.append_assoc, digitsValue_snoc, ih, digitsValue_snoc, List.length_append,
      List.length_singleton, pow_succ]
    ring

theorem digitsValue_cons (c : Char) (rest : List Char) :
    digitsValue (c :: rest) = digitValue c * 10 ^ rest.length + digitsValue rest := by
  have single : digitsValue [c] = digitValue c := by simp [digitsValue, digitValue]
  have split := digitsValue_append [c] rest
  rwa [single] at split

theorem placeValue_eq (digits : List Char) (place : Int) :
    placeValue place digits = digitsValue digits * (10 : ℚ) ^ (place + 1 - digits.length) := by
  induction digits generalizing place with
  | nil => simp [placeValue, digitsValue]
  | cons c rest ih =>
    have same : place - 1 + 1 - (rest.length : Int) = place - rest.length := by ring
    have last : place + 1 - ((c :: rest).length : Int) = place - rest.length := by
      simp only [List.length_cons, Nat.cast_add, Nat.cast_one]
      ring
    have scale : (10 : ℚ) ^ place = 10 ^ rest.length * 10 ^ (place - (rest.length : Int)) := by
      rw [← zpow_natCast, ← zpow_add₀ (by norm_num)]
      congr 1
      ring
    rw [placeValue, ih, same, last, digitsValue_cons, scale]
    push_cast
    ring

theorem digitValue_lt {c : Char} (digit : isDigit c = true) : digitValue c < 10 := by
  simp only [isDigit, Bool.and_eq_true, decide_eq_true_eq, Char.le_def, UInt32.le_iff_toNat_le] at digit
  have upper : c.toNat ≤ 57 := digit.2
  have zero : '0'.toNat = 48 := rfl
  unfold digitValue
  omega

theorem digitValue_pos {c : Char} (digit : isDigit c = true) (nonzero : c ≠ '0') : 0 < digitValue c := by
  simp only [isDigit, Bool.and_eq_true, decide_eq_true_eq, Char.le_def, UInt32.le_iff_toNat_le] at digit
  have lower : 48 ≤ c.toNat := digit.1
  have zero : '0'.toNat = 48 := rfl
  have other : c.toNat ≠ 48 := fun same => nonzero (Char.toNat_inj.mp same)
  unfold digitValue
  omega

theorem digitsValue_lt {digits : List Char} (all : ∀ c ∈ digits, isDigit c = true) :
    digitsValue digits < 10 ^ digits.length := by
  induction digits with
  | nil => simp [digitsValue]
  | cons c rest ih =>
    have head := digitValue_lt (all c List.mem_cons_self)
    have tail := ih (fun d member => all d (List.mem_cons_of_mem c member))
    rw [digitsValue_cons, List.length_cons, pow_succ]
    calc digitValue c * 10 ^ rest.length + digitsValue rest
        < digitValue c * 10 ^ rest.length + 10 ^ rest.length := by omega
      _ = (digitValue c + 1) * 10 ^ rest.length := by ring
      _ ≤ 10 * 10 ^ rest.length := Nat.mul_le_mul_right _ head
      _ = 10 ^ rest.length * 10 := mul_comm _ _

/-- Leading zeros aside, a number has at most `count` digits when it is below `10 ^ count`. -/
theorem significant_length_le_iff {digits : List Char} (all : ∀ c ∈ digits, isDigit c = true)
    (count : Nat) :
    (digits.dropWhile (· == '0')).length ≤ count ↔ digitsValue digits < 10 ^ count := by
  induction digits with
  | nil => simp [digitsValue]
  | cons c rest ih =>
    have tail : ∀ d ∈ rest, isDigit d = true := fun d member => all d (List.mem_cons_of_mem c member)
    by_cases zero : c = '0'
    · subst zero
      have nothing : digitValue '0' = 0 := rfl
      rw [List.dropWhile_cons_of_pos (by rfl), digitsValue_cons, nothing, zero_mul, zero_add]
      exact ih tail
    · have positive := digitValue_pos (all c List.mem_cons_self) zero
      rw [List.dropWhile_cons_of_neg (by simpa using zero)]
      constructor
      · intro short
        exact (digitsValue_lt all).trans_le (Nat.pow_le_pow_right (by decide) short)
      · intro small
        by_contra long
        have reach : 10 ^ count ≤ 10 ^ rest.length :=
          Nat.pow_le_pow_right (by decide) (by simp only [List.length_cons] at long; omega)
        have large : 10 ^ rest.length ≤ digitsValue (c :: rest) := by
          rw [digitsValue_cons]
          exact (Nat.le_mul_of_pos_left _ positive).trans (Nat.le_add_right _ _)
        omega

/-! ## Written decimals -/

/-- A text of the form `-?[0-9]+(\.[0-9]+)?`, taken apart; without a fraction there is
no point. -/
structure DecimalText where
  negative : Bool
  whole : List Char
  fraction : List Char
  nonempty : whole ≠ []
  digits : ∀ c ∈ whole ++ fraction, isDigit c = true

namespace DecimalText

variable (t : DecimalText)

def point : List Char := if t.fraction = [] then [] else '.' :: t.fraction

def chars : List Char := (if t.negative then ['-'] else []) ++ (t.whole ++ t.point)

def value : ℚ :=
  (if t.negative then -1 else 1) * placeValue (t.whole.length - 1) (t.whole ++ t.fraction)

def parts : Bool × List Char × List Char := (t.negative, t.whole, t.fraction)

/-- What the two measures limit: the digits after the point, and the digits before it
once leading zeros are removed. -/
structure Fits (validator : DecimalValidator) : Prop where
  places : t.fraction.length ≤ validator.decimalPlaces
  wholeDigits : (t.whole.dropWhile (· == '0')).length ≤ validator.maxDigits - validator.decimalPlaces

theorem ofParts_exponent : (Decimal.ofParts t.parts).exponent = -(t.fraction.length : Int) := rfl

theorem ofParts_coefficient :
    (Decimal.ofParts t.parts).coefficient =
      digitsValue t.whole * 10 ^ t.fraction.length + digitsValue t.fraction :=
  digitsValue_append t.whole t.fraction

theorem ofParts_value : decimalValue (Decimal.ofParts t.parts) = t.value := by
  have place : (t.whole.length : Int) - 1 + 1 - ((t.whole ++ t.fraction).length : Int) =
      -(t.fraction.length : Int) := by
    rw [List.length_append, Nat.cast_add]
    ring
  rw [value, placeValue_eq, place, ← mul_assoc]
  rfl

/-- The validator counts on the decimal's digit tuple what the limits say of the text. -/
theorem accepts_iff {validator : DecimalValidator} (room : validator.decimalPlaces < validator.maxDigits) :
    validator.accepts (Decimal.ofParts t.parts) = true ↔ t.Fits validator := by
  have wholeDigits : ∀ c ∈ t.whole, isDigit c = true :=
    fun c member => t.digits c (List.mem_append_left _ member)
  have fraction : digitsValue t.fraction < 10 ^ t.fraction.length :=
    digitsValue_lt (fun c member => t.digits c (List.mem_append_right _ member))
  have count : (Nat.toDigits 10 (Decimal.ofParts t.parts).coefficient).length ≤
        (validator.maxDigits - validator.decimalPlaces) + t.fraction.length ↔
      (t.whole.dropWhile (· == '0')).length ≤ validator.maxDigits - validator.decimalPlaces := by
    rw [Nat.length_toDigits_le_iff (by decide) (by omega), significant_length_le_iff wholeDigits,
      t.ofParts_coefficient, pow_add]
    constructor
    · intro small
      by_contra large
      have := Nat.mul_le_mul_right (10 ^ t.fraction.length) (not_lt.mp large)
      omega
    · intro small
      have := Nat.mul_le_mul_right (10 ^ t.fraction.length) (Nat.succ_le_of_lt small)
      rw [Nat.succ_mul] at this
      omega
  rw [DecimalValidator.accepts, digitsAndDecimals_written t.ofParts_exponent]
  simp only [Bool.and_eq_true, decide_eq_true_eq]
  constructor
  · rintro ⟨⟨digits, places⟩, whole⟩
    exact ⟨places, count.mp (by omega)⟩
  · rintro ⟨places, whole⟩
    have := count.mpr whole
    omega

end DecimalText

/-! ## The parser -/

theorem isDigit_ne {c : Char} (digit : isDigit c = true) : c ≠ '-' ∧ c ≠ '.' := by
  refine ⟨?_, ?_⟩
  · rintro rfl
    exact absurd digit (by decide)
  · rintro rfl
    exact absurd digit (by decide)

/-- What the pattern takes apart is a written decimal. -/
theorem decimalParts_sound {value : String} {parts : Bool × List Char × List Char}
    (matched : decimalParts value = some parts) :
    ∃ t : DecimalText, t.chars = value.toList ∧ t.parts = parts := by
  unfold decimalParts at matched
  dsimp only at matched
  have whole : value.toList = (if decide (value.toList.head? = some '-') then ['-'] else []) ++
      (if value.toList.head? = some '-' then value.toList.tail else value.toList) := by
    by_cases minus : value.toList.head? = some '-'
    · obtain ⟨tail, same⟩ := List.head?_eq_some_iff.mp minus
      simp [same]
    · simp [minus]
  generalize decide (value.toList.head? = some '-') = negative at matched whole
  generalize (if value.toList.head? = some '-' then value.toList.tail else value.toList) = body
    at matched whole
  have split : body = body.takeWhile isDigit ++ body.dropWhile isDigit :=
    (List.takeWhile_append_dropWhile).symm
  have digits : ∀ c ∈ body.takeWhile isDigit, isDigit c = true := fun c member => List.mem_takeWhile_imp member
  generalize front : body.takeWhile isDigit = digitsBefore at matched split digits
  generalize back : body.dropWhile isDigit = after at matched split
  rcases digitsBefore with _ | ⟨c, others⟩
  · simp at matched
  rcases after with _ | ⟨mark, fraction⟩
  · simp only [Option.some.injEq] at matched
    refine ⟨⟨negative, c :: others, [], by simp, by simpa using digits⟩, ?_, matched⟩
    simp [DecimalText.chars, DecimalText.point, whole, split]
  · by_cases point : mark = '.'
    · subst point
      simp only at matched
      split_ifs at matched with good
      simp only [Option.some.injEq] at matched
      have more : ∀ d ∈ fraction, isDigit d = true := List.all_eq_true.mp good.2
      refine ⟨⟨negative, c :: others, fraction, by simp, ?_⟩, ?_, matched⟩
      · intro d member
        exact (List.mem_append.mp member).elim (digits d) (more d)
      · simp [DecimalText.chars, DecimalText.point, whole, split, good.1]
    · simp [point] at matched

/-- Every written decimal is taken apart as it was written. -/
theorem decimalParts_chars (t : DecimalText) {value : String} (written : t.chars = value.toList) :
    decimalParts value = some t.parts := by
  obtain ⟨c, others, shape⟩ := List.exists_cons_of_ne_nil t.nonempty
  have wholeDigits : ∀ d ∈ t.whole, isDigit d = true :=
    fun d member => t.digits d (List.mem_append_left _ member)
  have fractionDigits : t.fraction.all isDigit = true :=
    List.all_eq_true.mpr (fun d member => t.digits d (List.mem_append_right _ member))
  have first : c ≠ '-' := (isDigit_ne (wholeDigits c (by simp [shape]))).1
  have sign : decide (value.toList.head? = some '-') = t.negative := by
    rw [← written]
    cases minus : t.negative <;> simp [DecimalText.chars, minus, shape, first]
  have body : (if value.toList.head? = some '-' then value.toList.tail else value.toList) =
      t.whole ++ t.point := by
    rw [← written]
    cases minus : t.negative <;> simp [DecimalText.chars, minus, shape, first]
  have before : (t.whole ++ t.point).takeWhile isDigit = t.whole := by
    rw [List.takeWhile_append_of_pos wholeDigits]
    unfold DecimalText.point
    split_ifs <;> simp [isDigit]
  have after : (t.whole ++ t.point).dropWhile isDigit = t.point := by
    rw [List.dropWhile_append_of_pos wholeDigits]
    unfold DecimalText.point
    split_ifs <;> simp [isDigit]
  unfold decimalParts
  dsimp only
  rw [sign, body, before, after, DecimalText.parts, shape]
  by_cases none : t.fraction = []
  · simp [DecimalText.point, none]
  · simp only [DecimalText.point, if_neg none, if_pos (And.intro none fractionDigits)]

/-- The accepted texts of one measure, after trimming. -/
structure Accepts (validator : DecimalValidator) (value : String) (t : DecimalText) : Prop where
  nonempty : value ≠ ""
  length : value.length ≤ 64
  written : t.chars = value.toList
  fits : t.Fits validator

theorem decimal_accepts {validator : DecimalValidator} (room : validator.decimalPlaces < validator.maxDigits)
    {rawValue : String} {t : DecimalText} (accepts : Accepts validator (strip rawValue) t)
    (rowNumber : Nat) (column : String) :
    decimal rawValue rowNumber column validator = (some (Decimal.ofParts t.parts), []) := by
  obtain ⟨nonempty, length, written, fits⟩ := accepts
  unfold decimal
  simp only
  rw [if_neg nonempty, if_neg (by omega), decimalParts_chars t written]
  simp only
  rw [if_pos ((t.accepts_iff room).mpr fits)]

theorem decimal_refuses {validator : DecimalValidator} (room : validator.decimalPlaces < validator.maxDigits)
    {rawValue : String} (refuses : ∀ t, ¬ Accepts validator (strip rawValue) t)
    (rowNumber : Nat) (column : String) :
    ∃ code message, decimal rawValue rowNumber column validator =
      (none, [issue rowNumber column code message]) := by
  unfold decimal
  simp only
  split_ifs with blank long
  · exact ⟨_, _, rfl⟩
  · exact ⟨_, _, rfl⟩
  · rcases shape : decimalParts (strip rawValue) with _ | parts
    · exact ⟨_, _, rfl⟩
    · obtain ⟨t, written, rfl⟩ := decimalParts_sound shape
      have short : (strip rawValue).length ≤ 64 := by omega
      have exceeds : ¬ validator.accepts (Decimal.ofParts t.parts) = true :=
        fun fits => refuses t ⟨blank, short, written, (t.accepts_iff room).mp fits⟩
      simp only [if_neg exceeds]
      exact ⟨_, _, rfl⟩

theorem measures_room {validator : DecimalValidator}
    (measure : validator ∈ [quantityValidator, revenueValidator]) :
    validator.decimalPlaces < validator.maxDigits := by
  rcases List.mem_pair.mp measure with rfl | rfl
  · decide
  · decide

/-- The decimal parser accepts its grammar and nothing else, keeps the value exactly, and
answers everything else with one issue. -/
theorem decimal_exact (rawValue : String) (rowNumber : Nat) (column : String)
    (validator : DecimalValidator) (measure : validator ∈ [quantityValidator, revenueValidator]) :
    ((decimal rawValue rowNumber column validator).1.isSome = true ↔
      ∃ t, Accepts validator (strip rawValue) t) ∧
    (∀ t, Accepts validator (strip rawValue) t → ∃ d,
      decimal rawValue rowNumber column validator = (some d, []) ∧ decimalValue d = t.value) ∧
    ((¬ ∃ t, Accepts validator (strip rawValue) t) → ∃ code message,
      decimal rawValue rowNumber column validator = (none, [issue rowNumber column code message])) := by
  have room := measures_room measure
  refine ⟨⟨?_, ?_⟩, ?_, ?_⟩
  · intro found
    by_contra refused
    obtain ⟨code, message, same⟩ :=
      decimal_refuses room (not_exists.mp refused) rowNumber column
    rw [same] at found
    exact absurd found (by simp)
  · rintro ⟨t, accepts⟩
    rw [decimal_accepts room accepts rowNumber column]
    rfl
  · intro t accepts
    exact ⟨_, decimal_accepts room accepts rowNumber column, t.ofParts_value⟩
  · intro refused
    exact decimal_refuses room (not_exists.mp refused) rowNumber column

theorem decimal_exact_sample :
    ∃ d, decimal " -007.50 " 2 "quantity" quantityValidator = (some d, []) ∧
      decimalValue d = -15 / 2 := by
  have trimmed : strip " -007.50 " = "-007.50" := by decide
  have accepts : Accepts quantityValidator (strip " -007.50 ")
      ⟨true, ['0', '0', '7'], ['5', '0'], by decide, by simp [isDigit]⟩ := by
    rw [trimmed]
    exact ⟨by decide, by decide, by decide, by decide, by decide⟩
  obtain ⟨d, found, same⟩ := (decimal_exact " -007.50 " 2 "quantity" quantityValidator
    List.mem_cons_self).2.1 _ accepts
  have zero : digitValue '0' = 0 := rfl
  have seven : digitValue '7' = 7 := rfl
  have five : digitValue '5' = 5 := rfl
  refine ⟨d, found, same.trans ?_⟩
  norm_num [DecimalText.value, placeValue, zero, seven, five]

end PharmaIntel.Contracts
