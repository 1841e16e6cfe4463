import Mathlib
import PharmaIntel.Base.Lists

/-! Python's `str` on Lean strings: both are sequences of code points, and text
decoded as strict UTF-8 holds no surrogates. Case mapping and general categories
come from the interpreter's versioned Unicode database. -/

namespace PharmaIntel.PyText
open PharmaIntel.Base

/-- Code points for which `str.isspace` answers true. -/
def whitespace : List Nat :=
  [9, 10, 11, 12, 13, 28, 29, 30, 31, 32, 133, 160, 5760, 8192, 8193, 8194, 8195, 8196, 8197, 8198,
    8199, 8200, 8201, 8202, 8232, 8233, 8239, 8287, 12288]

def isspace (c : Char) : Bool := c.toNat ∈ whitespace

/-- The parts of the Unicode character database that the contract reads, with the
properties every published version of it has. -/
structure UnicodeDatabase where
  /-- `str.upper` of one character, expansions included. -/
  upper : Char → List Char
  /-- `unicodedata.category(c).startswith("C")`. -/
  isOther : Char → Bool
  upper_nonempty : ∀ c, upper c ≠ []
  upper_idempotent : ∀ c, ∀ d ∈ upper c, upper d = [d]
  upper_isspace : ∀ c, ∀ d ∈ upper c, isspace d = true → isspace c = true
  upper_ascii : ∀ c, c.toNat < 128 → upper c = [c.toUpper]
  other_nul : isOther '\x00' = true

def strip (s : String) : String := String.ofList (trimBy isspace s.toList)

def upper (ucd : UnicodeDatabase) (s : String) : String := String.ofList (s.toList.flatMap ucd.upper)

def isascii (s : String) : Bool := s.toList.all (fun c => c.toNat < 128)

def removeprefix (s : String) (lead : Char) : String :=
  match s.toList with
  | [] => s
  | c :: rest => if c = lead then String.ofList rest else s

/-- No whitespace at either end. -/
def Stripped (s : String) : Prop := NoEdge isspace s.toList

@[simp] theorem toList_strip (s : String) : (strip s).toList = trimBy isspace s.toList :=
  String.toList_ofList

@[simp] theorem toList_upper (ucd : UnicodeDatabase) (s : String) :
    (upper ucd s).toList = s.toList.flatMap ucd.upper := String.toList_ofList

theorem strip_stripped (s : String) : Stripped (strip s) := by
  rw [Stripped, toList_strip]
  exact trimBy_noEdge isspace s.toList

theorem strip_of_stripped {s : String} (stripped : Stripped s) : strip s = s := by
  rw [strip, trimBy_of_noEdge stripped, String.ofList_toList]

theorem upper_stripped (ucd : UnicodeDatabase) {s : String} (stripped : Stripped s) :
    Stripped (upper ucd s) := by
  rw [Stripped, toList_upper]
  exact stripped.flatMap ucd.upper ucd.upper_nonempty ucd.upper_isspace

theorem upper_eq_empty (ucd : UnicodeDatabase) {s : String} (empty : upper ucd s = "") : s = "" := by
  have blank := congrArg String.toList empty
  rw [toList_upper] at blank
  cases chars : s.toList with
  | nil => exact String.toList_inj.mp chars
  | cons c rest =>
    rw [chars, List.flatMap_cons] at blank
    exact absurd (List.append_eq_nil_iff.mp blank).1 (ucd.upper_nonempty c)

/-- Every character of an upper-cased text maps to itself. -/
theorem mem_upper_fixed (ucd : UnicodeDatabase) {s : String} {c : Char}
    (member : c ∈ (upper ucd s).toList) : ucd.upper c = [c] := by
  rw [toList_upper, List.mem_flatMap] at member
  obtain ⟨origin, _, image⟩ := member
  exact ucd.upper_idempotent origin c image

/-- A stripped text that is not empty starts with a visible character. -/
theorem exists_visible {s : String} (stripped : Stripped s) (nonempty : s ≠ "") :
    ∃ c ∈ s.toList, isspace c = false := by
  cases chars : s.toList with
  | nil => exact absurd (String.toList_inj.mp chars) nonempty
  | cons c rest =>
    refine ⟨c, by simp, stripped.head c ?_⟩
    rw [chars]
    rfl

/-! ## A database for worked instances -/

/-- A character below 128 is one of the first 128. -/
theorem ascii_induction {P : Char → Prop} (small : ∀ n < 128, P (Char.ofNat n)) (c : Char)
    (ascii : c.toNat < 128) : P c := by
  have known := small c.toNat ascii
  rwa [Char.ofNat_toNat] at known

/-- A database that knows the case of ASCII letters only. -/
def asciiDatabase : UnicodeDatabase where
  upper c := [if c.toNat < 128 then c.toUpper else c]
  isOther c := c.toNat < 32 || c.toNat = 127
  upper_nonempty := by simp
  upper_idempotent := by
    intro c d member
    rw [List.mem_singleton] at member
    subst member
    by_cases ascii : c.toNat < 128
    · rw [if_pos ascii]
      exact ascii_induction (P := fun c => [if c.toUpper.toNat < 128 then c.toUpper.toUpper else c.toUpper] =
        [c.toUpper]) (by decide) c ascii
    · simp [ascii]
  upper_isspace := by
    intro c d member space
    rw [List.mem_singleton] at member
    subst member
    by_cases ascii : c.toNat < 128
    · rw [if_pos ascii] at space
      exact ascii_induction (P := fun c => isspace c.toUpper = true → isspace c = true) (by decide) c ascii space
    · rwa [if_neg ascii] at space
  upper_ascii := by
    intro c ascii
    rw [if_pos ascii]
  other_nul := by decide

end PharmaIntel.PyText
