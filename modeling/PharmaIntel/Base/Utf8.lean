import Mathlib

/-! Strict UTF-8, read byte by byte. The bytes of a character that is not complete are held
back, so a text may be read in pieces; bytes that no character can begin with are refused. -/

namespace PharmaIntel.Base.Utf8

def encode (text : List Char) : List UInt8 := text.flatMap String.utf8EncodeChar

/-- What some bytes are: a character, the beginning of one, or neither. -/
inductive Sequence where
  | complete (c : Char)
  | incomplete
  | invalid

/-- A byte after the first. -/
def Continues (b : Nat) : Prop := 0x80 ≤ b ∧ b ≤ 0xBF

instance (b : Nat) : Decidable (Continues b) := inferInstanceAs (Decidable (_ ∧ _))

/-- The first two bytes of a sequence of three. An encoded surrogate is let pass here and
refused at its third byte. -/
def BeginsThree (a b : Nat) : Prop := (0xE0 ≤ a ∧ a ≤ 0xEF) ∧ Continues b ∧ (a = 0xE0 → 0xA0 ≤ b)

instance (a b : Nat) : Decidable (BeginsThree a b) := inferInstanceAs (Decidable (_ ∧ _ ∧ _))

/-- The first two bytes of a sequence of four. -/
def BeginsFour (a b : Nat) : Prop :=
  (0xF0 ≤ a ∧ a ≤ 0xF4) ∧ Continues b ∧ (a = 0xF0 → 0x90 ≤ b) ∧ (a = 0xF4 → b ≤ 0x8F)

instance (a b : Nat) : Decidable (BeginsFour a b) := inferInstanceAs (Decidable (_ ∧ _ ∧ _ ∧ _))

def classifyOne (a : Nat) : Sequence :=
  if a < 0x80 then .complete (Char.ofNat a)
  else if 0xC2 ≤ a ∧ a ≤ 0xF4 then .incomplete
  else .invalid

def classifyTwo (a b : Nat) : Sequence :=
  if (0xC2 ≤ a ∧ a ≤ 0xDF) ∧ Continues b then .complete (Char.ofNat ((a - 0xC0) * 64 + (b - 0x80)))
  else if BeginsThree a b ∨ BeginsFour a b then .incomplete
  else .invalid

def classifyThree (a b c : Nat) : Sequence :=
  if BeginsThree a b ∧ (a = 0xED → b ≤ 0x9F) ∧ Continues c then
    .complete (Char.ofNat ((a - 0xE0) * 4096 + (b - 0x80) * 64 + (c - 0x80)))
  else if BeginsFour a b ∧ Continues c then .incomplete
  else .invalid

def classifyFour (a b c d : Nat) : Sequence :=
  if BeginsFour a b ∧ Continues c ∧ Continues d then
    .complete (Char.ofNat ((a - 0xF0) * 262144 + (b - 0x80) * 4096 + (c - 0x80) * 64 + (d - 0x80)))
  else .invalid

def classify : List Nat → Sequence
  | [a] => classifyOne a
  | [a, b] => classifyTwo a b
  | [a, b, c] => classifyThree a b c
  | [a, b, c, d] => classifyFour a b c d
  | _ => .invalid

/-- Reads `bytes` after the held back `pending`: the characters, and what is held back then. -/
def decodeFrom : List UInt8 → List UInt8 → Option (List Char × List UInt8)
  | pending, [] => some ([], pending)
  | pending, b :: rest =>
      match classify ((pending ++ [b]).map UInt8.toNat) with
      | .complete c => (decodeFrom [] rest).map (fun read => (c :: read.1, read.2))
      | .incomplete => decodeFrom (pending ++ [b]) rest
      | .invalid => none

/-! ## The encoding of one character -/

/-- The bytes of a code point as numbers. -/
def encodeNat (v : Nat) : List Nat :=
  if v ≤ 0x7F then [v]
  else if v ≤ 0x7FF then [v / 64 + 0xC0, v % 64 + 0x80]
  else if v ≤ 0xFFFF then [v / 4096 + 0xE0, v / 64 % 64 + 0x80, v % 64 + 0x80]
  else [v / 262144 + 0xF0, v / 4096 % 64 + 0x80, v / 64 % 64 + 0x80, v % 64 + 0x80]

theorem toNat_ofNat {v : Nat} (valid : v.isValidChar) : (Char.ofNat v).toNat = v := by
  rw [Char.toNat_ofNat, if_pos valid]

theorem map_toNat_utf8EncodeChar (c : Char) :
    (String.utf8EncodeChar c).map UInt8.toNat = encodeNat c.toNat := by
  have valid : c.toNat < 0xD800 ∨ 0xDFFF < c.toNat ∧ c.toNat < 0x110000 := c.valid
  have same : c.toNat = c.val.toNat := rfl
  unfold String.utf8EncodeChar encodeNat
  change (if c.toNat ≤ 0x7F then _ else if c.toNat ≤ 0x7FF then _ else if c.toNat ≤ 0xFFFF then _ else _ :
    List UInt8).map _ = _
  split_ifs with one two three <;>
    simp only [List.map_cons, List.map_nil, UInt8.toNat_ofNat', List.cons.injEq, and_true] <;> omega

theorem classify_encodeNat {v : Nat} (valid : v.isValidChar) : classify (encodeNat v) = .complete (Char.ofNat v) := by
  unfold Nat.isValidChar at valid
  unfold encodeNat
  split_ifs with one two three
  · exact if_pos (by omega)
  · have whole : (0xC2 ≤ v / 64 + 0xC0 ∧ v / 64 + 0xC0 ≤ 0xDF) ∧ Continues (v % 64 + 0x80) := by
      unfold Continues
      omega
    have value : (v / 64 + 0xC0 - 0xC0) * 64 + (v % 64 + 0x80 - 0x80) = v := by omega
    refine (if_pos whole).trans ?_
    rw [value]
  · have whole : BeginsThree (v / 4096 + 0xE0) (v / 64 % 64 + 0x80) ∧
        (v / 4096 + 0xE0 = 0xED → v / 64 % 64 + 0x80 ≤ 0x9F) ∧ Continues (v % 64 + 0x80) := by
      unfold BeginsThree Continues
      omega
    have value : (v / 4096 + 0xE0 - 0xE0) * 4096 + (v / 64 % 64 + 0x80 - 0x80) * 64 + (v % 64 + 0x80 - 0x80) = v := by
      omega
    refine (if_pos whole).trans ?_
    rw [value]
  · have whole : BeginsFour (v / 262144 + 0xF0) (v / 4096 % 64 + 0x80) ∧ Continues (v / 64 % 64 + 0x80) ∧
        Continues (v % 64 + 0x80) := by
      unfold BeginsFour Continues
      omega
    have value : (v / 262144 + 0xF0 - 0xF0) * 262144 + (v / 4096 % 64 + 0x80 - 0x80) * 4096 +
        (v / 64 % 64 + 0x80 - 0x80) * 64 + (v % 64 + 0x80 - 0x80) = v := by omega
    refine (if_pos whole).trans ?_
    rw [value]

theorem encodeNat_of_classify {bytes : List Nat} {c : Char} (known : classify bytes = .complete c) :
    encodeNat c.toNat = bytes := by
  unfold classify at known
  split at known
  · unfold classifyOne at known
    split_ifs at known with one
    obtain rfl := Sequence.complete.inj known
    rw [toNat_ofNat (by unfold Nat.isValidChar; omega), encodeNat, if_pos (by omega)]
  · unfold classifyTwo at known
    split_ifs at known with two
    unfold Continues at two
    obtain rfl := Sequence.complete.inj known
    rw [toNat_ofNat (by unfold Nat.isValidChar; omega), encodeNat, if_neg (by omega), if_pos (by omega)]
    simp only [List.cons.injEq, and_true]
    omega
  · unfold classifyThree at known
    split_ifs at known with three
    unfold BeginsThree Continues at three
    obtain rfl := Sequence.complete.inj known
    rw [toNat_ofNat (by unfold Nat.isValidChar; omega), encodeNat, if_neg (by omega), if_neg (by omega), if_pos (by omega)]
    simp only [List.cons.injEq, and_true]
    omega
  · unfold classifyFour at known
    split_ifs at known with four
    unfold BeginsFour Continues at four
    obtain rfl := Sequence.complete.inj known
    rw [toNat_ofNat (by unfold Nat.isValidChar; omega), encodeNat, if_neg (by omega), if_neg (by omega), if_neg (by omega)]
    simp only [List.cons.injEq, and_true]
    omega
  · cases known

/-- What a character's bytes begin with is held back. -/
theorem classify_take {v : Nat} (valid : v.isValidChar) {count : Nat} (begun : 0 < count)
    (part : count < (encodeNat v).length) : classify ((encodeNat v).take count) = .incomplete := by
  unfold Nat.isValidChar at valid
  unfold encodeNat at part ⊢
  split_ifs at part ⊢ with one two three
  · simp at part
    omega
  · have last : count < 2 := part
    interval_cases count
    change classifyOne (v / 64 + 0xC0) = _
    unfold classifyOne
    rw [if_neg (by omega), if_pos (by omega)]
  · have last : count < 3 := part
    interval_cases count
    · change classifyOne (v / 4096 + 0xE0) = _
      unfold classifyOne
      rw [if_neg (by omega), if_pos (by omega)]
    · change classifyTwo (v / 4096 + 0xE0) (v / 64 % 64 + 0x80) = _
      have begins : BeginsThree (v / 4096 + 0xE0) (v / 64 % 64 + 0x80) := by
        unfold BeginsThree Continues
        omega
      unfold classifyTwo
      rw [if_neg (by omega), if_pos (Or.inl begins)]
  · have begins : BeginsFour (v / 262144 + 0xF0) (v / 4096 % 64 + 0x80) := by
      unfold BeginsFour Continues
      omega
    have last : count < 4 := part
    interval_cases count
    · change classifyOne (v / 262144 + 0xF0) = _
      unfold classifyOne
      rw [if_neg (by omega), if_pos (by omega)]
    · change classifyTwo (v / 262144 + 0xF0) (v / 4096 % 64 + 0x80) = _
      unfold classifyTwo
      rw [if_neg (by omega), if_pos (Or.inr begins)]
    · change classifyThree (v / 262144 + 0xF0) (v / 4096 % 64 + 0x80) (v / 64 % 64 + 0x80) = _
      have continues : Continues (v / 64 % 64 + 0x80) := by
        unfold Continues
        omega
      have apart : ¬BeginsThree (v / 262144 + 0xF0) (v / 4096 % 64 + 0x80) := by
        unfold BeginsThree
        omega
      unfold classifyThree
      rw [if_neg (fun three => apart three.1), if_pos ⟨begins, continues⟩]

theorem classify_utf8EncodeChar (c : Char) :
    classify ((String.utf8EncodeChar c).map UInt8.toNat) = .complete c := by
  have valid : c.toNat.isValidChar := c.valid
  rw [map_toNat_utf8EncodeChar, classify_encodeNat valid, Char.ofNat_toNat]

theorem utf8EncodeChar_of_classify {bytes : List UInt8} {c : Char}
    (known : classify (bytes.map UInt8.toNat) = .complete c) : String.utf8EncodeChar c = bytes := by
  have numbers := (map_toNat_utf8EncodeChar c).trans (encodeNat_of_classify known)
  exact List.map_injective_iff.mpr (fun _ _ same => UInt8.toNat_inj.mp same) numbers

theorem classify_front {c : Char} {front back : List UInt8} (split : String.utf8EncodeChar c = front ++ back)
    (begun : front ≠ []) (rest : back ≠ []) : classify (front.map UInt8.toNat) = .incomplete := by
  have numbers : encodeNat c.toNat = front.map UInt8.toNat ++ back.map UInt8.toNat := by
    rw [← map_toNat_utf8EncodeChar, split, List.map_append]
  have count : (front.map UInt8.toNat).length < (encodeNat c.toNat).length := by
    rw [numbers, List.length_append, List.length_map, List.length_map]
    have := List.length_pos_iff.mpr rest
    omega
  have valid : c.toNat.isValidChar := c.valid
  have taken := classify_take valid (by simpa using List.length_pos_iff.mpr begun) count
  rw [numbers, List.take_left] at taken
  exact taken

/-! ## Reading a text -/

theorem encode_cons (c : Char) (text : List Char) : encode (c :: text) = String.utf8EncodeChar c ++ encode text :=
  List.flatMap_cons

/-- Reading in two goes is reading at once. -/
theorem decodeFrom_append (first second pending : List UInt8) :
    decodeFrom pending (first ++ second) = (decodeFrom pending first).bind
      (fun read => (decodeFrom read.2 second).map (fun later => (read.1 ++ later.1, later.2))) := by
  induction first generalizing pending with
  | nil =>
    rw [List.nil_append, decodeFrom, Option.bind_some]
    cases decodeFrom pending second <;> rfl
  | cons b rest ih =>
    rw [List.cons_append, decodeFrom, decodeFrom]
    split
    · rw [ih]
      cases decodeFrom [] rest with
      | none => rfl
      | some read => cases later : decodeFrom read.2 second <;> simp [later]
    · exact ih _
    · rfl

/-- What was read is what the characters encode to, followed by what is held back. -/
theorem decodeFrom_sound {bytes pending held : List UInt8} {text : List Char}
    (read : decodeFrom pending bytes = some (text, held)) : pending ++ bytes = encode text ++ held := by
  induction bytes generalizing pending text with
  | nil =>
    obtain ⟨rfl, rfl⟩ := Prod.mk.inj (Option.some.inj read)
    rw [List.append_nil]
    rfl
  | cons b rest ih =>
    rw [decodeFrom] at read
    split at read
    · rename_i c known
      obtain ⟨later, decoded, same⟩ := Option.map_eq_some_iff.mp read
      obtain ⟨rfl, rfl⟩ := Prod.mk.inj same
      have tail := ih decoded
      rw [encode_cons, utf8EncodeChar_of_classify known, List.append_assoc, ← tail]
      simp
    · have tail := ih read
      rw [← tail]
      simp
    · cases read

/-- The rest of a character's bytes completes it. -/
theorem decodeFrom_char {c : Char} {pending rest : List UInt8} (split : String.utf8EncodeChar c = pending ++ rest)
    (unfinished : rest ≠ []) (more : List UInt8) :
    decodeFrom pending (rest ++ more) = (decodeFrom [] more).map (fun read => (c :: read.1, read.2)) := by
  induction rest generalizing pending with
  | nil => exact absurd rfl unfinished
  | cons b rest ih =>
    have regroup : pending ++ b :: rest = (pending ++ [b]) ++ rest := by simp
    rw [regroup] at split
    rw [List.cons_append, decodeFrom]
    by_cases ended : rest = []
    · rw [ended, List.append_nil] at split
      rw [← split, classify_utf8EncodeChar, ended]
      rfl
    · rw [classify_front split (by simp) ended]
      exact ih split ended

theorem decodeFrom_encode (text : List Char) : decodeFrom [] (encode text) = some (text, []) := by
  induction text with
  | nil => rfl
  | cons c text ih =>
    have nonempty : String.utf8EncodeChar c ≠ [] := by
      intro empty
      have known := classify_utf8EncodeChar c
      rw [empty] at known
      cases known
    rw [encode_cons, decodeFrom_char (List.nil_append _).symm nonempty, ih]
    rfl

/-- Nothing is held back exactly from the encodings. -/
theorem decodeFrom_eq_some_iff {bytes : List UInt8} {text : List Char} :
    decodeFrom [] bytes = some (text, []) ↔ encode text = bytes := by
  constructor
  · intro read
    have sound := decodeFrom_sound read
    rw [List.nil_append, List.append_nil] at sound
    exact sound.symm
  · rintro rfl
    exact decodeFrom_encode text

/-- Held back bytes are held back again when they are read anew. -/
theorem decodeFrom_held {bytes pending held : List UInt8} {text : List Char}
    (kept : decodeFrom [] pending = some ([], pending)) (read : decodeFrom pending bytes = some (text, held)) :
    decodeFrom [] held = some ([], held) := by
  induction bytes generalizing pending text with
  | nil =>
    obtain ⟨rfl, rfl⟩ := Prod.mk.inj (Option.some.inj read)
    exact kept
  | cons b rest ih =>
    rw [decodeFrom] at read
    split at read
    · obtain ⟨later, decoded, same⟩ := Option.map_eq_some_iff.mp read
      obtain ⟨rfl, rfl⟩ := Prod.mk.inj same
      exact ih rfl decoded
    · rename_i unfinished
      refine ih ?_ read
      rw [decodeFrom_append, kept, Option.bind_some, decodeFrom, unfinished]
      rfl
    · cases read

end PharmaIntel.Base.Utf8
