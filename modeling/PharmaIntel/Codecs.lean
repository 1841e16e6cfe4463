import Mathlib
import PharmaIntel.Base.Utf8
import PharmaIntel.Csv

/-! The incremental decoders of `utf-8` and `utf-8-sig` with strict errors, and the text
stream that reads a binary file through one of them. -/

namespace PharmaIntel.Codecs
open PharmaIntel.Base PharmaIntel.Base.Utf8

/-- `codecs.BOM_UTF8`. -/
def bomUtf8 : List UInt8 := [0xEF, 0xBB, 0xBF]

/-- `codecs.utf_8_decode`: the text, and the bytes that are left undecoded. -/
def utf8Decode (data : List UInt8) (final : Bool) : Option (List Char × List UInt8) :=
  (decodeFrom [] data).bind (fun read => if final ∧ read.2 ≠ [] then none else some read)

/-- `BufferedIncrementalDecoder`; `first` stands while `utf-8-sig` has yet to see whether a
byte-order mark comes. -/
structure IncrementalDecoder where
  first : Bool
  buffer : List UInt8 := []
  deriving DecidableEq, Repr

def utf8 : IncrementalDecoder := { first := false }

def utf8Sig : IncrementalDecoder := { first := true }

/-- Too little to decide whether this is a mark. -/
def Undecided (data : List UInt8) : Prop := data.length < 3 ∧ data <+: bomUtf8

instance (data : List UInt8) : Decidable (Undecided data) := inferInstanceAs (Decidable (_ ∧ _))

def withoutMark (data : List UInt8) : List UInt8 := if bomUtf8 <+: data then data.drop 3 else data

/-- `decode`; the beginning of a mark is kept, and not refused, also when it is `final`. -/
def IncrementalDecoder.decode (decoder : IncrementalDecoder) (input : List UInt8) (final : Bool) :
    Option (List Char × IncrementalDecoder) :=
  if decoder.first then
    if Undecided (decoder.buffer ++ input) then some ([], ⟨true, decoder.buffer ++ input⟩)
    else (utf8Decode (withoutMark (decoder.buffer ++ input)) final).map (fun read => (read.1, ⟨false, read.2⟩))
  else (utf8Decode (decoder.buffer ++ input) final).map (fun read => (read.1, ⟨false, read.2⟩))

/-- A `TextIOWrapper` with `newline=""` reads the file piece by piece. Where a piece cannot be
decoded, the lines that were complete before it have been given. -/
def readText (decoder : IncrementalDecoder) (text : List Char) : List (List UInt8) → List Char × Bool
  | [] =>
      match decoder.decode [] true with
      | none => (text, false)
      | some (tail, _) => (text ++ tail, true)
  | piece :: rest =>
      match decoder.decode piece false with
      | none => (text, false)
      | some (more, next) => readText next (text ++ more) rest

/-- The lines that a text is known to hold when more may follow it: a last line is known once
it ends in a newline, as a carriage return may be the first half of a line end. -/
def completeLines (text : List Char) : List String :=
  if text.getLast? = some '\n' then Csv.splitLinesFrom [] text else (Csv.splitLinesFrom [] text).dropLast

/-- `io.TextIOWrapper(binary_file, encoding="utf-8", newline="")`. -/
def textIOWrapper (pieces : List (List UInt8)) : Csv.TextStream :=
  match readText utf8 [] pieces with
  | (text, true) => { lines := Csv.splitLinesFrom [] text }
  | (text, false) => { lines := completeLines text, decodable := false }

/-! ## Decoding in pieces -/

theorem utf8Decode_append (first second : List UInt8) (final : Bool) :
    utf8Decode (first ++ second) final = (utf8Decode first false).bind
      (fun read => (utf8Decode (read.2 ++ second) final).map (fun later => (read.1 ++ later.1, later.2))) := by
  unfold utf8Decode
  rw [decodeFrom_append]
  cases decoded : decodeFrom [] first with
  | none => rfl
  | some read =>
    have kept : decodeFrom [] read.2 = some ([], read.2) := decodeFrom_held rfl decoded
    have again : decodeFrom [] (read.2 ++ second) = decodeFrom read.2 second := by
      rw [decodeFrom_append, kept, Option.bind_some]
      cases decodeFrom read.2 second <;> rfl
    change ((decodeFrom read.2 second).map _).bind _ = ((decodeFrom [] (read.2 ++ second)).bind _).map _
    rw [again]
    cases decodeFrom read.2 second with
    | none => rfl
    | some later =>
      rw [Option.map_some, Option.bind_some, Option.bind_some]
      split_ifs <;> rfl

theorem not_undecided_append {first : List UInt8} (decided : ¬Undecided first) (second : List UInt8) :
    ¬Undecided (first ++ second) := by
  rintro ⟨short, starts⟩
  rw [List.length_append] at short
  apply decided
  exact ⟨by omega, (List.prefix_append first second).trans starts⟩

/-- More bytes do not change whether there is a mark. -/
theorem withoutMark_append {first : List UInt8} (decided : ¬Undecided first) (second : List UInt8) :
    withoutMark (first ++ second) = withoutMark first ++ second := by
  have marked : bomUtf8 <+: first ++ second ↔ bomUtf8 <+: first := by
    constructor
    · intro starts
      rcases Nat.lt_or_ge first.length 3 with short | long
      · have inside : first <+: bomUtf8 :=
          List.prefix_of_prefix_length_le (List.prefix_append first second) starts (Nat.le_of_lt short)
        exact absurd ⟨short, inside⟩ decided
      · exact List.prefix_of_prefix_length_le starts (List.prefix_append first second) long
    · exact fun starts => starts.trans (List.prefix_append first second)
  unfold withoutMark
  by_cases starts : bomUtf8 <+: first
  · rw [if_pos starts, if_pos (marked.mpr starts)]
    exact List.drop_append_of_le_length starts.length_le
  · rw [if_neg starts, if_neg (fun whole => starts (marked.mp whole))]

/-- Decoding in two goes is decoding at once, wherever the bytes are divided. -/
theorem decode_append (decoder : IncrementalDecoder) (first second : List UInt8) (final : Bool) :
    decoder.decode (first ++ second) final = (decoder.decode first false).bind
      (fun read => (read.2.decode second final).map (fun later => (read.1 ++ later.1, later.2))) := by
  unfold IncrementalDecoder.decode
  rw [← List.append_assoc]
  cases decoder.first with
  | false =>
    rw [if_neg Bool.false_ne_true, if_neg Bool.false_ne_true, utf8Decode_append]
    cases utf8Decode (decoder.buffer ++ first) false with
    | none => rfl
    | some read => simp [Function.comp_def]
  | true =>
    rw [if_pos rfl, if_pos rfl]
    by_cases undecided : Undecided (decoder.buffer ++ first)
    · rw [if_pos undecided]
      simp
    · rw [if_neg undecided, if_neg (not_undecided_append undecided second), withoutMark_append undecided,
        utf8Decode_append]
      cases utf8Decode (withoutMark (decoder.buffer ++ first)) false with
      | none => rfl
      | some read => simp [Function.comp_def]

/-! ## Whole texts -/

theorem utf8Decode_final {data held : List UInt8} {text : List Char} :
    utf8Decode data true = some (text, held) ↔ encode text = data ∧ held = [] := by
  unfold utf8Decode
  constructor
  · intro decoded
    obtain ⟨read, known, kept⟩ := Option.bind_eq_some_iff.mp decoded
    split_ifs at kept with left
    obtain rfl := Option.some.inj kept
    have nothing : held = [] := not_not.mp (fun some => left ⟨rfl, some⟩)
    rw [nothing] at known
    exact ⟨decodeFrom_eq_some_iff.mp known, nothing⟩
  · rintro ⟨encoded, rfl⟩
    rw [decodeFrom_eq_some_iff.mpr encoded]
    rfl

/-- A mark that is cut off has no text, whether it is decoded or not. -/
theorem undecided_text {data : List UInt8} (undecided : Undecided data) {text : List Char}
    (encoded : encode text = withoutMark data) : text = [] := by
  have unmarked : ¬bomUtf8 <+: data := fun starts => Nat.not_lt.mpr starts.length_le undecided.1
  rw [withoutMark, if_neg unmarked] at encoded
  have held : decodeFrom [] data = some ([], data) := by
    obtain ⟨short, starts⟩ := undecided
    rw [List.prefix_iff_eq_take.mp starts]
    interval_cases data.length <;> rfl
  have read := decodeFrom_eq_some_iff.mpr encoded
  rw [held] at read
  exact (Prod.mk.inj (Option.some.inj read)).1.symm

/-- What `utf-8-sig` gives for all the bytes, as far as they hold any text. -/
theorem utf8Sig_decode_final {data : List UInt8} {text : List Char} (nonempty : text ≠ []) :
    (∃ next, utf8Sig.decode data true = some (text, next)) ↔ encode text = withoutMark data := by
  have start : utf8Sig.decode data true = if Undecided data then some ([], ⟨true, data⟩) else
      (utf8Decode (withoutMark data) true).map (fun read => (read.1, ⟨false, read.2⟩)) := if_pos rfl
  rw [start]
  by_cases undecided : Undecided data
  · rw [if_pos undecided]
    constructor
    · rintro ⟨next, read⟩
      exact absurd (Prod.mk.inj (Option.some.inj read)).1.symm nonempty
    · intro encoded
      exact absurd (undecided_text undecided encoded) nonempty
  · rw [if_neg undecided]
    constructor
    · rintro ⟨next, read⟩
      obtain ⟨⟨known, held⟩, decoded, same⟩ := Option.map_eq_some_iff.mp read
      obtain rfl : known = text := (Prod.mk.inj same).1
      exact (utf8Decode_final.mp decoded).1
    · intro encoded
      rw [utf8Decode_final.mpr ⟨encoded, rfl⟩]
      exact ⟨_, rfl⟩

theorem readText_decode (pieces : List (List UInt8)) (decoder next : IncrementalDecoder) (text more : List Char)
    (decoded : decoder.decode pieces.flatten true = some (more, next)) :
    readText decoder text pieces = (text ++ more, true) := by
  induction pieces generalizing decoder text more with
  | nil =>
    rw [List.flatten_nil] at decoded
    rw [readText, decoded]
  | cons piece rest ih =>
    rw [List.flatten_cons, decode_append] at decoded
    obtain ⟨⟨front, middle⟩, read, decoded⟩ := Option.bind_eq_some_iff.mp decoded
    obtain ⟨⟨back, last⟩, later, same⟩ := Option.map_eq_some_iff.mp decoded
    obtain ⟨rfl, rfl⟩ := Prod.mk.inj same
    rw [readText, read]
    dsimp only
    rw [ih middle (text ++ front) back later, List.append_assoc]

/-- The stream over an encoded text is the text, however the file is read. -/
theorem textIOWrapper_encode {pieces : List (List UInt8)} {text : List Char} (encoded : encode text = pieces.flatten) :
    textIOWrapper pieces = { lines := Csv.splitLinesFrom [] text } := by
  have decoded : utf8.decode pieces.flatten true = some (text, utf8) := by
    change (utf8Decode pieces.flatten true).map _ = _
    rw [utf8Decode_final.mpr ⟨encoded, rfl⟩]
    rfl
  rw [textIOWrapper, readText_decode pieces utf8 utf8 [] text decoded]
  rfl

end PharmaIntel.Codecs
