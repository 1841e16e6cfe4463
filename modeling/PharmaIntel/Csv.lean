import Mathlib

/-! `csv.reader(text_stream, dialect="excel", strict=True)`: delimiter `,`, quote
character `"`, doubled quotes, no escape character, no skipped initial spaces.
The state machine is the interpreter's `_csv` reader with its unreachable escape
states left out; `none` stands for its end-of-line sentinel. -/

namespace PharmaIntel.Csv

inductive State where
  | startRecord
  | startField
  | inField
  | inQuotedField
  | quoteInQuotedField
  | eatCrnl
  deriving DecidableEq, Repr

/-- `csv.Error`. -/
inductive Error where
  | fieldTooLarge
  | delimiterExpected
  | newlineInUnquotedField
  | unexpectedEnd
  deriving DecidableEq, Repr

structure Reader where
  state : State
  field : List Char
  fields : List String
  deriving DecidableEq, Repr

/-- `csv.field_size_limit()`. -/
def fieldSizeLimit : Nat := 131072

def Reader.reset : Reader := ⟨.startRecord, [], []⟩

def Reader.addChar (r : Reader) (c : Char) : Except Error Reader :=
  if fieldSizeLimit ≤ r.field.length then .error .fieldTooLarge
  else .ok { r with field := r.field ++ [c] }

def Reader.saveField (r : Reader) : Reader :=
  { r with field := [], fields := r.fields ++ [String.ofList r.field] }

def endsLine (c : Option Char) : Bool := c = none || c = some '\n' || c = some '\r'

/-- Save the last field of a record; only the sentinel closes it at once. -/
def Reader.endRecord (r : Reader) (c : Option Char) : Reader :=
  { r.saveField with state := if c = none then .startRecord else .eatCrnl }

def Reader.processStartField (r : Reader) (c : Option Char) : Except Error Reader :=
  match c with
  | none => .ok (r.endRecord c)
  | some ch =>
      if endsLine c then .ok (r.endRecord c)
      else if ch = '"' then .ok { r with state := .inQuotedField }
      else if ch = ',' then .ok { r.saveField with state := .startField }
      else ({ r with state := .inField } : Reader).addChar ch

def Reader.processInField (r : Reader) (c : Option Char) : Except Error Reader :=
  match c with
  | none => .ok (r.endRecord c)
  | some ch =>
      if endsLine c then .ok (r.endRecord c)
      else if ch = ',' then .ok { r.saveField with state := .startField }
      else r.addChar ch

def Reader.processQuoteInQuotedField (r : Reader) (c : Option Char) : Except Error Reader :=
  match c with
  | none => .ok (r.endRecord c)
  | some ch =>
      if ch = '"' then ({ r with state := .inQuotedField } : Reader).addChar '"'
      else if ch = ',' then .ok { r.saveField with state := .startField }
      else if endsLine c then .ok (r.endRecord c)
      else .error .delimiterExpected

/-- `parse_process_char`. -/
def Reader.processChar (r : Reader) (c : Option Char) : Except Error Reader :=
  match r.state with
  | .startRecord =>
      if c = none then .ok r
      else if endsLine c then .ok { r with state := .eatCrnl }
      else r.processStartField c
  | .startField => r.processStartField c
  | .inField => r.processInField c
  | .inQuotedField =>
      match c with
      | none => .ok r
      | some ch =>
          if ch = '"' then .ok { r with state := .quoteInQuotedField }
          else r.addChar ch
  | .quoteInQuotedField => r.processQuoteInQuotedField c
  | .eatCrnl =>
      match c with
      | none => .ok { r with state := .startRecord }
      | some _ => if endsLine c then .ok r else .error .newlineInUnquotedField

/-- One line taken from the input, then the sentinel. -/
def Reader.processLine (r : Reader) (line : String) : Except Error Reader :=
  (line.toList.map some ++ [none]).foldlM Reader.processChar r

structure Record where
  /-- The line on which the record starts, counted from one. -/
  rowNumber : Nat
  cells : List String
  deriving DecidableEq, Repr

/-- How the stream of records ends. -/
inductive Ending where
  | endOfFile
  | malformed (lineNum : Nat)
  | undecodable
  deriving DecidableEq, Repr

/-- What iterating the text stream gives: its lines with their line ends, then
either the end of the file or a `UnicodeDecodeError`. -/
structure TextStream where
  lines : List String
  decodable : Bool := true
  deriving DecidableEq, Repr

/-- The end of the input inside a record: only a record with an open quote or a
pending field is refused. -/
def Reader.atEnd (r : Reader) (lineNum : Nat) (decodable : Bool) : Ending :=
  if !decodable then .undecodable
  else if r.field ≠ [] ∨ r.state = .inQuotedField then .malformed lineNum
  else .endOfFile

/-- The records of the remaining lines; `start` is the line on which the current
record began and `lineNum` the number of lines taken so far. -/
def recordsFrom (decodable : Bool) (r : Reader) (start lineNum : Nat) :
    List String → List Record × Ending
  | [] => ([], r.atEnd lineNum decodable)
  | line :: rest =>
      match r.processLine line with
      | .error _ => ([], .malformed (lineNum + 1))
      | .ok r =>
          if r.state = .startRecord then
            let later := recordsFrom decodable .reset (lineNum + 2) (lineNum + 1) rest
            (⟨start, r.fields⟩ :: later.1, later.2)
          else recordsFrom decodable r start (lineNum + 1) rest

/-- Every record `next(reader)` gives, with `reader.line_num + 1` read before it. -/
def records (stream : TextStream) : List Record × Ending :=
  recordsFrom stream.decodable .reset 1 0 stream.lines

/-- Lines of a text opened with `newline=""`: every line end is kept as it is. -/
def splitLinesFrom : List Char → List Char → List String
  | line, [] => if line.isEmpty then [] else [String.ofList line]
  | line, '\r' :: '\n' :: rest => String.ofList (line ++ ['\r', '\n']) :: splitLinesFrom [] rest
  | line, '\r' :: rest => String.ofList (line ++ ['\r']) :: splitLinesFrom [] rest
  | line, '\n' :: rest => String.ofList (line ++ ['\n']) :: splitLinesFrom [] rest
  | line, c :: rest => splitLinesFrom (line ++ [c]) rest

def textStream (text : String) : TextStream := { lines := splitLinesFrom [] text.toList }

end PharmaIntel.Csv
