import Mathlib
import PharmaIntel.ParserOutcome

/-! A byte-order mark in front of a CSV text. The reader takes it for the first character
of the first field, so the two runs stay in step as long as that field is not quoted. -/

namespace PharmaIntel.Csv

/-! ## The first field only grows -/

/-- What has been read of the first field of the record. -/
def Reader.firstField (r : Reader) : List Char :=
  match r.fields with
  | [] => r.field
  | cell :: _ => cell.toList

theorem addChar_firstField {r next : Reader} {c : Char} (added : r.addChar c = .ok next) :
    r.firstField <+: next.firstField := by
  unfold Reader.addChar at added
  split_ifs at added
  cases added
  unfold Reader.firstField
  cases r.fields with
  | nil => exact List.prefix_append _ _
  | cons cell rest => exact List.prefix_refl _

@[simp] theorem saveField_firstField (r : Reader) : r.saveField.firstField = r.firstField := by
  unfold Reader.firstField Reader.saveField
  cases r.fields with
  | nil => exact String.toList_ofList
  | cons cell rest => rfl

@[simp] theorem endRecord_firstField (r : Reader) (c : Option Char) :
    (r.endRecord c).firstField = r.firstField := saveField_firstField r

@[simp] theorem firstField_state (r : Reader) (state : State) :
    ({ r with state := state } : Reader).firstField = r.firstField := rfl

theorem processStartField_firstField {r next : Reader} {c : Option Char}
    (processed : r.processStartField c = .ok next) : r.firstField <+: next.firstField := by
  unfold Reader.processStartField at processed
  split at processed
  · cases processed
    simp
  · split_ifs at processed
    · cases processed
      simp
    · cases processed
      simp
    · cases processed
      simp
    · exact addChar_firstField (r := { r with state := .inField }) processed

theorem processInField_firstField {r next : Reader} {c : Option Char}
    (processed : r.processInField c = .ok next) : r.firstField <+: next.firstField := by
  unfold Reader.processInField at processed
  split at processed
  · cases processed
    simp
  · split_ifs at processed
    · cases processed
      simp
    · cases processed
      simp
    · exact addChar_firstField processed

theorem processQuoteInQuotedField_firstField {r next : Reader} {c : Option Char}
    (processed : r.processQuoteInQuotedField c = .ok next) : r.firstField <+: next.firstField := by
  unfold Reader.processQuoteInQuotedField at processed
  split at processed
  · cases processed
    simp
  · split_ifs at processed
    · exact addChar_firstField (r := { r with state := .inQuotedField }) processed
    · cases processed
      simp
    · cases processed
      simp

theorem processChar_firstField {r next : Reader} {c : Option Char}
    (processed : r.processChar c = .ok next) : r.firstField <+: next.firstField := by
  unfold Reader.processChar at processed
  split at processed
  · split_ifs at processed
    · cases processed
      exact List.prefix_refl _
    · cases processed
      simp
    · exact processStartField_firstField processed
  · exact processStartField_firstField processed
  · exact processInField_firstField processed
  · split at processed
    · cases processed
      exact List.prefix_refl _
    · split_ifs at processed
      · cases processed
        simp
      · exact addChar_firstField processed
  · exact processQuoteInQuotedField_firstField processed
  · split at processed
    · cases processed
      simp
    · split_ifs at processed
      cases processed
      exact List.prefix_refl _

theorem processChars_firstField (chars : List (Option Char)) {r next : Reader}
    (processed : chars.foldlM Reader.processChar r = .ok next) : r.firstField <+: next.firstField := by
  induction chars generalizing r with
  | nil =>
    cases processed
    exact List.prefix_refl _
  | cons c rest ih =>
    rw [List.foldlM_cons] at processed
    cases stepped : r.processChar c with
    | error e =>
      rw [stepped] at processed
      cases processed
    | ok middle =>
      rw [stepped] at processed
      exact (processChar_firstField stepped).trans (ih processed)

/-- The first cell of the next record goes on from what has been read of it. -/
theorem recordsFrom_firstField (decodable : Bool) (lines : List String) (r : Reader)
    (start lineNum : Nat) {header : Record} {rest : List Record}
    (read : (recordsFrom decodable r start lineNum lines).1 = header :: rest) :
    ∀ cell ∈ header.cells.head?, r.firstField <+: cell.toList := by
  induction lines generalizing r lineNum with
  | nil => cases read
  | cons line lines ih =>
    rw [recordsFrom] at read
    cases processed : r.processLine line with
    | error e =>
      rw [processed] at read
      cases read
    | ok next =>
      rw [processed] at read
      have grows := processChars_firstField _ processed
      by_cases complete : next.state = .startRecord
      · simp only [complete, if_true, List.cons.injEq] at read
        rw [← read.1]
        intro cell listed
        unfold Reader.firstField at grows
        cases fields : next.fields with
        | nil => simp [fields] at listed
        | cons first others =>
          simp only [fields, List.head?_cons, Option.mem_def, Option.some.injEq] at listed grows
          exact listed ▸ grows
      · simp only [complete, if_false] at read
        intro cell listed
        exact grows.trans (ih next (lineNum + 1) read cell listed)

theorem recordsFrom_decodable (lines : List String) (r : Reader) (start lineNum : Nat) :
    (recordsFrom true r start lineNum lines).2 ≠ .undecodable := by
  induction lines generalizing r start lineNum with
  | nil =>
    rw [recordsFrom, Reader.atEnd]
    split_ifs <;> simp_all
  | cons line lines ih =>
    rw [recordsFrom]
    cases r.processLine line with
    | error e => simp
    | ok next =>
      dsimp only
      split_ifs
      · exact ih _ _ _
      · exact ih _ _ _

/-! ## Two readers in step -/

def mark : Char := '\ufeff'

/-- The second reader has the mark in front of the first field, and is otherwise like the first. -/
inductive Marked : Reader → Reader → Prop where
  | first (state : State) (c : Char) (field : List Char)
      (open_field : state ≠ .startRecord ∧ state ≠ .eatCrnl) (unmarked : c ≠ mark) :
      Marked ⟨state, c :: field, []⟩ ⟨state, mark :: c :: field, []⟩
  | later (state : State) (field : List Char) (cell : String) (rest : List String)
      (unmarked : cell.toList.head? ≠ some mark) :
      Marked ⟨state, field, cell :: rest⟩ ⟨state, field, String.ofList (mark :: cell.toList) :: rest⟩

/-- Too long for the mark to be added, and without one. -/
structure Overlong (field : List Char) : Prop where
  long : fieldSizeLimit ≤ field.length
  unmarked : field.head? ≠ some mark

theorem Overlong.grow {field grown : List Char} (overlong : Overlong field) (grows : field <+: grown) :
    Overlong grown := by
  obtain ⟨more, rfl⟩ := grows
  have long := overlong.long
  refine ⟨by rw [List.length_append]; omega, ?_⟩
  cases field with
  | nil => exact absurd long (by decide)
  | cons c rest => exact overlong.unmarked

/-- The second of two steps can fail where the first goes on: the mark may overfill the field. -/
inductive InStep : Except Error Reader → Except Error Reader → Prop where
  | failed (first second : Error) : InStep (.error first) (.error second)
  | marked {first second : Reader} (marked : Marked first second) : InStep (.ok first) (.ok second)
  | overfull {first : Reader} (second : Error) (long : Overlong first.firstField) :
      InStep (.ok first) (.error second)

/-- The fields that are already saved play no part. -/
theorem processChar_frame (state : State) (field : List Char) (saved : List String) (c : Option Char) :
    Reader.processChar ⟨state, field, saved⟩ c =
      (Reader.processChar ⟨state, field, []⟩ c).map
        (fun next => ⟨next.state, next.field, saved ++ next.fields⟩) := by
  cases state <;> cases c <;>
    simp only [Reader.processChar, Reader.processStartField, Reader.processInField,
      Reader.processQuoteInQuotedField, Reader.addChar, Reader.endRecord, Reader.saveField] <;>
    (try split_ifs) <;> simp [Except.map]

section First
variable {state : State} {c : Char} {field : List Char}

theorem addChar_inStep (open_field : state ≠ .startRecord ∧ state ≠ .eatCrnl) (unmarked : c ≠ mark)
    (added : Char) :
    InStep (Reader.addChar ⟨state, c :: field, []⟩ added)
      (Reader.addChar ⟨state, mark :: c :: field, []⟩ added) := by
  unfold Reader.addChar
  dsimp only
  by_cases full : fieldSizeLimit ≤ (c :: field).length
  · have fuller : fieldSizeLimit ≤ (mark :: c :: field).length := full.trans (Nat.le_succ _)
    rw [if_pos full, if_pos fuller]
    exact .failed _ _
  · rw [if_neg full]
    by_cases overfull : fieldSizeLimit ≤ (mark :: c :: field).length
    · rw [if_pos overfull]
      refine .overfull _ ⟨?_, fun same => unmarked (Option.some.inj same)⟩
      change fieldSizeLimit ≤ (c :: field ++ [added]).length
      rw [List.length_append]
      exact overfull
    · rw [if_neg overfull]
      exact .marked (.first state c (field ++ [added]) open_field unmarked)

/-- Saving the first field, whatever state follows. -/
theorem saved_inStep (next : State) (unmarked : c ≠ mark) :
    InStep (.ok ⟨next, [], [String.ofList (c :: field)]⟩)
      (.ok ⟨next, [], [String.ofList (mark :: c :: field)]⟩) := by
  have saved := Marked.later next [] (String.ofList (c :: field)) [] (by
    rw [String.toList_ofList]
    exact fun same => unmarked (Option.some.inj same))
  rw [String.toList_ofList] at saved
  exact .marked saved

theorem processStartField_inStep (unmarked : c ≠ mark) (next : Option Char) :
    InStep (Reader.processStartField ⟨.startField, c :: field, []⟩ next)
      (Reader.processStartField ⟨.startField, mark :: c :: field, []⟩ next) := by
  unfold Reader.processStartField
  cases next with
  | none => exact saved_inStep _ unmarked
  | some ch =>
    dsimp only
    split_ifs
    · exact saved_inStep _ unmarked
    · exact .marked (.first .inQuotedField c field (by decide) unmarked)
    · exact saved_inStep _ unmarked
    · exact addChar_inStep (by decide) unmarked ch

theorem processInField_inStep (unmarked : c ≠ mark) (next : Option Char) :
    InStep (Reader.processInField ⟨.inField, c :: field, []⟩ next)
      (Reader.processInField ⟨.inField, mark :: c :: field, []⟩ next) := by
  unfold Reader.processInField
  cases next with
  | none => exact saved_inStep _ unmarked
  | some ch =>
    dsimp only
    split_ifs
    · exact saved_inStep _ unmarked
    · exact saved_inStep _ unmarked
    · exact addChar_inStep (by decide) unmarked ch

theorem processQuoteInQuotedField_inStep (unmarked : c ≠ mark) (next : Option Char) :
    InStep (Reader.processQuoteInQuotedField ⟨.quoteInQuotedField, c :: field, []⟩ next)
      (Reader.processQuoteInQuotedField ⟨.quoteInQuotedField, mark :: c :: field, []⟩ next) := by
  unfold Reader.processQuoteInQuotedField
  cases next with
  | none => exact saved_inStep _ unmarked
  | some ch =>
    dsimp only
    split_ifs
    · exact addChar_inStep (by decide) unmarked '"'
    · exact saved_inStep _ unmarked
    · exact saved_inStep _ unmarked
    · exact .failed _ _

theorem first_inStep (open_field : state ≠ .startRecord ∧ state ≠ .eatCrnl) (unmarked : c ≠ mark)
    (next : Option Char) :
    InStep (Reader.processChar ⟨state, c :: field, []⟩ next)
      (Reader.processChar ⟨state, mark :: c :: field, []⟩ next) := by
  cases state with
  | startRecord => exact absurd rfl open_field.1
  | startField => exact processStartField_inStep unmarked next
  | inField => exact processInField_inStep unmarked next
  | inQuotedField =>
    cases next with
    | none => exact .marked (.first .inQuotedField c field open_field unmarked)
    | some ch =>
      simp only [Reader.processChar]
      split_ifs
      · exact .marked (.first .quoteInQuotedField c field (by decide) unmarked)
      · exact addChar_inStep open_field unmarked ch
  | quoteInQuotedField => exact processQuoteInQuotedField_inStep unmarked next
  | eatCrnl => exact absurd rfl open_field.2

end First

theorem processChar_inStep {r other : Reader} (marked : Marked r other) (c : Option Char) :
    InStep (r.processChar c) (other.processChar c) := by
  cases marked with
  | first state head field open_field unmarked => exact first_inStep open_field unmarked c
  | later state field cell rest unmarked =>
    rw [processChar_frame state field (cell :: rest),
      processChar_frame state field (String.ofList (mark :: cell.toList) :: rest)]
    cases Reader.processChar ⟨state, field, []⟩ c with
    | error e => exact .failed e e
    | ok next => exact .marked (.later next.state next.field cell (rest ++ next.fields) unmarked)

theorem processChars_inStep {r other : Reader} (marked : Marked r other) (chars : List (Option Char)) :
    InStep (chars.foldlM Reader.processChar r) (chars.foldlM Reader.processChar other) := by
  induction chars generalizing r other with
  | nil => exact .marked marked
  | cons c rest ih =>
    rw [List.foldlM_cons, List.foldlM_cons]
    have step := processChar_inStep marked c
    cases first : r.processChar c with
    | error e =>
      rw [first] at step
      cases second : other.processChar c with
      | error e' => exact .failed e e'
      | ok next =>
        rw [second] at step
        cases step
    | ok next =>
      rw [first] at step
      cases second : other.processChar c with
      | error e' =>
        rw [second] at step
        cases step with
        | overfull _ long =>
          change InStep (rest.foldlM Reader.processChar next) (.error e')
          cases later : rest.foldlM Reader.processChar next with
          | error e => exact .failed e e'
          | ok final =>
            exact .overfull e' (long.grow (processChars_firstField rest later))
      | ok nextOther =>
        rw [second] at step
        cases step with
        | marked nextMarked => exact ih nextMarked

/-! ## The records of a marked text -/

/-- Equal but for the mark on the first cell, or both of no use as a file with a header. -/
inductive SameRecords : List Record × Ending → List Record × Ending → Prop where
  | marked (rowNumber : Nat) (cell : String) (cells : List String) (rest : List Record) (ending : Ending)
      (unmarked : cell.toList.head? ≠ some mark) :
      SameRecords (⟨rowNumber, cell :: cells⟩ :: rest, ending)
        (⟨rowNumber, String.ofList (mark :: cell.toList) :: cells⟩ :: rest, ending)
  | empty (first second : Ending) : SameRecords ([], first) ([], second)
  | overlong (header : Record) (rest : List Record) (first second : Ending)
      (long : ∀ cell ∈ header.cells.head?, Overlong cell.toList) :
      SameRecords (header :: rest, first) ([], second)

theorem recordsFrom_inStep (decodable : Bool) (start lineNum : Nat) {r other : Reader}
    {line otherLine : String} (rest : List String)
    (step : InStep (r.processLine line) (other.processLine otherLine))
    (later : ∀ next nextOther, Marked next nextOther → next.state ≠ .startRecord →
      SameRecords (recordsFrom decodable next start (lineNum + 1) rest)
        (recordsFrom decodable nextOther start (lineNum + 1) rest)) :
    SameRecords (recordsFrom decodable r start lineNum (line :: rest))
      (recordsFrom decodable other start lineNum (otherLine :: rest)) := by
  rw [recordsFrom, recordsFrom]
  cases first : r.processLine line with
  | error e =>
    rw [first] at step
    cases second : other.processLine otherLine with
    | error e' => exact .empty _ _
    | ok nextOther =>
      rw [second] at step
      cases step
  | ok next =>
    rw [first] at step
    cases second : other.processLine otherLine with
    | error e' =>
      rw [second] at step
      cases step with
      | overfull _ long =>
        dsimp only
        by_cases complete : next.state = .startRecord
        · rw [if_pos complete]
          refine .overlong _ _ _ _ ?_
          intro cell listed
          unfold Reader.firstField at long
          cases fields : next.fields with
          | nil => simp [fields] at listed
          | cons head others =>
            simp only [fields, List.head?_cons, Option.mem_def, Option.some.injEq] at listed long
            exact listed ▸ long
        · rw [if_neg complete]
          cases read : recordsFrom decodable next start (lineNum + 1) rest with
          | mk records ending =>
            cases records with
            | nil => exact .empty _ _
            | cons header others =>
              refine .overlong _ _ _ _ ?_
              intro cell listed
              have grown := recordsFrom_firstField decodable rest next start (lineNum + 1)
                (congrArg Prod.fst read) cell listed
              exact long.grow grown
    | ok nextOther =>
      rw [second] at step
      cases step with
      | marked marked =>
        dsimp only
        by_cases complete : next.state = .startRecord
        · cases marked with
          | first state c field open_field unmarked => exact absurd complete open_field.1
          | later state field cell cells unmarked =>
            rw [if_pos complete, if_pos complete]
            exact .marked start cell cells _ _ unmarked
        · have continues := later next nextOther marked complete
          cases marked with
          | first state c field open_field unmarked =>
            rw [if_neg complete, if_neg complete]
            exact continues
          | later state field cell cells unmarked =>
            rw [if_neg complete, if_neg complete]
            exact continues

theorem recordsFrom_marked (decodable : Bool) (lines : List String) {r other : Reader}
    (start lineNum : Nat) (marked : Marked r other) :
    SameRecords (recordsFrom decodable r start lineNum lines)
      (recordsFrom decodable other start lineNum lines) := by
  induction lines generalizing r other lineNum with
  | nil => exact .empty _ _
  | cons line rest ih =>
    exact recordsFrom_inStep decodable start lineNum rest (processChars_inStep marked _)
      (fun next nextOther nextMarked _ => ih (lineNum + 1) nextMarked)

/-- A text with the mark in front. -/
def withMark (text : String) : String := String.ofList (mark :: text.toList)

theorem splitLinesFrom_front (line chars : List Char) (c : Char) (nonempty : line ++ chars ≠ []) :
    ∃ first rest, splitLinesFrom line chars = first :: rest ∧ line <+: first.toList ∧
      splitLinesFrom (c :: line) chars = String.ofList (c :: first.toList) :: rest := by
  fun_induction splitLinesFrom line chars with
  | case1 line empty => simp_all
  | case2 line filled =>
    refine ⟨_, _, rfl, by simp, ?_⟩
    simp [splitLinesFrom]
  | case3 line rest ih =>
    refine ⟨_, _, rfl, by simp, ?_⟩
    simp [splitLinesFrom]
  | case4 line rest notPair ih =>
    refine ⟨_, _, rfl, by simp, ?_⟩
    rw [splitLinesFrom]
    · simp
    · exact notPair
  | case5 line rest ih =>
    refine ⟨_, _, rfl, by simp, ?_⟩
    simp [splitLinesFrom]
  | case6 line other rest notPair notReturn notLine ih =>
    obtain ⟨first, others, shape, lead, marked⟩ := ih (by simp)
    refine ⟨first, others, shape, (List.prefix_append _ _).trans lead, ?_⟩
    rw [splitLinesFrom]
    · exact marked
    · exact notPair
    · exact notReturn
    · exact notLine

theorem reset_mark : Reader.reset.processChar (some mark) = .ok ⟨.inField, [mark], []⟩ := by decide

/-- The line goes on from the reader that has taken its first characters. -/
theorem processLine_front {line : String} {front back : List Char} {r : Reader}
    (shape : line.toList = front ++ back)
    (taken : (front.map some).foldlM Reader.processChar Reader.reset = .ok r) :
    Reader.reset.processLine line = (back.map some ++ [none]).foldlM Reader.processChar r := by
  rw [Reader.processLine, shape, List.map_append, List.append_assoc, List.foldlM_append, taken]
  rfl

theorem opened_inStep {c : Char} (unmarked : c ≠ mark) (unquoted : c ≠ '"')
    (inside : c ≠ '\n' ∧ c ≠ '\r') :
    ∃ r other, ([c].map some).foldlM Reader.processChar Reader.reset = .ok r ∧
      ([mark, c].map some).foldlM Reader.processChar Reader.reset = .ok other ∧ Marked r other := by
  by_cases comma : c = ','
  · subst comma
    exact ⟨⟨.startField, [], [""]⟩, ⟨.startField, [], [String.ofList [mark]]⟩, by decide, by decide,
      .later .startField [] "" [] (by simp)⟩
  · refine ⟨⟨.inField, [c], []⟩, ⟨.inField, [mark, c], []⟩, ?_, ?_,
      .first .inField c [] (by decide) unmarked⟩
    · simp [Reader.processChar, Reader.reset, Reader.processStartField, Reader.addChar, endsLine,
        inside, unquoted, comma, fieldSizeLimit, Pure.pure, Except.pure]
      rfl
    · rw [List.map_cons, List.foldlM_cons, reset_mark]
      simp [Reader.processChar, Reader.processInField, Reader.addChar, endsLine, inside, comma,
        fieldSizeLimit, Bind.bind, Except.bind, Pure.pure, Except.pure]

/-- The records of a text that opens its first field without a quote. -/
theorem records_withMark {text : String} {c : Char} {chars : List Char} (shape : text.toList = c :: chars)
    (unmarked : c ≠ mark) (unquoted : c ≠ '"') (inside : c ≠ '\n' ∧ c ≠ '\r') :
    SameRecords (records (textStream text)) (records (textStream (withMark text))) := by
  obtain ⟨first, rest, lines, lead, markedLines⟩ := splitLinesFrom_front [c] chars mark (by simp)
  obtain ⟨more, line⟩ := lead
  have opens : splitLinesFrom [] (c :: chars) = splitLinesFrom [c] chars := by
    rw [splitLinesFrom]
    · rfl
    · exact fun _ same => absurd same (by simp [inside.2])
    · exact fun same => inside.2 same
    · exact fun same => inside.1 same
  have marksOpen : splitLinesFrom [] (mark :: c :: chars) = splitLinesFrom [mark, c] chars := by
    rw [splitLinesFrom, splitLinesFrom]
    · rfl
    all_goals simp [inside.1, inside.2, mark]
  obtain ⟨r, other, taken, otherTaken, marked⟩ := opened_inStep unmarked unquoted inside
  have step : InStep (Reader.reset.processLine first)
      (Reader.reset.processLine (String.ofList (mark :: first.toList))) := by
    rw [@processLine_front _ _ more _ line.symm taken,
      @processLine_front _ [mark, c] more _ (by rw [String.toList_ofList, ← line]; rfl)
        otherTaken]
    exact processChars_inStep marked _
  unfold records textStream withMark
  dsimp only
  rw [String.toList_ofList, shape, opens, marksOpen, lines, markedLines]
  exact recordsFrom_inStep true 1 0 rest step
    (fun next nextOther nextMarked _ => recordsFrom_marked true rest 1 1 nextMarked)

/-! ## Quoted and empty first lines -/

/-- The first cell keeps the characters with which the text opens it. -/
theorem records_front {line : String} {lines : List String} {front back : List Char} {r : Reader}
    (shape : line.toList = front ++ back)
    (taken : (front.map some).foldlM Reader.processChar Reader.reset = .ok r)
    {header : Record} {rest : List Record} (read : (records ⟨line :: lines, true⟩).1 = header :: rest) :
    ∀ cell ∈ header.cells.head?, r.firstField <+: cell.toList := by
  have goes := processLine_front shape taken
  rw [records, recordsFrom] at read
  cases processed : Reader.reset.processLine line with
  | error e =>
    rw [processed] at read
    cases read
  | ok next =>
    rw [processed] at read
    rw [processed] at goes
    have grows := processChars_firstField _ goes.symm
    by_cases complete : next.state = .startRecord
    · simp only [complete, if_true, List.cons.injEq] at read
      rw [← read.1]
      intro cell listed
      refine grows.trans ?_
      unfold Reader.firstField
      cases fields : next.fields with
      | nil => simp [fields] at listed
      | cons first others =>
        simp only [fields, List.head?_cons, Option.mem_def, Option.some.injEq] at listed
        exact listed ▸ List.prefix_refl _
    · simp only [complete, if_false] at read
      intro cell listed
      exact grows.trans (recordsFrom_firstField true lines next 1 1 read cell listed)

/-- The line ends a text can begin with, and no text at all. -/
inductive OpensWithLineEnd : List Char → List Char → List Char → Prop where
  | nothing : OpensWithLineEnd [] [] []
  | lineFeed (rest : List Char) : OpensWithLineEnd ('\n' :: rest) ['\n'] rest
  | carriageReturn (rest : List Char) (alone : rest.head? ≠ some '\n') :
      OpensWithLineEnd ('\r' :: rest) ['\r'] rest
  | both (rest : List Char) : OpensWithLineEnd ('\r' :: '\n' :: rest) ['\r', '\n'] rest

theorem opensWithLineEnd {chars : List Char} (opens : ∀ c ∈ chars.head?, c = '\n' ∨ c = '\r') :
    ∃ lineEnd rest, OpensWithLineEnd chars lineEnd rest := by
  cases chars with
  | nil => exact ⟨_, _, .nothing⟩
  | cons c rest =>
    rcases opens c (by simp) with rfl | rfl
    · exact ⟨_, _, .lineFeed rest⟩
    · cases rest with
      | nil => exact ⟨_, _, .carriageReturn [] (by simp)⟩
      | cons d more =>
        by_cases pair : d = '\n'
        · subst pair
          exact ⟨_, _, .both more⟩
        · exact ⟨_, _, .carriageReturn (d :: more) (by simpa using pair)⟩

theorem OpensWithLineEnd.nothing_read {chars lineEnd rest : List Char}
    (opens : OpensWithLineEnd chars lineEnd rest) (none : lineEnd = []) : chars = [] := by
  cases opens with
  | nothing => rfl
  | lineFeed => cases none
  | carriageReturn => cases none
  | both => cases none

theorem OpensWithLineEnd.lines {chars lineEnd rest : List Char}
    (opens : OpensWithLineEnd chars lineEnd rest) (line : List Char) (some : line ++ lineEnd ≠ []) :
    splitLinesFrom line chars = String.ofList (line ++ lineEnd) :: splitLinesFrom [] rest := by
  cases opens with
  | nothing =>
    have filled : line.isEmpty = false := by
      rw [List.isEmpty_eq_false_iff]
      simpa using some
    simp [splitLinesFrom, filled]
  | lineFeed => rw [splitLinesFrom]
  | carriageReturn rest alone =>
    rw [splitLinesFrom]
    intro more same
    rw [same] at alone
    exact alone rfl
  | both => rw [splitLinesFrom]

/-- The mark alone on its line is a record of one cell. -/
theorem OpensWithLineEnd.marked_record {chars lineEnd rest : List Char}
    (opens : OpensWithLineEnd chars lineEnd rest) :
    Reader.reset.processLine (String.ofList (mark :: lineEnd)) =
      .ok ⟨.startRecord, [], [String.ofList [mark]]⟩ := by
  cases opens <;> decide

/-- An empty first line is a record without cells. -/
theorem OpensWithLineEnd.empty_record {chars lineEnd rest : List Char}
    (opens : OpensWithLineEnd chars lineEnd rest) (some : lineEnd ≠ []) :
    Reader.reset.processLine (String.ofList lineEnd) = .ok ⟨.startRecord, [], []⟩ := by
  cases opens
  · exact absurd rfl some
  all_goals decide

end PharmaIntel.Csv

namespace PharmaIntel.Contracts
open PharmaIntel.Base PharmaIntel.PyText PharmaIntel.Csv

/-- Nothing is yielded and a file error is raised. -/
def Refused (outcome : List SalesRowValidationResult × RowsEnd) : Prop :=
  outcome.1 = [] ∧ outcome.2.code.isSome

/-- Without a contract header the file is refused. -/
theorem improper_refused (ucd : UnicodeDatabase) {stream : TextStream} (maxRows : Nat)
    (decodable : (records stream).2 ≠ .undecodable) (improper : ¬ProperHeader (records stream).1) :
    Refused (iterSalesRowsV1Csv ucd stream maxRows) := by
  cases read : records stream with
  | mk records ending =>
    rw [read] at decodable improper
    cases records with
    | nil =>
      unfold iterSalesRowsV1Csv
      rw [read]
      cases ending with
      | endOfFile => exact ⟨rfl, rfl⟩
      | malformed lineNum => exact ⟨rfl, rfl⟩
      | undecodable => exact absurd rfl decodable
    | cons header rest =>
      have refused : ¬IsContractHeader (normalizeHeaders header.cells) :=
        fun proper => improper ⟨List.cons_ne_nil _ _, proper⟩
      obtain ⟨message, error⟩ := validateSalesHeaders_refuses refused
      unfold iterSalesRowsV1Csv
      rw [read]
      dsimp only
      rw [error]
      exact ⟨rfl, rfl⟩

theorem textStream_decodable (text : String) : (records (textStream text)).2 ≠ .undecodable :=
  recordsFrom_decodable _ _ _ _

theorem removeprefix_marked (cell : String) :
    removeprefix (String.ofList (mark :: cell.toList)) '\ufeff' = cell := by
  unfold removeprefix
  rw [String.toList_ofList]
  exact String.ofList_toList

theorem removeprefix_unmarked {cell : String} (unmarked : cell.toList.head? ≠ some mark) :
    removeprefix cell '\ufeff' = cell := by
  unfold removeprefix
  cases shape : cell.toList with
  | nil => rfl
  | cons c rest =>
    rw [shape] at unmarked
    exact if_neg fun same => unmarked (congrArg some same)

theorem columns_short : ∀ column ∈ salesRowsV1Columns, column.toList.length < fieldSizeLimit := by
  decide

theorem overlong_improper {header : Record} {rest : List Record}
    (long : ∀ cell ∈ header.cells.head?, Overlong cell.toList) : ¬ProperHeader (header :: rest) := by
  rintro ⟨_, proper⟩
  cases cells : header.cells with
  | nil =>
    have size := columnCount_nine proper
    simp [headersOf, cells, normalizeHeaders] at size
  | cons cell others =>
    obtain ⟨limit, unmarked⟩ := long cell (by simp [cells])
    have listed : cell ∈ headersOf (header :: rest) := by
      simp [headersOf, cells, normalizeHeaders, removeprefix_unmarked unmarked]
    have short := columns_short cell (proper.mem_iff.mp listed)
    omega

/-- Records that differ by the mark alone give the same results, or both files are refused. -/
theorem sameRecords_outcome (ucd : UnicodeDatabase) {text : String} (maxRows : Nat)
    (same : SameRecords (records (textStream text)) (records (textStream (withMark text)))) :
    iterSalesRowsV1Csv ucd (textStream (withMark text)) maxRows =
        iterSalesRowsV1Csv ucd (textStream text) maxRows ∨
      Refused (iterSalesRowsV1Csv ucd (textStream (withMark text)) maxRows) ∧
        Refused (iterSalesRowsV1Csv ucd (textStream text) maxRows) := by
  have decodable := textStream_decodable text
  have markedDecodable := textStream_decodable (withMark text)
  generalize first : records (textStream text) = plain at same
  generalize second : records (textStream (withMark text)) = marked at same
  cases same with
  | marked rowNumber cell cells rest ending bare =>
    left
    unfold iterSalesRowsV1Csv
    rw [first, second]
    have headers : validateSalesHeaders (String.ofList (mark :: cell.toList) :: cells) =
        validateSalesHeaders (cell :: cells) := by
      have names : normalizeHeaders (String.ofList (mark :: cell.toList) :: cells) =
          normalizeHeaders (cell :: cells) := by
        rw [normalizeHeaders, normalizeHeaders, removeprefix_marked, removeprefix_unmarked bare]
      rw [validateSalesHeaders, validateSalesHeaders, names]
    dsimp only
    rw [headers]
  | empty firstEnd secondEnd =>
    right
    refine ⟨improper_refused ucd maxRows markedDecodable ?_, improper_refused ucd maxRows decodable ?_⟩
    · rw [second]
      exact fun proper => proper.1 rfl
    · rw [first]
      exact fun proper => proper.1 rfl
  | overlong header rest firstEnd secondEnd long =>
    right
    refine ⟨improper_refused ucd maxRows markedDecodable ?_, improper_refused ucd maxRows decodable ?_⟩
    · rw [second]
      exact fun proper => proper.1 rfl
    · rw [first]
      exact overlong_improper long

/-! ## When the mark changes nothing -/

theorem splitLinesFrom_mark (chars : List Char) :
    splitLinesFrom [] (mark :: chars) = splitLinesFrom [mark] chars := by
  rw [splitLinesFrom]
  · rfl
  all_goals simp [mark]

/-- With an empty first line there is no contract header, marked or not. -/
theorem lineEnd_improper {text : String} {lineEnd rest : List Char}
    (opens : OpensWithLineEnd text.toList lineEnd rest) :
    ¬ProperHeader (records (textStream text)).1 ∧
      ¬ProperHeader (records (textStream (withMark text))).1 := by
  have single : ¬IsContractHeader [ removeprefix (String.ofList [mark]) '\ufeff'] :=
    fun proper => absurd proper.length_eq (by decide)
  have none : ¬IsContractHeader [] := fun proper => absurd proper.length_eq (by decide)
  refine ⟨?_, ?_⟩
  · rintro ⟨some, proper⟩
    unfold records textStream at some proper
    dsimp only at some proper
    by_cases empty : lineEnd = []
    · rw [opens.nothing_read empty] at some
      exact some rfl
    · rw [opens.lines [] (by simpa using empty), List.nil_append, recordsFrom,
        opens.empty_record empty] at proper
      exact none proper
  · rintro ⟨_, proper⟩
    unfold records textStream withMark at proper
    dsimp only at proper
    rw [String.toList_ofList, splitLinesFrom_mark, opens.lines [mark] (by simp), List.singleton_append,
      recordsFrom, opens.marked_record] at proper
    exact single proper

theorem columns_unquoted : ∀ column ∈ salesRowsV1Columns, column.toList.head? ≠ some '"' := by decide

/-- Behind the mark a quote is part of the name of the first column. -/
theorem quoted_improper {text : String} {chars : List Char} (quoted : text.toList = '"' :: chars) :
    ¬ProperHeader (records (textStream (withMark text))).1 := by
  obtain ⟨first, rest, lines, lead, _⟩ := splitLinesFrom_front [mark, '"'] chars mark (by simp)
  obtain ⟨more, line⟩ := lead
  have stream : textStream (withMark text) = ⟨first :: rest, true⟩ := by
    unfold textStream withMark
    rw [String.toList_ofList, quoted, splitLinesFrom_mark, splitLinesFrom]
    · rw [← lines]
      rfl
    all_goals simp
  rintro ⟨some, proper⟩
  obtain ⟨header, others, read⟩ := List.exists_cons_of_ne_nil some
  rw [read] at proper
  rw [stream] at read
  cases cells : header.cells with
  | nil =>
    have size := columnCount_nine proper
    simp [headersOf, cells, normalizeHeaders] at size
  | cons cell names =>
    have grown := records_front line.symm
      (by decide : ([mark, '"'].map Option.some).foldlM Reader.processChar Reader.reset =
        .ok ⟨.inField, [mark, '"'], []⟩) read cell (by simp [cells])
    obtain ⟨tail, shape⟩ := grown
    have listed : String.ofList ('"' :: tail) ∈ headersOf (header :: others) := by
      have opened : removeprefix cell '\ufeff' = String.ofList ('"' :: tail) := by
        unfold removeprefix
        rw [← shape]
        rfl
      simp [headersOf, cells, normalizeHeaders, opened]
    have column := columns_unquoted _ (proper.mem_iff.mp listed)
    rw [String.toList_ofList] at column
    exact column rfl

/-- The same results, and a file error with the mark exactly when there is one without it. -/
def Transparent (ucd : UnicodeDatabase) (text : String) (maxRows : Nat) : Prop :=
  (iterSalesRowsV1Csv ucd (textStream (withMark text)) maxRows).1 =
      (iterSalesRowsV1Csv ucd (textStream text) maxRows).1 ∧
    ((iterSalesRowsV1Csv ucd (textStream (withMark text)) maxRows).2.code.isSome ↔
      (iterSalesRowsV1Csv ucd (textStream text) maxRows).2.code.isSome)

theorem Refused.transparent {ucd : UnicodeDatabase} {text : String} {maxRows : Nat}
    (marked : Refused (iterSalesRowsV1Csv ucd (textStream (withMark text)) maxRows))
    (plain : Refused (iterSalesRowsV1Csv ucd (textStream text) maxRows)) :
    Transparent ucd text maxRows :=
  ⟨marked.1.trans plain.1.symm, fun _ => plain.2, fun _ => marked.2⟩

/-- A text whose first field is not quoted. -/
theorem unquoted_transparent (ucd : UnicodeDatabase) {text : String} (maxRows : Nat)
    (unmarked : text.toList.head? ≠ some mark) (unquoted : text.toList.head? ≠ some '"') :
    Transparent ucd text maxRows := by
  by_cases opens : ∀ c ∈ text.toList.head?, c = '\n' ∨ c = '\r'
  · obtain ⟨lineEnd, rest, opened⟩ := opensWithLineEnd opens
    obtain ⟨plain, marked⟩ := lineEnd_improper opened
    exact (improper_refused ucd maxRows (textStream_decodable _) marked).transparent
      (improper_refused ucd maxRows (textStream_decodable _) plain)
  · cases shape : text.toList with
    | nil => simp [shape] at opens
    | cons c chars =>
      rw [shape] at unmarked unquoted opens
      simp only [List.head?_cons, Option.mem_def, Option.some.injEq, forall_eq', not_or] at opens
      have same := records_withMark shape (fun c => unmarked (congrArg some c))
        (fun c => unquoted (congrArg some c)) opens
      rcases sameRecords_outcome ucd maxRows same with equal | ⟨marked, plain⟩
      · rw [Transparent, equal]
        exact ⟨rfl, Iff.rfl⟩
      · exact marked.transparent plain

/-- A contract header without rows is refused as well. -/
theorem rowless_refused (ucd : UnicodeDatabase) (text : String) {maxRows : Nat} (positive : 1 ≤ maxRows)
    (proper : ProperHeader (records (textStream text)).1)
    (rowless : rowRecords (records (textStream text)).1 = []) :
    Refused (iterSalesRowsV1Csv ucd (textStream text) maxRows) := by
  have outcome := outcome_of_read ucd positive (Prod.mk.eta (p := records (textStream text))).symm
  have yielded := outcome.yielded proper
  rw [rowless, List.length_nil, Nat.min_zero] at yielded
  refine ⟨List.eq_nil_of_length_eq_zero yielded, ?_⟩
  cases ending : (records (textStream text)).2 with
  | endOfFile => rw [outcome.noDataRows.mpr ⟨ending, Or.inr ⟨proper, rowless⟩⟩]; rfl
  | malformed lineNum =>
    rw [outcome.malformed.mpr ⟨⟨lineNum, ending⟩, Or.inr ⟨proper, by rw [rowless]; exact Nat.zero_le _⟩⟩]
    rfl
  | undecodable => exact absurd ending (textStream_decodable text)

/-- A contract header under no limit at all raises no file error. -/
theorem unlimited_unrefused (ucd : UnicodeDatabase) {text : String}
    (proper : ProperHeader (records (textStream text)).1) :
    (iterSalesRowsV1Csv ucd (textStream text) 0).2.code = none := by
  obtain ⟨some, header⟩ := proper
  cases read : records (textStream text) with
  | mk records ending =>
    rw [read] at some header
    cases records with
    | nil => exact absurd rfl some
    | cons first rest =>
      have accepted := @validateSalesHeaders_accepts first.cells header
      rw [iterSalesRowsV1Csv, read]
      dsimp only
      rw [accepted]
      rfl

/-- The mark changes nothing, except where the text starts with a quote and there is
something to yield: a contract header with rows under it, or a limit that is refused. -/
theorem mark_transparent_iff (ucd : UnicodeDatabase) (text : String) (maxRows : Nat)
    (unmarked : text.toList.head? ≠ some mark) :
    Transparent ucd text maxRows ↔
      ¬(text.toList.head? = some '"' ∧ ProperHeader (records (textStream text)).1 ∧
        (maxRows = 0 ∨ rowRecords (records (textStream text)).1 ≠ [])) := by
  by_cases quoted : text.toList.head? = some '"'
  · obtain ⟨chars, shape⟩ := List.head?_eq_some_iff.mp quoted
    have marked := improper_refused ucd maxRows (textStream_decodable _) (quoted_improper shape)
    constructor
    · rintro ⟨results, errors⟩ ⟨_, proper, yields⟩
      rcases Nat.eq_zero_or_pos maxRows with zero | positive
      · subst zero
        rw [unlimited_unrefused ucd proper] at errors
        exact absurd (errors.mp marked.2) (by decide)
      · have rows := yields.resolve_left (Nat.pos_iff_ne_zero.mp positive)
        have outcome := outcome_of_read ucd positive (Prod.mk.eta (p := records (textStream text))).symm
        have yielded := outcome.yielded proper
        rw [← results, marked.1, List.length_nil] at yielded
        have size := List.length_pos_of_ne_nil rows
        omega
    · intro allowed
      refine marked.transparent ?_
      by_cases proper : ProperHeader (records (textStream text)).1
      · have limits : ¬(maxRows = 0 ∨ rowRecords (records (textStream text)).1 ≠ []) :=
          fun yields => allowed ⟨quoted, proper, yields⟩
        rw [not_or, not_not] at limits
        exact rowless_refused ucd text (Nat.pos_of_ne_zero limits.1) proper limits.2
      · exact improper_refused ucd maxRows (textStream_decodable _) proper
  · exact ⟨fun _ both => quoted both.1, fun _ => unquoted_transparent ucd maxRows unmarked quoted⟩

/-- The contract header with a valid and a short row under it. -/
def plainFile : String := Sample.header ++ Sample.line "A-1" "2.000" "1000.00" ++ "A-2\n"

theorem mark_transparent_iff_sample :
    Transparent asciiDatabase plainFile 5 ∧
      (iterSalesRowsV1Csv asciiDatabase (textStream plainFile) 5).1.map SalesRowValidationResult.isValid =
        [true, false] :=
  ⟨(mark_transparent_iff asciiDatabase plainFile 5 (by decide +kernel)).mpr
    (fun quoted => absurd quoted.1 (by decide +kernel)), by decide +kernel⟩

/-- A quoted first column name, and one short row under the contract header. -/
def quotedHeader : String :=
  "\"source_record_id\",transaction_date,product_code,territory_code,hospital_code," ++
    "sales_representative_code,quantity,revenue_amount,currency_code\nA-1"

theorem quotedHeader_yields :
    (iterSalesRowsV1Csv asciiDatabase (textStream quotedHeader) 5).1.length = 1 := by decide +kernel

/-- With the mark in front the row of the same text is lost. -/
theorem quotedHeader_opaque : ¬∀ text maxRows, text.toList.head? ≠ some mark →
    Transparent asciiDatabase text maxRows := by
  intro all
  obtain ⟨results, _⟩ := all quotedHeader 5 (by decide +kernel)
  obtain ⟨chars, shape⟩ := List.head?_eq_some_iff.mp
    (by decide +kernel : quotedHeader.toList.head? = some '"')
  have marked := improper_refused asciiDatabase 5 (textStream_decodable _) (quoted_improper shape)
  have yields := quotedHeader_yields
  rw [← results, marked.1] at yields
  cases yields

end PharmaIntel.Contracts
