import Mathlib
import PharmaIntel.Inspection
import PharmaIntel.RowNumbers

/-! `csv.writer(output, lineterminator="\n")` in its default dialect, and what the reader makes of
a file that it wrote: the same cells, on the lines where they were written. -/

namespace PharmaIntel.Csv
open PharmaIntel.Base

/-! ## The writer -/

/-- A character that makes the writer quote its field. -/
def isSpecial (c : Char) : Bool := c = ',' || c = '"' || c = '\n' || c = '\r'

def doubled (c : Char) : List Char := if c = '"' then ['"', '"'] else [c]

def quoted (field : List Char) : List Char := '"' :: (field.flatMap doubled ++ ['"'])

/-- `join_append`. -/
def written (field : List Char) : List Char := if field.any isSpecial then quoted field else field

def joined : List String → List Char
  | [] => []
  | [field] => written field.toList
  | field :: rest => written field.toList ++ ',' :: joined rest

/-- `writerow`; the line of a single empty field would be empty, so that one is quoted. -/
def writerow (row : List String) : List Char := (if row = [""] then quoted [] else joined row) ++ ['\n']

def writerows (rows : List (List String)) : List Char := rows.flatMap writerow

/-- The line ends inside a text. -/
def lineEnds : List Char → Nat
  | [] => 0
  | '\r' :: '\n' :: rest => lineEnds rest + 1
  | '\r' :: rest => lineEnds rest + 1
  | '\n' :: rest => lineEnds rest + 1
  | _ :: rest => lineEnds rest

/-- The lines that a row takes in the file. -/
def rowLines (row : List String) : Nat := (row.map (fun cell => lineEnds cell.toList)).sum + 1

/-- The records of rows that are written after so many lines. -/
def writtenRecords : Nat → List (List String) → List Record
  | _, [] => []
  | before, row :: rest => ⟨before + 1, row⟩ :: writtenRecords (before + rowLines row) rest

/-! ## Reading within a line -/

/-- The reader behind these characters of a line. -/
def Reader.feed (r : Reader) (chars : List Char) : Except Error Reader :=
  (chars.map some).foldlM Reader.processChar r

theorem feed_append {r now : Reader} {line : List Char} (fed : r.feed line = .ok now) (chars : List Char) :
    r.feed (line ++ chars) = now.feed chars := by
  rw [Reader.feed, List.map_append, List.foldlM_append]
  change (r.feed line >>= fun next => (chars.map some).foldlM Reader.processChar next) = _
  rw [fed]
  rfl

theorem feed_snoc {r now next : Reader} {line : List Char} {c : Char} (fed : r.feed line = .ok now)
    (processed : now.processChar (some c) = .ok next) : r.feed (line ++ [c]) = .ok next := by
  rw [feed_append fed, Reader.feed, List.map_singleton, List.foldlM_cons, processed]
  rfl

theorem processLine_feed {r now : Reader} {line : List Char} (fed : r.feed line = .ok now) :
    r.processLine (String.ofList line) = now.processChar none := by
  rw [Reader.processLine, String.toList_ofList, List.foldlM_append]
  change (r.feed line >>= fun next => [none].foldlM Reader.processChar next) = _
  rw [fed]
  change [none].foldlM Reader.processChar now = _
  rw [List.foldlM_cons]
  cases now.processChar none <;> rfl

/-- From the reader at the beginning of a line, of which `line` is read, these characters break
the reading off. -/
def Breaks (r : Reader) (line chars : List Char) : Prop :=
  ∀ start lineNum, ∃ last, (recordsFrom true r start lineNum (splitLinesFrom line chars)).2 = .malformed last

/-- From the reader at the beginning of a line, of which `line` is read, these characters end a
record on the last of so many lines, and the rest begins a new line; or they break the reading
off, but only in a file with a `large` cell. -/
def Ends (large : Prop) (r : Reader) (line chars rest : List Char) (cells : List String) (count : Nat) : Prop :=
  (∃ own, splitLinesFrom line (chars ++ rest) = own ++ splitLinesFrom [] rest ∧ Reads r own cells ∧
    own.length = count) ∨ large ∧ Breaks r line (chars ++ rest)

section Steps
variable {large : Prop} {r now next : Reader} {line chars rest : List Char} {cells : List String} {count : Nat}

theorem splitLinesFrom_other {c : Char} (newline : c ≠ '\n') (carriage : c ≠ '\r') (line chars : List Char) :
    splitLinesFrom line (c :: chars) = splitLinesFrom (line ++ [c]) chars := by
  rw [splitLinesFrom]
  · exact fun _ same _ => carriage same
  · exact carriage
  · exact newline

theorem splitLinesFrom_return (line : List Char) (single : chars.head? ≠ some '\n') :
    splitLinesFrom line ('\r' :: chars) = String.ofList (line ++ ['\r']) :: splitLinesFrom [] chars := by
  rw [splitLinesFrom]
  rintro tail rfl
  exact single rfl

/-- The first line takes the first character with it. -/
theorem splitLinesFrom_first (line : List Char) (c : Char) (chars : List Char) :
    ∃ more tail, splitLinesFrom line (c :: chars) = String.ofList (line ++ c :: more) :: tail := by
  induction chars generalizing line c with
  | nil =>
    by_cases newline : c = '\n'
    · subst newline
      exact ⟨[], [], by simp [splitLinesFrom]⟩
    · by_cases carriage : c = '\r'
      · subst carriage
        exact ⟨[], [], by simp [splitLinesFrom]⟩
      · refine ⟨[], [], ?_⟩
        rw [splitLinesFrom_other newline carriage, splitLinesFrom, if_neg (by simp)]
  | cons d chars ih =>
    by_cases newline : c = '\n'
    · subst newline
      exact ⟨[], _, by rw [splitLinesFrom]⟩
    · by_cases carriage : c = '\r'
      · subst carriage
        by_cases pair : d = '\n'
        · subst pair
          exact ⟨['\n'], _, by rw [splitLinesFrom]⟩
        · exact ⟨[], _, splitLinesFrom_return line (by simpa using pair)⟩
      · obtain ⟨more, tail, lines⟩ := ih (line ++ [c]) d
        refine ⟨d :: more, tail, ?_⟩
        rw [splitLinesFrom_other newline carriage, lines, List.append_assoc, List.singleton_append]

/-- A character within the line. -/
theorem Ends.other {c : Char} (newline : c ≠ '\n') (carriage : c ≠ '\r')
    (ends : Ends large r (line ++ [c]) chars rest cells count) :
    Ends large r line (c :: chars) rest cells count := by
  unfold Ends Breaks
  rw [List.cons_append, splitLinesFrom_other newline carriage]
  exact ends

theorem Ends.word {word : List Char} (within : ∀ c ∈ word, c ≠ '\n' ∧ c ≠ '\r')
    (ends : Ends large r (line ++ word) chars rest cells count) :
    Ends large r line (word ++ chars) rest cells count := by
  induction word generalizing line with
  | nil => rwa [List.append_nil] at ends
  | cons c word ih =>
    obtain ⟨newline, carriage⟩ := within c List.mem_cons_self
    refine Ends.other newline carriage (ih (fun d member => within d (List.mem_cons_of_mem c member)) ?_)
    rwa [List.append_assoc, List.singleton_append]

/-- A line end that leaves the record open. -/
theorem Ends.open (lineEnd : List Char) (fed : r.feed (line ++ lineEnd) = .ok now)
    (inside : now.state = .inQuotedField) (lines : splitLinesFrom line (lineEnd ++ (chars ++ rest)) =
      String.ofList (line ++ lineEnd) :: splitLinesFrom [] (chars ++ rest))
    (ends : Ends large now [] chars rest cells count) :
    Ends large r line (lineEnd ++ chars) rest cells (count + 1) := by
  have processed : r.processLine (String.ofList (line ++ lineEnd)) = .ok now := by
    rw [processLine_feed fed, Reader.processChar, inside]
  rcases ends with ⟨own, split, reads, size⟩ | ⟨big, breaks⟩
  · refine Or.inl ⟨String.ofList (line ++ lineEnd) :: own, ?_, .more processed (by simp [inside]) reads,
      by simp [size]⟩
    rw [List.append_assoc, lines, split, List.cons_append]
  · refine Or.inr ⟨big, ?_⟩
    intro start lineNum
    rw [List.append_assoc, lines, recordsFrom, processed]
    dsimp only
    rw [if_neg (by simp [inside])]
    exact breaks start (lineNum + 1)

/-- A character that the reader refuses, `front` being what its line holds before it. -/
theorem Ends.stop (big : large) {front : List Char} {c : Char} {e : Error} (fed : r.feed front = .ok now)
    (refused : now.processChar (some c) = .error e)
    (lines : ∃ more tail, splitLinesFrom line (chars ++ rest) = String.ofList (front ++ c :: more) :: tail) :
    Ends large r line chars rest cells count := by
  obtain ⟨more, tail, split⟩ := lines
  have broken : r.processLine (String.ofList (front ++ c :: more)) = .error e := by
    rw [Reader.processLine, String.toList_ofList, List.map_append, List.append_assoc, List.foldlM_append]
    change (r.feed front >>= fun next => _) = _
    rw [fed]
    change ((c :: more).map some ++ [none]).foldlM Reader.processChar now = _
    rw [List.map_cons, List.cons_append, List.foldlM_cons, refused]
    rfl
  refine Or.inr ⟨big, ?_⟩
  intro start lineNum
  rw [split, recordsFrom, broken]
  exact ⟨_, rfl⟩

/-- The line end that completes the record. -/
theorem ends_record {fields : List String} (fed : r.feed line = .ok now)
    (ended : now.processChar (some '\n') = .ok ⟨.eatCrnl, [], fields⟩) :
    Ends large r line ['\n'] rest fields 1 := by
  have processed : r.processLine (String.ofList (line ++ ['\n'])) = .ok ⟨.startRecord, [], fields⟩ := by
    rw [processLine_feed (feed_snoc fed ended)]
    rfl
  refine Or.inl ⟨[String.ofList (line ++ ['\n'])], ?_, .last processed rfl, rfl⟩
  rw [List.singleton_append, List.singleton_append, splitLinesFrom]

/-! ## Reading a field -/

theorem doubled_head (field : List Char) : (field.flatMap doubled ++ '"' :: chars).head? ≠ some '\n' ↔
    field.head? ≠ some '\n' := by
  cases field with
  | nil => simp
  | cons c field =>
    by_cases quote : c = '"'
    · subst quote
      simp [doubled]
    · simp [doubled, quote]

/-- A character that the reader adds to the field, if there is room for it. -/
theorem Ends.add {before after : State} {field front : List Char} {fields : List String} {c : Char}
    (room : large ∨ field.length < fieldSizeLimit) (fed : r.feed front = .ok ⟨before, field, fields⟩)
    (adds : Reader.processChar ⟨before, field, fields⟩ (some c) = Reader.addChar ⟨after, field, fields⟩ c)
    (lines : ∃ more tail, splitLinesFrom line (chars ++ rest) = String.ofList (front ++ c :: more) :: tail)
    (follow : r.feed (front ++ [c]) = .ok ⟨after, field ++ [c], fields⟩ → Ends large r line chars rest cells count) :
    Ends large r line chars rest cells count := by
  by_cases short : field.length < fieldSizeLimit
  · have added : Reader.addChar ⟨after, field, fields⟩ c = .ok ⟨after, field ++ [c], fields⟩ := by
      rw [Reader.addChar, if_neg (by simpa using short)]
    exact follow (feed_snoc fed (adds.trans added))
  · have full : Reader.addChar ⟨after, field, fields⟩ c = .error .fieldTooLarge := by
      rw [Reader.addChar, if_pos (by simpa using short)]
    exact Ends.stop (room.resolve_right short) fed (adds.trans full) lines

theorem quoted_other {field : List Char} {fields : List String} {c : Char} (other : c ≠ '"') :
    Reader.processChar ⟨.inQuotedField, field, fields⟩ (some c) =
      Reader.addChar ⟨.inQuotedField, field, fields⟩ c := by
  rw [Reader.processChar]
  dsimp only
  rw [if_neg other]

theorem room_first {field content : List Char} {c : Char}
    (room : large ∨ field.length + (c :: content).length ≤ fieldSizeLimit) :
    large ∨ field.length < fieldSizeLimit := by
  refine room.imp_right ?_
  rw [List.length_cons]
  omega

theorem room_rest {field content : List Char} {c : Char}
    (room : large ∨ field.length + (c :: content).length ≤ fieldSizeLimit) :
    large ∨ (field ++ [c]).length + content.length ≤ fieldSizeLimit := by
  refine room.imp_right ?_
  rw [List.length_cons, List.length_append, List.length_singleton]
  omega

/-- The reader takes a quoted field as it was before its quotes were doubled, over however many
lines it is spread. -/
theorem ends_quoted (content : List Char) {field : List Char} {fields : List String}
    (fed : r.feed line = .ok ⟨.inQuotedField, field, fields⟩)
    (room : large ∨ field.length + content.length ≤ fieldSizeLimit)
    (follow : ∀ r line, Reader.feed r line = .ok ⟨.quoteInQuotedField, field ++ content, fields⟩ →
      Ends large r line chars rest cells count) :
    Ends large r line (content.flatMap doubled ++ '"' :: chars) rest cells (count + lineEnds content) := by
  fun_induction lineEnds content generalizing r line field with
  | case1 =>
    rw [List.append_nil] at follow
    exact Ends.other (by decide) (by decide) (follow r _ (feed_snoc fed rfl))
  | case2 content ih =>
    refine Ends.add (room_first room) fed (quoted_other (by decide : '\r' ≠ '"'))
      (splitLinesFrom_first line '\r' _) (fun first => ?_)
    refine Ends.add (room_first (room_rest room)) first (quoted_other (by decide : '\n' ≠ '"'))
      ⟨[], splitLinesFrom [] (content.flatMap doubled ++ '"' :: (chars ++ rest)),
        by simp [splitLinesFrom, doubled]⟩ (fun second => ?_)
    rw [List.append_assoc] at second
    refine Ends.open ['\r', '\n'] second rfl (by simp [splitLinesFrom]) (ih rfl (room_rest (room_rest room)) ?_)
    intro other begun inside
    exact follow other begun (by simpa using inside)
  | case3 content single ih =>
    refine Ends.add (room_first room) fed (quoted_other (by decide : '\r' ≠ '"'))
      (splitLinesFrom_first line '\r' _) (fun first => ?_)
    have apart : (content.flatMap doubled ++ '"' :: chars).head? ≠ some '\n' := by
      rw [doubled_head]
      intro head
      obtain ⟨tail, rfl⟩ := List.head?_eq_some_iff.mp head
      exact single tail rfl
    refine Ends.open ['\r'] first rfl ?_ (ih rfl (room_rest room) ?_)
    · rw [List.singleton_append, splitLinesFrom_return]
      rw [List.head?_append_of_ne_nil]
      · exact apart
      · simp
    · intro other begun inside
      exact follow other begun (by simpa using inside)
  | case4 content ih =>
    refine Ends.add (room_first room) fed (quoted_other (by decide : '\n' ≠ '"'))
      (splitLinesFrom_first line '\n' _) (fun first => ?_)
    refine Ends.open ['\n'] first rfl (by simp [splitLinesFrom]) (ih rfl (room_rest room) ?_)
    intro other begun inside
    exact follow other begun (by simpa using inside)
  | case5 c content pair carriage newline ih =>
    have later : ∀ {next : List Char}, r.feed (line ++ next) = .ok ⟨.inQuotedField, field ++ [c], fields⟩ →
        Ends large r (line ++ next) (content.flatMap doubled ++ '"' :: chars) rest cells
          (count + lineEnds content) := by
      intro next inside
      refine ih inside (room_rest room) ?_
      intro other begun closed
      exact follow other begun (by simpa using closed)
    rw [List.flatMap_cons, List.append_assoc]
    by_cases quote : c = '"'
    · subst quote
      -- the second of the two quotes is the one that is added
      have first : r.feed (line ++ ['"']) = .ok ⟨.quoteInQuotedField, field, fields⟩ := feed_snoc fed rfl
      have adds : Reader.processChar ⟨.quoteInQuotedField, field, fields⟩ (some '"') =
          Reader.addChar ⟨.inQuotedField, field, fields⟩ '"' := rfl
      refine Ends.add (room_first room) first adds ?_ (fun second => ?_)
      · rw [doubled, if_pos rfl, List.cons_append, List.cons_append, List.cons_append,
          splitLinesFrom_other (by decide) (by decide)]
        exact splitLinesFrom_first (line ++ ['"']) '"' _
      · rw [List.append_assoc] at second
        exact Ends.word (by simp [doubled]) (later second)
    · rw [doubled, if_neg quote]
      exact Ends.add (room_first room) fed (quoted_other quote) (splitLinesFrom_first line c _)
        (fun first => Ends.other newline carriage (later first))

/-- A delimiter or a line end saves the field. -/
def Closing (state : State) : Prop := state ≠ .inQuotedField ∧ state ≠ .eatCrnl

theorem comma_saves {state : State} (closing : Closing state) (field : List Char) (fields : List String) :
    Reader.processChar ⟨state, field, fields⟩ (some ',') =
      .ok ⟨.startField, [], fields ++ [String.ofList field]⟩ := by
  obtain ⟨unquoted, unended⟩ := closing
  cases state with
  | inQuotedField => exact absurd rfl unquoted
  | eatCrnl => exact absurd rfl unended
  | startRecord | startField | inField | quoteInQuotedField => rfl

theorem newline_saves {state : State} (closing : Closing state) (begun : state ≠ .startRecord) (field : List Char)
    (fields : List String) : Reader.processChar ⟨state, field, fields⟩ (some '\n') =
      .ok ⟨.eatCrnl, [], fields ++ [String.ofList field]⟩ := by
  obtain ⟨unquoted, unended⟩ := closing
  cases state with
  | inQuotedField => exact absurd rfl unquoted
  | eatCrnl => exact absurd rfl unended
  | startRecord => exact absurd rfl begun
  | startField | inField | quoteInQuotedField => rfl

theorem plain_of_unspecial {c : Char} (unspecial : isSpecial c = false) : Plain c := by
  simpa [isSpecial, Plain, and_assoc] using unspecial

theorem lineEnds_plain {content : List Char} (plain : ∀ c ∈ content, Plain c) : lineEnds content = 0 := by
  fun_induction lineEnds content with
  | case1 => rfl
  | case2 content ih => exact absurd rfl (plain '\r' (by simp)).2.2.2
  | case3 content single ih => exact absurd rfl (plain '\r' (by simp)).2.2.2
  | case4 content ih => exact absurd rfl (plain '\n' (by simp)).2.2.1
  | case5 c content pair carriage newline ih => exact ih (fun d member => plain d (List.mem_cons_of_mem c member))

/-- Plain characters in an open field. -/
theorem ends_plain (content : List Char) {field : List Char} {fields : List String}
    (plain : ∀ c ∈ content, Plain c) (fed : r.feed line = .ok ⟨.inField, field, fields⟩)
    (room : large ∨ field.length + content.length ≤ fieldSizeLimit)
    (follow : ∀ r line, Reader.feed r line = .ok ⟨.inField, field ++ content, fields⟩ →
      Ends large r line chars rest cells count) :
    Ends large r line (content ++ chars) rest cells count := by
  induction content generalizing line field with
  | nil =>
    rw [List.append_nil] at follow
    exact follow r line fed
  | cons c content ih =>
    obtain ⟨comma, quote, newline, carriage⟩ := plain c List.mem_cons_self
    have adds : Reader.processChar ⟨.inField, field, fields⟩ (some c) =
        Reader.addChar ⟨.inField, field, fields⟩ c := by
      rw [Reader.processChar]
      simp [Reader.processInField, endsLine, comma, newline, carriage]
    refine Ends.add (room_first room) fed adds (splitLinesFrom_first line c _) (fun first => ?_)
    refine Ends.other newline carriage (ih (fun d member => plain d (List.mem_cons_of_mem c member)) first
      (room_rest room) ?_)
    intro other begun inside
    exact follow other begun (by simpa using inside)

/-- The reader takes a field as it was before it was written. -/
theorem ends_field (content : List Char) {state : State} {fields : List String}
    (opens : state = .startRecord ∨ state = .startField) (fed : r.feed line = .ok ⟨state, [], fields⟩)
    (room : large ∨ content.length ≤ fieldSizeLimit)
    (follow : ∀ r line ends, Reader.feed r line = .ok ⟨ends, content, fields⟩ → Closing ends →
      (ends = .startRecord → state = .startRecord ∧ content = []) → Ends large r line chars rest cells count) :
    Ends large r line (written content ++ chars) rest cells (count + lineEnds content) := by
  unfold written
  split_ifs with special
  · have opened : Reader.processChar ⟨state, [], fields⟩ (some '"') = .ok ⟨.inQuotedField, [], fields⟩ := by
      rcases opens with rfl | rfl <;> rfl
    rw [quoted, List.cons_append, List.append_assoc, List.singleton_append]
    refine Ends.other (by decide) (by decide) (ends_quoted content (feed_snoc fed opened) ?_ ?_)
    · simpa using room
    · intro other begun closed
      exact follow other begun _ closed (by simp [Closing]) (by simp)
  · have plain : ∀ c ∈ content, Plain c :=
      fun c member => plain_of_unspecial
        (by simpa using fun marked => special (List.any_eq_true.mpr ⟨c, member, marked⟩))
    rw [lineEnds_plain plain]
    cases content with
    | nil =>
      refine follow r line state fed ?_ (fun begins => ⟨begins, rfl⟩)
      rcases opens with rfl | rfl <;> simp [Closing]
    | cons c content =>
      obtain ⟨_, _, newline, carriage⟩ := plain c List.mem_cons_self
      have first : r.feed (line ++ [c]) = .ok ⟨.inField, [c], fields⟩ := by
        rw [feed_append fed]
        exact processChars_word [] (by simpa using plain c List.mem_cons_self) opens rfl (by simp [fieldSizeLimit])
      refine Ends.other newline carriage (ends_plain content
        (fun d member => plain d (List.mem_cons_of_mem c member)) first ?_ ?_)
      · rwa [List.length_singleton, Nat.add_comm]
      · intro other begun inside
        exact follow other begun .inField inside (by simp [Closing]) (by simp)

/-! ## Reading a row -/

theorem rowLines_cons (field : String) (row : List String) :
    rowLines (field :: row) = rowLines row + lineEnds field.toList := by
  simp only [rowLines, List.map_cons, List.sum_cons]
  omega

/-- The fields of a row become the cells of one record. -/
theorem ends_joined (row : List String) (nonempty : row ≠ []) {state : State} {fields : List String}
    (opens : state = .startRecord ∨ state = .startField) (fed : r.feed line = .ok ⟨state, [], fields⟩)
    (shown : state = .startRecord → row ≠ [""]) (room : ∀ cell ∈ row, large ∨ cell.length ≤ fieldSizeLimit) :
    Ends large r line (joined row ++ ['\n']) rest (fields ++ row) (rowLines row) := by
  induction row generalizing r line state fields with
  | nil => exact absurd rfl nonempty
  | cons field row ih =>
    have short : large ∨ field.toList.length ≤ fieldSizeLimit := by
      rw [String.length_toList]
      exact room field List.mem_cons_self
    rw [rowLines_cons]
    cases row with
    | nil =>
      refine ends_field field.toList opens fed short ?_
      intro r line ends inside closing first
      have begun : ends ≠ .startRecord := by
        intro begins
        obtain ⟨begins, empty⟩ := first begins
        exact shown begins (by rw [String.toList_eq_nil_iff.mp empty])
      have ended := newline_saves closing begun field.toList fields
      rw [String.ofList_toList] at ended
      exact ends_record inside ended
    | cons next row =>
      have split : joined (field :: next :: row) ++ ['\n'] =
          written field.toList ++ ',' :: (joined (next :: row) ++ ['\n']) := by
        simp [joined]
      rw [split]
      refine ends_field field.toList opens fed short ?_
      intro r line ends inside closing _
      have saved := comma_saves closing field.toList fields
      rw [String.ofList_toList] at saved
      have later := ih (by simp) (Or.inr rfl) (feed_snoc inside saved) (by simp)
        (fun cell member => room cell (List.mem_cons_of_mem field member))
      rw [List.append_assoc, List.singleton_append] at later
      exact Ends.other (by decide) (by decide) later

theorem ends_row (row : List String) (room : ∀ cell ∈ row, large ∨ cell.length ≤ fieldSizeLimit) :
    Ends large .reset [] (writerow row) rest row (rowLines row) := by
  unfold writerow
  split_ifs with blank
  · subst blank
    have inside : Reader.reset.feed (quoted []) = .ok ⟨.quoteInQuotedField, [], []⟩ := rfl
    have ended : Reader.processChar ⟨.quoteInQuotedField, [], []⟩ (some '\n') = .ok ⟨.eatCrnl, [], [""]⟩ := rfl
    exact Ends.word (by simp [quoted]) (ends_record inside ended)
  · cases row with
    | nil =>
      have ended : Reader.reset.processChar (some '\n') = .ok ⟨.eatCrnl, [], []⟩ := rfl
      exact ends_record rfl ended
    | cons field row =>
      have opened : Reader.reset.feed [] = .ok ⟨.startRecord, [], []⟩ := rfl
      exact ends_joined (field :: row) (by simp) (Or.inl rfl) opened (fun _ => blank) room

end Steps

/-! ## Reading a file -/

/-- The lines of a written file fall into those of its rows, or a large cell breaks the reading off. -/
theorem writerows_spans {large : Prop} (rows : List (List String))
    (room : ∀ row ∈ rows, ∀ cell ∈ row, large ∨ cell.length ≤ fieldSizeLimit) (before : Nat) :
    (∃ spans, splitLinesFrom [] (writerows rows) = spanLines spans ∧
      numbered before spans = writtenRecords before rows) ∨ large ∧ Breaks .reset [] (writerows rows) := by
  induction rows generalizing before with
  | nil => exact Or.inl ⟨[], rfl, rfl⟩
  | cons row rows ih =>
    rcases @ends_row large (writerows rows) row (room row List.mem_cons_self) with
      ⟨own, split, reads, size⟩ | broken
    · have lines : splitLinesFrom [] (writerows (row :: rows)) = own ++ splitLinesFrom [] (writerows rows) := split
      rcases ih (fun other member => room other (List.mem_cons_of_mem row member)) (before + rowLines row) with
        ⟨spans, rest, records⟩ | ⟨big, breaks⟩
      · refine Or.inl ⟨⟨own, row, reads⟩ :: spans, ?_, ?_⟩
        · rw [lines, rest]
          rfl
        · rw [numbered, writtenRecords]
          dsimp only
          rw [size, records]
      · refine Or.inr ⟨big, ?_⟩
        intro start lineNum
        rw [lines, reads.recordsFrom]
        exact breaks _ _
    · exact Or.inr broken

/-- The reader gives back the rows that were written, each on the line where it begins; or a cell
exceeds its limit and it ends with an error. -/
theorem records_written (rows : List (List String)) :
    records { lines := splitLinesFrom [] (writerows rows) } = (writtenRecords 0 rows, .endOfFile) ∨
      (∃ row ∈ rows, ∃ cell ∈ row, fieldSizeLimit < cell.length) ∧
        ∃ lineNum, (records { lines := splitLinesFrom [] (writerows rows) }).2 = .malformed lineNum := by
  have room : ∀ row ∈ rows, ∀ cell ∈ row, (∃ row ∈ rows, ∃ cell ∈ row, fieldSizeLimit < cell.length) ∨
      cell.length ≤ fieldSizeLimit := by
    intro row listed cell inside
    rcases Nat.lt_or_ge fieldSizeLimit cell.length with longer | within
    · exact Or.inl ⟨row, listed, cell, inside, longer⟩
    · exact Or.inr within
  rcases writerows_spans rows room 0 with ⟨spans, lines, same⟩ | ⟨big, breaks⟩
  · left
    rw [lines, records_spanLines, same]
  · exact Or.inr ⟨big, breaks 1 0⟩

/-! ## Cells that come back -/

/-- What reading one character can do to the open record. -/
inductive Moves (r : Reader) : Reader → Prop where
  | turns (state : State) : Moves r { r with state := state }
  | saves (state : State) : Moves r { r.saveField with state := state }
  | adds (state : State) (c : Char) (room : r.field.length < fieldSizeLimit) :
      Moves r ⟨state, r.field ++ [c], r.fields⟩

section Moving
variable {r next : Reader} {c : Option Char}

theorem addChar_moves {state : State} {c : Char} (added : ({ r with state := state } : Reader).addChar c = .ok next) :
    Moves r next := by
  unfold Reader.addChar at added
  split_ifs at added with full
  cases added
  exact .adds state c (not_le.mp full)

theorem processStartField_moves (processed : r.processStartField c = .ok next) : Moves r next := by
  unfold Reader.processStartField at processed
  cases c with
  | none =>
    cases processed
    exact .saves _
  | some ch =>
    dsimp only at processed
    split_ifs at processed
    · cases processed
      exact .saves _
    · cases processed
      exact .turns _
    · cases processed
      exact .saves _
    · exact addChar_moves processed

theorem processInField_moves (processed : r.processInField c = .ok next) : Moves r next := by
  unfold Reader.processInField at processed
  cases c with
  | none =>
    cases processed
    exact .saves _
  | some ch =>
    dsimp only at processed
    split_ifs at processed
    · cases processed
      exact .saves _
    · cases processed
      exact .saves _
    · exact @addChar_moves r next r.state ch processed

theorem processQuoteInQuotedField_moves (processed : r.processQuoteInQuotedField c = .ok next) : Moves r next := by
  unfold Reader.processQuoteInQuotedField at processed
  cases c with
  | none =>
    cases processed
    exact .saves _
  | some ch =>
    dsimp only at processed
    split_ifs at processed
    · exact addChar_moves processed
    · cases processed
      exact .saves _
    · cases processed
      exact .saves _

theorem processChar_moves (processed : r.processChar c = .ok next) : Moves r next := by
  unfold Reader.processChar at processed
  split at processed
  · split_ifs at processed
    · cases processed
      exact .turns r.state
    · cases processed
      exact .turns _
    · exact processStartField_moves processed
  · exact processStartField_moves processed
  · exact processInField_moves processed
  · split at processed
    · cases processed
      exact .turns r.state
    · split_ifs at processed
      · cases processed
        exact .turns _
      · exact @addChar_moves r next r.state _ processed
  · exact processQuoteInQuotedField_moves processed
  · split at processed
    · cases processed
      exact .turns _
    · split_ifs at processed
      cases processed
      exact .turns r.state

/-- No cell is larger than the limit, nor what is read of the next one. -/
structure Limited (r : Reader) : Prop where
  field : r.field.length ≤ fieldSizeLimit
  cells : ∀ cell ∈ r.fields, cell.length ≤ fieldSizeLimit

theorem limited_reset : Limited .reset := ⟨Nat.zero_le _, by simp [Reader.reset]⟩

theorem Moves.limited (moves : Moves r next) (limited : Limited r) : Limited next := by
  cases moves with
  | turns state => exact ⟨limited.field, limited.cells⟩
  | saves state =>
    refine ⟨Nat.zero_le _, ?_⟩
    intro cell member
    rcases List.mem_append.mp member with saved | last
    · exact limited.cells cell saved
    · rw [List.mem_singleton.mp last, String.length_ofList]
      exact limited.field
  | adds state c room =>
    refine ⟨?_, limited.cells⟩
    simpa using room

theorem processChars_limited (chars : List (Option Char)) (limited : Limited r)
    (processed : chars.foldlM Reader.processChar r = .ok next) : Limited next := by
  induction chars generalizing r with
  | nil =>
    cases processed
    exact limited
  | cons c rest ih =>
    rw [List.foldlM_cons] at processed
    cases first : r.processChar c with
    | error e => simp [first, bind, Except.bind] at processed
    | ok middle =>
      rw [first] at processed
      exact ih ((processChar_moves first).limited limited) processed

theorem recordsFrom_limited (decodable : Bool) (lines : List String) (limited : Limited r) (start lineNum : Nat) :
    ∀ record ∈ (recordsFrom decodable r start lineNum lines).1, ∀ cell ∈ record.cells,
      cell.length ≤ fieldSizeLimit := by
  induction lines generalizing r start lineNum with
  | nil => simp [recordsFrom]
  | cons line rest ih =>
    rw [recordsFrom]
    cases processed : r.processLine line with
    | error e => simp
    | ok next =>
      have after := processChars_limited _ limited processed
      dsimp only
      by_cases complete : next.state = .startRecord
      · rw [if_pos complete]
        intro record member
        rcases List.mem_cons.mp member with rfl | later
        · exact after.cells
        · exact ih limited_reset (lineNum + 2) (lineNum + 1) record later
      · rw [if_neg complete]
        exact ih after start (lineNum + 1)

end Moving

theorem writtenRecords_cells (rows : List (List String)) (before : Nat) :
    (writtenRecords before rows).map Record.cells = rows := by
  induction rows generalizing before with
  | nil => rfl
  | cons row rows ih => rw [writtenRecords, List.map_cons, ih]

/-- Rows whose cells all keep to the limit are read as they were written. -/
theorem written_reads {rows : List (List String)}
    (short : ∀ row ∈ rows, ∀ cell ∈ row, cell.length ≤ fieldSizeLimit)
    (chunks : Inspection.Chunks (Utf8.encode (writerows rows))) :
    records (Codecs.textIOWrapper chunks.pieces) = (writtenRecords 0 rows, .endOfFile) := by
  rw [Codecs.textIOWrapper_encode chunks.whole.symm]
  rcases records_written rows with reads | ⟨⟨row, listed, cell, inside, longer⟩, _⟩
  · exact reads
  · exact absurd (short row listed cell inside) (by omega)

/-- A file that the writer wrote, encoded and then read in whatever pieces, gives back its rows,
each numbered by the line where it begins, exactly if no cell exceeds the reader's field limit;
if one does, the reading ends with an error. -/
theorem written_reads_iff (rows : List (List String)) (chunks : Inspection.Chunks (Utf8.encode (writerows rows))) :
    (records (Codecs.textIOWrapper chunks.pieces) = (writtenRecords 0 rows, .endOfFile) ↔
      ∀ row ∈ rows, ∀ cell ∈ row, cell.length ≤ fieldSizeLimit) ∧
    ((∃ row ∈ rows, ∃ cell ∈ row, fieldSizeLimit < cell.length) →
      ∃ lineNum, (records (Codecs.textIOWrapper chunks.pieces)).2 = .malformed lineNum) := by
  have limited : records (Codecs.textIOWrapper chunks.pieces) = (writtenRecords 0 rows, .endOfFile) →
      ∀ row ∈ rows, ∀ cell ∈ row, cell.length ≤ fieldSizeLimit := by
    rw [Codecs.textIOWrapper_encode chunks.whole.symm]
    intro reads row member
    have bounded := recordsFrom_limited true (splitLinesFrom [] (writerows rows)) limited_reset 1 0
    change ∀ record ∈ (records { lines := splitLinesFrom [] (writerows rows) }).1, _ at bounded
    rw [reads] at bounded
    rw [← writtenRecords_cells rows 0] at member
    obtain ⟨record, inside, rfl⟩ := List.mem_map.mp member
    exact bounded record inside
  refine ⟨⟨limited, fun short => written_reads short chunks⟩, ?_⟩
  rintro ⟨row, listed, cell, inside, longer⟩
  rw [Codecs.textIOWrapper_encode chunks.whole.symm] at limited ⊢
  rcases records_written rows with reads | ⟨_, broken⟩
  · exact absurd (limited reads row listed cell inside) (by omega)
  · exact broken

end PharmaIntel.Csv
