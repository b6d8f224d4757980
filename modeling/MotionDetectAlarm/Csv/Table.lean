import MotionDetectAlarm.Csv.File

namespace MotionDetectAlarm
namespace Csv

open Foundation

/-!
# Reading a table by column name

A caller that reads the header of a file and then calls `read_row` until it
returns false gets one row for each line, with each field under the name of its
column, wherever the blocks of the reader end.  The first line that does not fit
ends the reading with an exception that names the file and the line.

A table that is written with a line for each row is read back.
-/

variable {columnCount : Nat}

/-! ## Rows -/

/-- What a caller of `read_row` gets: the variables after a row, false, or an
exception. -/
abbrev RowAnswer (columnCount : Nat) := Except CsvError (Option (Vector Bytes columnCount))

/-- The answers to a number of calls on the same variables.  An exception ends
them. -/
def CSVReader.rows (reader : CSVReader columnCount) (cols : Vector Bytes columnCount) :
    Nat -> List (RowAnswer columnCount)
  | 0 => []
  | number + 1 =>
      match reader.readRow cols with
      | .error err => [.error err]
      | .ok (false, cols, after) => .ok none :: rows after cols number
      | .ok (true, cols, after) => .ok (some cols) :: rows after cols number

/-- The fields of a line. -/
def fieldsIn (line : Bytes) : List Bytes :=
  (lineText line).text.splitOn comma

/-- A line is short enough and has as many fields as the header has columns. -/
def Fits (width : Nat) (line : Bytes) : Bool :=
  line.length < blockLen ∧ (fieldsIn line).length = width

/-- The exception for a line that does not fit. -/
def rowError (width : Nat) (fileName : Bytes) (fileLine : UInt32) (line : Bytes) : CsvError :=
  if blockLen ≤ line.length then tooLong fileName fileLine
  else
    { kind := if (fieldsIn line).length < width then .tooFewColumns else .tooManyColumns
      fileName := fileName
      fileLine := fileLine.toInt32 }

namespace CSVReader

variable {reader : CSVReader columnCount} {rest : Bytes} {indices : List (Fin columnCount)}

/-- The reader stands before the rest of the file, with the order of a header
that did not repeat a column.  What the header did not name is empty in the row. -/
structure Stands (reader : CSVReader columnCount) (indices : List (Fin columnCount)) (rest : Bytes) : Prop where
  fronts : reader.input.Fronts rest
  different : indices.Nodup
  colOrder : reader.colOrder = indices.map some
  unnamed : forall r, r ∉ indices -> reader.row.get r = none

theorem values_get (fields : List Bytes) (cols : Vector Bytes columnCount) (r : Fin columnCount) :
    (values indices fields cols).get r = ((indices.zip fields).lookup r).elim (cols.get r) trim := by
  change (Vector.ofFn _)[r.val] = _
  rw [Vector.getElem_ofFn]
  rfl

/-- A field stands under each index of a row of their number, and only there. -/
theorem lookup_isSome {fields : List Bytes} (wide : fields.length = indices.length) (r : Fin columnCount) :
    ((indices.zip fields).lookup r).isSome ↔ r ∈ indices := by
  induction indices generalizing fields with
  | nil => simp
  | cons index indices ih =>
      cases fields with
      | nil => cases wide
      | cons field fields =>
          rw [List.zip_cons_cons, List.lookup_cons, List.mem_cons]
          by_cases same : r = index
          · simp [same]
          · have other : (r == index) = false := beq_eq_false_iff_ne.mpr same
            rw [other]
            simp only [same, false_or]
            exact ih (Nat.succ.inj wide)

/-- A later row leaves nothing of an earlier one. -/
theorem values_values {earlier fields : List Bytes} (wide_earlier : earlier.length = indices.length)
    (wide : fields.length = indices.length) (cols : Vector Bytes columnCount) :
    values indices fields (values indices earlier cols) = values indices fields cols := by
  apply Vector.ext
  intro i inside
  change (values indices fields (values indices earlier cols)).get ⟨i, inside⟩ =
    (values indices fields cols).get ⟨i, inside⟩
  rw [values_get, values_get, values_get]
  cases found : (indices.zip fields).lookup ⟨i, inside⟩ with
  | some field => rfl
  | none =>
      have absent : (⟨i, inside⟩ : Fin columnCount) ∉ indices := by
        rw [← lookup_isSome wide, found]
        decide
      have absent_earlier : (indices.zip earlier).lookup ⟨i, inside⟩ = none := by
        rw [← Option.not_isSome_iff_eq_none, lookup_isSome wide_earlier]
        exact absent
      rw [absent_earlier]
      rfl

/-- What a call of `read_row` does where the reader stands. -/
theorem readRow_stands (stands : reader.Stands indices rest) (cols : Vector Bytes columnCount) :
    (rest = [] ∧ reader.readRow cols = .ok (false, cols, reader)) ∨
    (rest ≠ [] ∧ Fits indices.length (firstLineOf rest) = true ∧ exists after,
      reader.readRow cols = .ok (true, values indices (fieldsIn (firstLineOf rest)) cols, after) ∧
        after.Stands indices (afterFirstLine rest) ∧ after.input.fileName = reader.input.fileName ∧
        after.input.fileLine = reader.input.fileLine + 1) ∨
    (rest ≠ [] ∧ Fits indices.length (firstLineOf rest) = false ∧
      reader.readRow cols = .error
        (rowError indices.length reader.input.fileName (reader.input.fileLine + 1) (firstLineOf rest))) := by
  rcases LineReader.nextLine_cases stands.fronts with ⟨empty, atEnd⟩ | ⟨some_rest, long, refused⟩ |
    ⟨some_rest, short, input, taken, next, fileName, fileLine⟩
  · rw [readRow, atEnd]
    exact Or.inl ⟨empty, rfl⟩
  · refine Or.inr (Or.inr ⟨some_rest, ?_, ?_⟩)
    · exact decide_eq_false (fun fits => absurd fits.1 (Nat.not_lt.mpr long))
    · rw [readRow, refused, rowError, if_pos long]
      rfl
  · have steps : reader.readRow cols =
        (((parseLine reader.colOrder (some (lineText (firstLineOf rest)).text) reader.row).map (fun row =>
          (true, parseHelper row cols, { reader with input := input, row := row }))).mapError
            (fun err => err.setFileName reader.input.fileName)).mapError
              (fun err => err.setFileLine (reader.input.fileLine + 1)) := by
      rw [readRow, taken]
      rfl
    have fields : fieldsOf (some (lineText (firstLineOf rest)).text) = fieldsIn (firstLineOf rest) := rfl
    have not_long : ¬ blockLen ≤ (firstLineOf rest).length := Nat.not_le.mpr short
    rw [steps, stands.colOrder, parseLine_eq, List.length_map, fields, rowError, if_neg not_long]
    rcases Nat.lt_trichotomy (fieldsIn (firstLineOf rest)).length indices.length with few | same | many
    · rw [if_pos few, if_pos few]
      exact Or.inr (Or.inr ⟨some_rest, decide_eq_false (fun fits => absurd fits.2 (Nat.ne_of_lt few)), rfl⟩)
    · have enough : ¬ (fieldsIn (firstLineOf rest)).length < indices.length := by omega
      have fitting : ¬ indices.length < (fieldsIn (firstLineOf rest)).length := by omega
      let row := fill (indices.map some) (fieldsIn (firstLineOf rest)) reader.row
      have cell : forall r, row.get r =
          ((indices.zip (fieldsIn (firstLineOf rest))).lookup r).elim (reader.row.get r) (fun field => some (trim field)) :=
        fun r => fill_get stands.different same reader.row r
      have unnamed : forall r, r ∉ indices -> row.get r = none := by
        intro r absent
        have nothing : (indices.zip (fieldsIn (firstLineOf rest))).lookup r = none := by
          rw [← Option.not_isSome_iff_eq_none, lookup_isSome same]
          exact absent
        rw [cell, nothing]
        exact stands.unnamed r absent
      have filled : parseHelper row cols = values indices (fieldsIn (firstLineOf rest)) cols := by
        apply congrArg Vector.ofFn
        funext r
        change (row.get r).getD (cols.get r) = _
        rw [cell]
        cases found : (indices.zip (fieldsIn (firstLineOf rest))).lookup r with
        | none =>
            have absent : r ∉ indices := by
              rw [← lookup_isSome same, found]
              decide
            change (reader.row.get r).getD (cols.get r) = cols.get r
            rw [stands.unnamed r absent]
            rfl
        | some field => rfl
      rw [if_neg enough, if_neg fitting, ← filled]
      exact Or.inr (Or.inl ⟨some_rest, decide_eq_true ⟨short, same⟩, _, rfl,
        ⟨next, stands.different, rfl, unnamed⟩, fileName, fileLine⟩)
    · have enough : ¬ (fieldsIn (firstLineOf rest)).length < indices.length := by omega
      rw [if_neg enough, if_pos many, if_neg enough]
      exact Or.inr (Or.inr ⟨some_rest, decide_eq_false (fun fits => absurd fits.2 (Nat.ne_of_gt many)), rfl⟩)

end CSVReader

/-! ## A whole table -/

/-- The lines up to the first that does not fit. -/
def fittingLines (width : Nat) (lines : List Bytes) : List Bytes :=
  lines.takeWhile (Fits width)

/-- What follows the rows: the exception for a line that does not fit, or false. -/
def afterRows (columnCount width : Nat) (fileName : Bytes) (fileLine : UInt32) (lines : List Bytes) (number : Nat) :
    List (RowAnswer columnCount) :=
  match lines.dropWhile (Fits width) with
  | [] => List.replicate number (.ok none)
  | line :: _ =>
      [.error (rowError width fileName (fileLine + UInt32.ofNat (fittingLines width lines).length + 1) line)]

namespace CSVReader

variable {reader : CSVReader columnCount} {rest : Bytes} {indices : List (Fin columnCount)}

/-- The answer with a row. -/
def rowAnswer (indices : List (Fin columnCount)) (cols : Vector Bytes columnCount) (line : Bytes) :
    RowAnswer columnCount :=
  .ok (some (values indices (fieldsIn line) cols))

/-- The answers are the rows in the order of their lines, and what follows them. -/
theorem rows_eq (stands : reader.Stands indices rest) (cols : Vector Bytes columnCount) (number : Nat) :
    reader.rows cols number =
      ((fittingLines indices.length (linesOf rest)).map (rowAnswer indices cols) ++
        afterRows columnCount indices.length reader.input.fileName reader.input.fileLine (linesOf rest) number).take
          number := by
  induction number generalizing reader rest cols with
  | zero => rw [rows, List.take_zero]
  | succ number ih =>
      rw [rows]
      rcases readRow_stands stands cols with ⟨empty, atEnd⟩ | ⟨some_rest, fits, after, taken, next, fileName, fileLine⟩ |
        ⟨some_rest, refused, failed⟩
      · rw [atEnd]
        dsimp only
        rw [ih stands cols, empty, linesOf_nil]
        simp [fittingLines, afterRows, List.replicate_succ, List.take_replicate]
      · have same : (fittingLines indices.length (linesOf (afterFirstLine rest))).map
              (rowAnswer indices (values indices (fieldsIn (firstLineOf rest)) cols)) =
            (fittingLines indices.length (linesOf (afterFirstLine rest))).map (rowAnswer indices cols) := by
          apply List.map_congr_left
          intro line member
          have wide := (of_decide_eq_true (List.all_eq_true.mp List.all_takeWhile line member)).2
          have wide_first := (of_decide_eq_true fits).2
          rw [rowAnswer, values_values wide_first wide, rowAnswer]
        have one_more : fittingLines indices.length (linesOf rest) =
            firstLineOf rest :: fittingLines indices.length (linesOf (afterFirstLine rest)) := by
          rw [linesOf_of_ne_nil some_rest, fittingLines, List.takeWhile_cons_of_pos fits, fittingLines]
        rw [taken]
        dsimp only
        rw [ih next, same, one_more, List.map_cons, List.cons_append, List.take_succ_cons]
        congr 1
        rw [afterRows, afterRows, one_more, linesOf_of_ne_nil some_rest, List.dropWhile_cons_of_pos fits, fileName,
          fileLine, List.length_cons]
        cases found : (linesOf (afterFirstLine rest)).dropWhile (Fits indices.length) with
        | nil =>
            dsimp only
            rw [List.replicate_succ', ← List.append_assoc]
            refine (List.take_append_of_le_length ?_).symm
            rw [List.length_append, List.length_replicate]
            exact Nat.le_add_left _ _
        | cons line _ =>
            dsimp only
            congr 5
            rw [UInt32.ofNat_add]
            ac_rfl
      · have none_fit : fittingLines indices.length (linesOf rest) = [] := by
          rw [linesOf_of_ne_nil some_rest, fittingLines, List.takeWhile_cons_of_neg (by rw [refused]; decide)]
        have ended : afterRows columnCount indices.length reader.input.fileName reader.input.fileLine (linesOf rest)
            (number + 1) =
              [.error (rowError indices.length reader.input.fileName (reader.input.fileLine + 1) (firstLineOf rest))] := by
          rw [afterRows, none_fit, linesOf_of_ne_nil some_rest,
            List.dropWhile_cons_of_neg (by rw [refused]; decide)]
          simp
        rw [failed, none_fit, ended, List.map_nil, List.nil_append, List.take_of_length_le]
        exact Nat.succ_pos number

/-- The header counts as the first line. -/
theorem readHeader_counts (fronts : reader.input.Fronts rest) {names : Vector Bytes columnCount}
    {after : CSVReader columnCount} (read : reader.readHeader ignoreMissingColumn names = .ok after) :
    after.input.fileName = reader.input.fileName ∧ after.input.fileLine = reader.input.fileLine + 1 := by
  rcases LineReader.nextLine_cases fronts with ⟨-, atEnd⟩ | ⟨-, -, refused⟩ |
    ⟨-, -, input, taken, -, fileName, fileLine⟩
  · rw [readHeader, atEnd] at read
    cases read
  · rw [readHeader, refused] at read
    cases read
  · have steps : reader.readHeader ignoreMissingColumn names =
        ((parseHeaderLine names ignoreMissingColumn (lineText (firstLineOf rest)).text).map (fun colOrder =>
          { reader with
            input := input
            columnNames := names
            colOrder := colOrder })).mapError (fun err => err.setFileName reader.input.fileName) := by
      rw [readHeader, taken]
      rfl
    rw [steps] at read
    rcases exists_of_map_eq_ok (eq_ok_of_mapError_eq_ok read) with ⟨colOrder, -, same⟩
    rw [← same]
    exact ⟨fileName, fileLine⟩

/-- Behind a header the reader stands in front of the first row. -/
theorem readHeader_stands (fronts : reader.input.Fronts rest) (fresh : reader.row = Vector.replicate columnCount none)
    {names : Vector Bytes columnCount} {after : CSVReader columnCount}
    (read : reader.readHeader ignoreMissingColumn names = .ok after) :
    rest ≠ [] ∧ exists indices : List (Fin columnCount),
      (headerOf rest).map (columnIndex names) = indices.map some ∧ after.Stands indices (afterFirstLine rest) := by
  rcases readHeader_cases fronts names with ⟨some_rest, -, -, found, indices, done, header⟩ | ⟨-, err, failed⟩
  · rw [read] at done
    cases done
    refine ⟨some_rest, indices, header.named, header.fronts, header.different, header.colOrder, ?_⟩
    intro r _
    rw [header.row, fresh]
    exact Vector.getElem_replicate _
  · rw [read] at failed
    cases failed

/-- The calls of `read_row` behind a header that was read. -/
theorem rows_behind_header (fronts : reader.input.Fronts rest)
    (fresh : reader.row = Vector.replicate columnCount none) {names : Vector Bytes columnCount}
    {after : CSVReader columnCount} (read : reader.readHeader ignoreMissingColumn names = .ok after) :
    exists indices : List (Fin columnCount),
      (headerOf rest).map (columnIndex names) = indices.map some ∧
        forall cols number, after.rows cols number =
          ((fittingLines indices.length (linesOf rest).tail).map (rowAnswer indices cols) ++
            afterRows columnCount indices.length reader.input.fileName (reader.input.fileLine + 1)
              (linesOf rest).tail number).take number := by
  rcases readHeader_stands fronts fresh read with ⟨some_rest, indices, named, stands⟩
  rcases readHeader_counts fronts read with ⟨fileName, fileLine⟩
  refine ⟨indices, named, ?_⟩
  intro cols number
  rw [rows_eq stands cols number, linesOf_of_ne_nil some_rest, fileName, fileLine]
  rfl

/-- The header and the rows of a file: when the header is accepted, the calls of
`read_row` give the rows in their order, each field under the name of its column,
up to the first line that does not fit. -/
theorem rows_of_file {fopen : Fopen} {buffer : Nat -> UInt8} {fileName : CText} {file : Bytes}
    (opened : fopen fileName = .ok file) {names : Vector Bytes columnCount} {reader : CSVReader columnCount}
    (read : (CSVReader.constructed columnCount fopen buffer fileName >>=
      fun reader => reader.readHeader ignoreMissingColumn names) = .ok reader) :
    exists indices : List (Fin columnCount),
      (headerOf (withoutBom file)).map (columnIndex names) = indices.map some ∧
        forall cols number, reader.rows cols number =
          ((fittingLines indices.length (linesOf (withoutBom file)).tail).map (rowAnswer indices cols) ++
            afterRows columnCount indices.length (truncate maxFileNameLength fileName.text) 1
              (linesOf (withoutBom file)).tail number).take number := by
  have fronts := LineReader.init_fronts buffer (truncate maxFileNameLength fileName.text) file
  rw [constructed, LineReader.constructed, opened] at read
  exact rows_behind_header fronts rfl read

/-- Two columns, and a row that gives them in the order of the header. -/
def prices : Bytes := ascii "price, name\n7,a\n"

theorem prices_read : exists (reader : CSVReader 2),
    (CSVReader.constructed 2 (fun _ => .ok prices) (fun _ => 0) (cStr (ascii "prices.csv")) >>=
      fun reader => reader.readHeader ignoreMissingColumn #v[ascii "name", ascii "price"]) = .ok reader := by
  let start : CSVReader 2 :=
    { input := LineReader.init (fun _ => 0) (truncate maxFileNameLength (ascii "prices.csv")) prices
      row := Vector.replicate 2 none
      columnNames := Vector.ofFn (fun i => ascii ("col" ++ toString (i.val + 1)))
      colOrder := (List.finRange 2).map some }
  have fronts : start.input.Fronts (withoutBom prices) :=
    LineReader.init_fronts (fun _ => 0) (truncate maxFileNameLength (ascii "prices.csv")) prices
  rcases readHeader_cases fronts #v[ascii "name", ascii "price"] with
    ⟨-, -, -, reader, -, done, -⟩ | ⟨refused, -⟩
  · exact ⟨reader, done⟩
  · refine absurd ⟨?_, ?_, ?_⟩ refused
    · decide
    · decide
    · unfold Accepted
      decide

theorem prices_rows : exists (reader : CSVReader 2) (indices : List (Fin 2)),
    (headerOf (withoutBom prices)).map (columnIndex #v[ascii "name", ascii "price"]) = indices.map some ∧
      forall cols number, reader.rows cols number =
        ((fittingLines indices.length (linesOf (withoutBom prices)).tail).map (rowAnswer indices cols) ++
          afterRows 2 indices.length (truncate maxFileNameLength (ascii "prices.csv")) 1
            (linesOf (withoutBom prices)).tail number).take number := by
  rcases prices_read with ⟨reader, read⟩
  exact ⟨reader, rows_of_file rfl read⟩

end CSVReader

/-! ## Writing a table -/

/-- A line with the fields between commas. -/
def lineOf (fields : List Bytes) : Bytes :=
  [comma].intercalate fields

/-- A table as a text, a line for each list of fields. -/
def tableText (table : List (List Bytes)) : Bytes :=
  (table.map (fun fields => lineOf fields ++ [newline])).flatten

/-- Fields that a line can hold without quotes. -/
structure Writable (fields : List Bytes) : Prop where
  some_field : fields ≠ []
  clean : forall field, field ∈ fields -> comma ∉ field ∧ newline ∉ field ∧ 0 ∉ field
  closed : (lineOf fields).getLast? ≠ some carriageReturn
  short : (lineOf fields).length < blockLen

namespace Writable

variable {fields : List Bytes}

theorem newline_free (writable : Writable fields) : newline ∉ lineOf fields :=
  not_mem_intercalate (by decide) (fun field member => (writable.clean field member).2.1)

theorem text (writable : Writable fields) : (lineText (lineOf fields)).text = lineOf fields := by
  have whole : withoutReturn (lineOf fields) = lineOf fields := if_neg writable.closed
  have ended : 0 ∉ lineOf fields :=
    not_mem_intercalate (by decide) (fun field member => (writable.clean field member).2.2)
  rw [lineText, whole]
  exact takeWhile_ne_eq_self ended

theorem fields_eq (writable : Writable fields) : fieldsIn (lineOf fields) = fields := by
  rw [fieldsIn, writable.text]
  exact List.splitOn_intercalate comma (fun field member => (writable.clean field member).1) writable.some_field

theorem fits (writable : Writable fields) {width : Nat} (wide : fields.length = width) :
    Fits width (lineOf fields) = true :=
  decide_eq_true ⟨writable.short, by rw [writable.fields_eq]; exact wide⟩

end Writable

/-- The lines of a text are those that it was written from. -/
theorem linesOf_tableText {table : List (List Bytes)} (writable : forall fields, fields ∈ table -> Writable fields) :
    linesOf (tableText table) = table.map lineOf := by
  induction table with
  | nil => rfl
  | cons fields table ih =>
      have clean := (writable fields List.mem_cons_self).newline_free
      have text : tableText (fields :: table) = lineOf fields ++ newline :: tableText table := by
        rw [tableText, List.map_cons, List.flatten_cons, List.append_assoc]
        rfl
      have some_text : tableText (fields :: table) ≠ [] := by
        rw [text]
        exact List.append_ne_nil_of_right_ne_nil _ (List.cons_ne_nil _ _)
      have first : firstLineOf (tableText (fields :: table)) = lineOf fields := by
        rw [firstLineOf, text, takeWhile_ne_append_cons, takeWhile_ne_eq_self clean]
      have later : afterFirstLine (tableText (fields :: table)) = tableText table := by
        have parts : firstLineOf (tableText (fields :: table)) ++
            (tableText (fields :: table)).dropWhile (fun byte => byte ≠ newline) = tableText (fields :: table) :=
          List.takeWhile_append_dropWhile
        rw [first] at parts
        have same := List.append_cancel_left (parts.trans text)
        rw [afterFirstLine, same]
        rfl
      rw [linesOf_of_ne_nil some_text, first, later, ih (fun other member => writable other (List.mem_cons_of_mem _ member))]
      rfl

namespace CSVReader

/-- A table written with a header is read back: its columns may stand in any
order, and each row gives every variable the field in the column of its name,
without the blanks around it. -/
theorem table_read_back {header : List Bytes} {table : List (List Bytes)}
    (writable : forall fields, fields ∈ header :: table -> Writable fields)
    (wide : forall fields, fields ∈ table -> fields.length = header.length)
    (unmarked : withoutBom (tableText (header :: table)) = tableText (header :: table))
    {fopen : Fopen} {buffer : Nat -> UInt8} {fileName : CText}
    (opened : fopen fileName = .ok (tableText (header :: table))) {names : Vector Bytes columnCount}
    (accepted : Accepted names (header.map trim)) :
    exists (reader : CSVReader columnCount) (indices : List (Fin columnCount)),
      (CSVReader.constructed columnCount fopen buffer fileName >>=
        fun reader => reader.readHeader ignoreMissingColumn names) = .ok reader ∧
      (header.map trim).map (columnIndex names) = indices.map some ∧
      forall cols number, reader.rows cols number =
        (table.map (fun fields => (.ok (some (values indices fields cols)) : RowAnswer columnCount)) ++
          List.replicate number (Except.ok none)).take number := by
  have lines := linesOf_tableText writable
  have head := writable header List.mem_cons_self
  have some_text : tableText (header :: table) ≠ [] := by
    intro empty
    rw [empty, linesOf_nil] at lines
    cases lines
  have first : firstLineOf (tableText (header :: table)) = lineOf header := by
    have same := (linesOf_of_ne_nil some_text).symm.trans lines
    exact (List.cons.inj same).1
  have headed : headerOf (tableText (header :: table)) = header.map trim := by
    rw [headerOf, first]
    exact congrArg (List.map trim) head.fields_eq
  let start : CSVReader columnCount :=
    { input := LineReader.init buffer (truncate maxFileNameLength fileName.text) (tableText (header :: table))
      row := Vector.replicate columnCount none
      columnNames := Vector.ofFn (fun i => ascii ("col" ++ toString (i.val + 1)))
      colOrder := (List.finRange columnCount).map some }
  have fronts : start.input.Fronts (tableText (header :: table)) := by
    rw [← unmarked]
    exact LineReader.init_fronts buffer (truncate maxFileNameLength fileName.text) (tableText (header :: table))
  have constructed_start : CSVReader.constructed columnCount fopen buffer fileName = .ok start := by
    rw [constructed, LineReader.constructed, opened]
    rfl
  rcases readHeader_cases fronts names with ⟨-, -, -, reader, indices, done, read⟩ | ⟨refused, -⟩
  · have called : (CSVReader.constructed columnCount fopen buffer fileName >>=
        fun reader => reader.readHeader ignoreMissingColumn names) = .ok reader := by
      rw [constructed_start]
      exact done
    rcases rows_behind_header fronts rfl done with ⟨others, named, rows⟩
    have same : (linesOf (tableText (header :: table))).tail = table.map lineOf := by
      rw [lines]
      rfl
    rw [headed] at named
    rw [same] at rows
    have width : others.length = header.length := by
      have size := congrArg List.length named
      simpa using size.symm
    have all_fit : forall line, line ∈ table.map lineOf -> Fits others.length line = true := by
      intro line member
      rcases List.mem_map.mp member with ⟨fields, inTable, rfl⟩
      exact (writable fields (List.mem_cons_of_mem _ inTable)).fits ((wide fields inTable).trans width.symm)
    refine ⟨reader, others, called, named, ?_⟩
    intro cols number
    have fitting : fittingLines others.length (table.map lineOf) = table.map lineOf := List.takeWhile_eq_self_iff.mpr all_fit
    have none_left : (table.map lineOf).dropWhile (Fits others.length) = [] := List.dropWhile_eq_nil_iff.mpr all_fit
    have answers : (table.map lineOf).map (rowAnswer others cols) =
        table.map (fun fields => (.ok (some (values others fields cols)) : RowAnswer columnCount)) := by
      rw [List.map_map]
      apply List.map_congr_left
      intro fields member
      change (.ok (some (values others (fieldsIn (lineOf fields)) cols)) : RowAnswer columnCount) = _
      rw [(writable fields (List.mem_cons_of_mem _ member)).fields_eq]
    rw [rows, fitting, afterRows, none_left, answers]
  · refine absurd ⟨some_text, ?_, ?_⟩ refused
    · rw [first]
      exact head.short
    · rw [headed]
      exact accepted

theorem prices_read_back : exists (reader : CSVReader 2) (indices : List (Fin 2)),
    (CSVReader.constructed 2 (fun _ => .ok (tableText [[ascii "price", ascii " name"], [ascii "7", ascii "a"]]))
      (fun _ => 0) (cStr (ascii "prices.csv")) >>=
        fun reader => reader.readHeader ignoreMissingColumn #v[ascii "name", ascii "price"]) = .ok reader ∧
    ([ascii "price", ascii " name"].map trim).map (columnIndex #v[ascii "name", ascii "price"]) = indices.map some ∧
    forall cols number, reader.rows cols number =
      ([[ascii "7", ascii "a"]].map (fun fields => (.ok (some (values indices fields cols)) : RowAnswer 2)) ++
        List.replicate number (Except.ok none)).take number := by
  have header : Writable [ascii "price", ascii " name"] := ⟨by decide, by decide, by decide, by decide⟩
  have row : Writable [ascii "7", ascii "a"] := ⟨by decide, by decide, by decide, by decide⟩
  refine table_read_back ?_ ?_ ?_ rfl ?_
  · intro fields member
    rcases List.mem_cons.mp member with rfl | inTable
    · exact header
    · rw [List.mem_singleton.mp inTable]
      exact row
  · decide
  · decide
  · unfold Accepted
    decide

end CSVReader

end Csv
end MotionDetectAlarm
