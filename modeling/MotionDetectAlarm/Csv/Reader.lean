import Mathlib.Data.List.DropRight
import Mathlib.Data.List.Nodup
import MotionDetectAlarm.Csv.LineReader
import MotionDetectAlarm.Foundation.Reorder

namespace MotionDetectAlarm
namespace Csv

open Foundation

/-!
# Reading rows by column name

`CSVReader` takes the columns of the first line of a file for names and looks
each up among the names that it was given.  What it finds is the order in which
the fields of the later lines are put into a row.  Fields are cut at commas and
trimmed of blanks and tabs at both ends; there are no quotes and no comments.

A header must not name a column twice, and unless the policy says otherwise it
must name no other column and miss none.  A later line must have as many fields
as the header has columns.
-/

/-! ## Columns -/

def comma : UInt8 := 0x2C

/-- A character of `trim_char_list`. -/
def isTrimChar (byte : UInt8) : Bool :=
  byte = 0x20 ∨ byte = 0x09

def trim (column : Bytes) : Bytes :=
  (column.dropWhile isTrimChar).rdropWhile isTrimChar

/-- The next column of a line, and the rest of the line if there is one. -/
def chopNextColumn (line : Bytes) : Bytes × Option Bytes :=
  (line.takeWhile (fun byte => byte ≠ comma),
    match line.dropWhile (fun byte => byte ≠ comma) with
    | [] => none
    | _ :: rest => some rest)

theorem chopNextColumn_shorter (line : Bytes) :
    (chopNextColumn line).2.elim 0 (fun rest => rest.length + 1) < line.length + 1 := by
  have size : (line.dropWhile (fun byte => byte ≠ comma)).length ≤ line.length := (List.dropWhile_suffix _).length_le
  rw [chopNextColumn]
  cases found : line.dropWhile (fun byte => byte ≠ comma) with
  | nil => exact Nat.succ_pos _
  | cons byte rest =>
      rw [found, List.length_cons] at size
      exact Nat.succ_le_succ size

variable {columnCount : Nat}

/-- `parse_line`.  An entry of the order is `none` where a column is ignored. -/
def parseLine : (colOrder : List (Option (Fin columnCount))) -> (line : Option Bytes) ->
    (sortedCol : Vector (Option Bytes) columnCount) -> Except CsvError (Vector (Option Bytes) columnCount)
  | [], none, sortedCol => .ok sortedCol
  | [], some _, _ => .error { kind := .tooManyColumns }
  | _ :: _, none, _ => .error { kind := .tooFewColumns }
  | i :: colOrder, some line, sortedCol =>
      parseLine colOrder (chopNextColumn line).2
        (i.elim sortedCol (fun i => sortedCol.set i (some (trim (chopNextColumn line).1))))

/-! ## The header -/

def ignoreExtraColumn : UInt32 := 1

def ignoreMissingColumn : UInt32 := 2

/-- What `parse_header_line` has found so far. -/
structure Header (columnCount : Nat) where
  found : Vector Bool columnCount
  colOrder : List (Option (Fin columnCount))

/-- The first of the names that a column has. -/
def columnIndex (colName : Vector Bytes columnCount) (column : Bytes) : Option (Fin columnCount) :=
  (List.finRange columnCount).find? (fun i => column = colName[i])

/-- One round of the loop over the columns. -/
def Header.column (colName : Vector Bytes columnCount) (ignorePolicy : UInt32) (header : Header columnCount)
    (column : Bytes) : Except CsvError (Header columnCount) :=
  match columnIndex colName column with
  | some i =>
      if header.found[i] then
        .error
          { kind := .duplicatedColumnInHeader
            columnName := truncate maxColumnNameLength column }
      else
        .ok
          { found := header.found.set i true
            colOrder := header.colOrder ++ [some i] }
  | none =>
      if ignorePolicy &&& ignoreExtraColumn ≠ 0 then .ok { header with colOrder := header.colOrder ++ [none] }
      else
        .error
          { kind := .extraColumnInHeader
            columnName := truncate maxColumnNameLength column }

/-- The loop over the columns. -/
def headerColumns (colName : Vector Bytes columnCount) (ignorePolicy : UInt32) (line : Option Bytes)
    (header : Header columnCount) : Except CsvError (Header columnCount) :=
  match line with
  | none => .ok header
  | some line =>
      match header.column colName ignorePolicy (trim (chopNextColumn line).1) with
      | .error err => .error err
      | .ok header => headerColumns colName ignorePolicy (chopNextColumn line).2 header
termination_by line.elim 0 (fun line => line.length + 1)
decreasing_by exact chopNextColumn_shorter _

/-- `parse_header_line`, with the order that it leaves. -/
def parseHeaderLine (colName : Vector Bytes columnCount) (ignorePolicy : UInt32) (line : Bytes) :
    Except CsvError (List (Option (Fin columnCount))) := do
  let header <- headerColumns colName ignorePolicy (some line)
    { found := Vector.replicate columnCount false
      colOrder := [] }
  if ignorePolicy &&& ignoreMissingColumn ≠ 0 then return header.colOrder
  else
    match (List.finRange columnCount).find? (fun i => ! header.found[i]) with
    | none => return header.colOrder
    | some i =>
        throw
          { kind := .missingColumnInHeader
            columnName := truncate maxColumnNameLength colName[i] }

/-! ## The reader -/

/-- The members of `CSVReader`. -/
structure CSVReader (columnCount : Nat) where
  input : LineReader
  row : Vector (Option Bytes) columnCount
  columnNames : Vector Bytes columnCount
  colOrder : List (Option (Fin columnCount))

namespace CSVReader

/-- The constructor. -/
def constructed (columnCount : Nat) (fopen : Fopen) (buffer : Nat -> UInt8) (fileName : CText) :
    Except CsvError (CSVReader columnCount) :=
  (LineReader.constructed fopen buffer fileName).map (fun input =>
    { input := input
      row := Vector.replicate columnCount none
      columnNames := Vector.ofFn (fun i => ascii ("col" ++ toString (i.val + 1)))
      colOrder := (List.finRange columnCount).map some })

variable (reader : CSVReader columnCount)

def readHeader (ignorePolicy : UInt32) (cols : Vector Bytes columnCount) : Except CsvError (CSVReader columnCount) :=
  let parsed : Except CsvError (CSVReader columnCount) := do
    match <- reader.input.nextLine with
    | none => throw { kind := .headerMissing }
    | some (line, input) =>
        let colOrder <- parseHeaderLine cols ignorePolicy line
        return { reader with
          input := input
          columnNames := cols
          colOrder := colOrder }
  parsed.mapError (fun err => err.setFileName reader.input.fileName)

/-- Every variable whose column has a text in the row gets that text. -/
def parseHelper (row : Vector (Option Bytes) columnCount) (cols : Vector Bytes columnCount) :
    Vector Bytes columnCount :=
  Vector.ofFn (fun r => row[r].getD cols[r])

/-- `read_row`, with the variables after it.  When something is thrown the line
has already been counted. -/
def readRow (cols : Vector Bytes columnCount) : Except CsvError (Bool × Vector Bytes columnCount × CSVReader columnCount) :=
  let parsed : Except CsvError (Bool × Vector Bytes columnCount × CSVReader columnCount) := do
    match <- reader.input.nextLine with
    | none => return (false, cols, reader)
    | some (line, input) =>
        let row <- parseLine reader.colOrder (some line) reader.row
        return (true, parseHelper row cols, { reader with
          input := input
          row := row })
  (parsed.mapError (fun err => err.setFileName reader.input.fileName)).mapError
    (fun err => err.setFileLine (reader.input.fileLine + 1))

end CSVReader

/-! ## Columns and fields -/

/-- The columns of a line are cut at its commas. -/
theorem chopNextColumn_splitOn (line : Bytes) :
    line.splitOn comma =
      (chopNextColumn line).1 :: (chopNextColumn line).2.elim [] (fun rest => rest.splitOn comma) := by
  rw [splitOn_eq_takeWhile_cons, chopNextColumn]
  cases line.dropWhile (fun byte => byte ≠ comma) with
  | nil => rfl
  | cons byte rest => rfl

/-- The fields of what is left of a line. -/
def fieldsOf (line : Option Bytes) : List Bytes :=
  line.elim [] (fun line => line.splitOn comma)

theorem fieldsOf_some (line : Bytes) :
    fieldsOf (some line) = (chopNextColumn line).1 :: fieldsOf (chopNextColumn line).2 :=
  chopNextColumn_splitOn line

/-- A row with the fields put in under their entries of an order. -/
def fill (colOrder : List (Option (Fin columnCount))) (fields : List Bytes)
    (sortedCol : Vector (Option Bytes) columnCount) : Vector (Option Bytes) columnCount :=
  (colOrder.zip fields).foldl
    (fun sortedCol entry => entry.1.elim sortedCol (fun i => sortedCol.set i (some (trim entry.2)))) sortedCol

/-- A line with as many fields as the order has entries fills a row, and any
other is refused. -/
theorem parseLine_eq (colOrder : List (Option (Fin columnCount))) (line : Option Bytes)
    (sortedCol : Vector (Option Bytes) columnCount) :
    parseLine colOrder line sortedCol =
      if (fieldsOf line).length < colOrder.length then .error { kind := .tooFewColumns }
      else if colOrder.length < (fieldsOf line).length then .error { kind := .tooManyColumns }
      else .ok (fill colOrder (fieldsOf line) sortedCol) := by
  induction colOrder generalizing line sortedCol with
  | nil =>
      cases line with
      | none => rfl
      | some line =>
          rw [fieldsOf_some]
          rfl
  | cons i colOrder ih =>
      cases line with
      | none => rfl
      | some line =>
          rw [parseLine, ih, fieldsOf_some]
          simp only [List.length_cons, Nat.add_lt_add_iff_right]
          rfl

/-- Filled in an order without repetition, a row has each field under its entry
and keeps what it had elsewhere. -/
theorem fill_get {indices : List (Fin columnCount)} (different : indices.Nodup) {fields : List Bytes}
    (wide : fields.length = indices.length) (sortedCol : Vector (Option Bytes) columnCount) (r : Fin columnCount) :
    (fill (indices.map some) fields sortedCol)[r] =
      ((indices.zip fields).lookup r).elim sortedCol[r] (fun field => some (trim field)) := by
  have cell : forall (entries : List (Fin columnCount × Bytes)) (sortedCol : Vector (Option Bytes) columnCount),
      (entries.foldl (fun sortedCol entry => sortedCol.set entry.1 (some (trim entry.2))) sortedCol)[r] =
        entries.foldl (fun cell entry => if r = entry.1 then some (trim entry.2) else cell) sortedCol[r] := by
    intro entries
    induction entries with
    | nil => exact fun _ => rfl
    | cons entry rest ih =>
        intro sortedCol
        rw [List.foldl_cons, ih, List.foldl_cons]
        congr 1
        by_cases same : r = entry.1
        · rw [if_pos same, same]
          simp
        · rw [if_neg same]
          have apart : entry.1.val ≠ r.val := fun equal => same (Fin.ext equal.symm)
          simp [apart]
  have keys : (indices.zip fields).map Prod.fst = indices := List.map_fst_zip (Nat.le_of_eq wide.symm)
  have ordered : fill (indices.map some) fields sortedCol =
      (indices.zip fields).foldl (fun sortedCol entry => sortedCol.set entry.1 (some (trim entry.2))) sortedCol := by
    rw [fill, List.zip_map_left, List.foldl_map]
    rfl
  rw [ordered, cell]
  exact foldl_lookup (fun field _ => some (trim field)) r _ (by rwa [keys]) _

/-! ## Accepted headers -/

section HeaderColumns

variable {colName : Vector Bytes columnCount}

theorem columnIndex_some {column : Bytes} {i : Fin columnCount} (found : columnIndex colName column = some i) :
    column = colName[i] := by
  have passed := List.find?_some found
  exact of_decide_eq_true passed

theorem columnIndex_isSome {column : Bytes} :
    (columnIndex colName column).isSome ↔ exists i : Fin columnCount, column = colName[i] := by
  rw [columnIndex, List.find?_isSome]
  simp [List.mem_finRange]

/-- The loop goes through the trimmed columns of the line. -/
theorem headerColumns_eq (colName : Vector Bytes columnCount) (ignorePolicy : UInt32) (line : Option Bytes)
    (header : Header columnCount) :
    headerColumns colName ignorePolicy line header =
      ((fieldsOf line).map trim).foldlM (Header.column colName ignorePolicy) header := by
  induction line, header using headerColumns.induct colName ignorePolicy with
  | case1 header => rw [headerColumns]; rfl
  | case2 header line err failed =>
      rw [headerColumns, failed, fieldsOf_some, List.map_cons, List.foldlM_cons, failed]
      rfl
  | case3 header line next stepped ih =>
      rw [headerColumns, stepped, fieldsOf_some, List.map_cons, List.foldlM_cons, stepped]
      exact ih

/-- Without a policy for extra columns, a column is accepted if it is a name
that has not been found before. -/
theorem column_ok_iff {ignorePolicy : UInt32} (strict : ignorePolicy &&& ignoreExtraColumn = 0)
    {header after : Header columnCount} {column : Bytes} :
    header.column colName ignorePolicy column = .ok after ↔
      exists i, columnIndex colName column = some i ∧ header.found[i] = false ∧
        after = { found := header.found.set i true, colOrder := header.colOrder ++ [some i] } := by
  rw [Header.column]
  cases index : columnIndex colName column with
  | none => simp [strict]
  | some i =>
      dsimp only
      by_cases found : header.found[i] = true
      · rw [if_pos found]
        refine iff_of_false (fun same => nomatch same) ?_
        rintro ⟨other, same, unseen, -⟩
        cases same
        exact absurd found (Bool.not_eq_true _ ▸ unseen)
      · rw [if_neg found, Except.ok.injEq]
        constructor
        · rintro rfl
          exact ⟨i, rfl, Bool.eq_false_of_not_eq_true found, rfl⟩
        · rintro ⟨other, same, -, rfl⟩
          cases same
          rfl

/-- Columns that have all been accepted are different names, and stand in the
order. -/
theorem columns_of_ok {ignorePolicy : UInt32} (strict : ignorePolicy &&& ignoreExtraColumn = 0) {columns : List Bytes}
    {header after : Header columnCount}
    (done : columns.foldlM (Header.column colName ignorePolicy) header = .ok after) :
    exists indices : List (Fin columnCount), columns.map (columnIndex colName) = indices.map some ∧ indices.Nodup ∧
      (forall i, i ∈ indices -> header.found[i] = false) ∧ after.colOrder = header.colOrder ++ indices.map some := by
  induction columns generalizing header with
  | nil =>
      cases done
      exact ⟨[], rfl, List.nodup_nil, fun _ member => absurd member List.not_mem_nil, (List.append_nil _).symm⟩
  | cons column rest ih =>
      rw [List.foldlM_cons] at done
      rcases exists_of_bind_eq_ok done with ⟨next, stepped, later⟩
      rcases (column_ok_iff strict).mp stepped with ⟨i, index, unseen, rfl⟩
      rcases ih later with ⟨indices, named, different, fresh, order⟩
      have elsewhere : i ∉ indices := by
        intro member
        have again := fresh i member
        simp at again
      refine ⟨i :: indices, ?_, List.nodup_cons.mpr ⟨elsewhere, different⟩, ?_, ?_⟩
      · rw [List.map_cons, index, named, List.map_cons]
      · intro other member
        rcases List.mem_cons.mp member with same | inRest
        · exact same ▸ unseen
        · have apart : i.val ≠ other.val := fun same => elsewhere (Fin.ext same ▸ inRest)
          have before := fresh other inRest
          simpa [apart] using before
      · rw [order, List.map_cons, List.append_assoc]
        rfl

/-- Different names are all accepted. -/
theorem columns_ok {ignorePolicy : UInt32} (strict : ignorePolicy &&& ignoreExtraColumn = 0) {columns : List Bytes}
    {indices : List (Fin columnCount)} {header : Header columnCount}
    (named : columns.map (columnIndex colName) = indices.map some) (different : indices.Nodup)
    (fresh : forall i, i ∈ indices -> header.found[i] = false) :
    exists after, columns.foldlM (Header.column colName ignorePolicy) header = .ok after := by
  induction columns generalizing indices header with
  | nil => exact ⟨header, rfl⟩
  | cons column rest ih =>
      cases indices with
      | nil => cases named
      | cons i indices =>
          rcases List.cons.inj named with ⟨index, later⟩
          rcases List.nodup_cons.mp different with ⟨elsewhere, apart⟩
          have stepped := (column_ok_iff strict).mpr ⟨i, index, fresh i List.mem_cons_self, rfl⟩
          rw [List.foldlM_cons, stepped, ok_bind]
          refine ih later apart ?_
          intro other member
          have separate : i.val ≠ other.val := fun same => elsewhere (Fin.ext same ▸ member)
          have unseen := fresh other (List.mem_cons_of_mem _ member)
          simpa [separate] using unseen

/-- A header is accepted, where it may miss names, if its columns are different
names; the order then lists them. -/
theorem parseHeaderLine_ok_iff {line : Bytes} {colOrder : List (Option (Fin columnCount))} :
    parseHeaderLine colName ignoreMissingColumn line = .ok colOrder ↔
      exists indices : List (Fin columnCount), ((line.splitOn comma).map trim).map (columnIndex colName) = indices.map some ∧
        indices.Nodup ∧ colOrder = indices.map some := by
  have strict : ignoreMissingColumn &&& ignoreExtraColumn = 0 := by decide
  have lenient : ignoreMissingColumn &&& ignoreMissingColumn ≠ 0 := by decide
  have steps : parseHeaderLine colName ignoreMissingColumn line =
      (headerColumns colName ignoreMissingColumn (some line)
        { found := Vector.replicate columnCount false
          colOrder := [] }).map Header.colOrder := by
    rw [parseHeaderLine]
    simp only [if_pos lenient]
    rfl
  rw [steps, headerColumns_eq]
  change Except.map Header.colOrder (((line.splitOn comma).map trim).foldlM _ _) = _ ↔ _
  constructor
  · intro mapped
    rcases exists_of_map_eq_ok mapped with ⟨after, done, rfl⟩
    rcases columns_of_ok strict done with ⟨indices, named, different, -, order⟩
    exact ⟨indices, named, different, order⟩
  · rintro ⟨indices, named, different, rfl⟩
    let opening : Header columnCount :=
      { found := Vector.replicate columnCount false
        colOrder := [] }
    have fresh : forall i, i ∈ indices -> opening.found[i] = false := by
      intro i _
      simp [opening]
    rcases columns_ok strict named different fresh with ⟨after, done⟩
    rcases columns_of_ok strict done with ⟨others, again, -, -, order⟩
    have same : others.map some = indices.map some := again.symm.trans named
    rw [done]
    exact congrArg Except.ok (order.trans same)

/-- Each of the columns is one of the names, and none stands twice. -/
def Accepted (colName : Vector Bytes columnCount) (columns : List Bytes) : Prop :=
  (forall column, column ∈ columns -> exists i : Fin columnCount, column = colName[i]) ∧ columns.Nodup

theorem accepted_iff {columns : List Bytes} :
    Accepted colName columns ↔
      exists indices : List (Fin columnCount), columns.map (columnIndex colName) = indices.map some ∧ indices.Nodup := by
  symm
  constructor
  · rintro ⟨indices, named, different⟩
    constructor
    · intro column member
      apply columnIndex_isSome.mp
      have inIndices : columnIndex colName column ∈ indices.map some := named ▸ List.mem_map_of_mem member
      rcases List.mem_map.mp inIndices with ⟨i, -, index⟩
      exact index ▸ rfl
    · apply List.Nodup.of_map (columnIndex colName)
      rw [named]
      exact different.map (Option.some_injective _)
  · rintro ⟨known, different⟩
    have found : forall column, column ∈ columns -> (columnIndex colName column).isSome :=
      fun column member => columnIndex_isSome.mpr (known column member)
    have named : columns.map (columnIndex colName) = (columns.filterMap (columnIndex colName)).map some := by
      rw [List.map_filterMap, ← List.filterMap_eq_map]
      apply List.filterMap_congr
      intro column member
      rcases Option.isSome_iff_exists.mp (found column member) with ⟨i, index⟩
      rw [Function.comp_apply, index]
      rfl
    refine ⟨columns.filterMap (columnIndex colName), named, List.Nodup.of_map some ?_⟩
    rw [← named]
    refine different.map_on ?_
    intro column member other _ same
    rcases Option.isSome_iff_exists.mp (found column member) with ⟨i, index⟩
    have again : columnIndex colName other = some i := same.symm.trans index
    rw [columnIndex_some index, columnIndex_some again]

end HeaderColumns

/-! ## Calls on a file -/

/-- The trimmed columns of the first line. -/
def headerOf (file : Bytes) : List Bytes :=
  ((lineText (firstLineOf file)).text.splitOn comma).map trim

/-- The fields of the first line. -/
def rowOf (file : Bytes) : List Bytes :=
  (lineText (firstLineOf file)).text.splitOn comma

namespace CSVReader

variable {reader : CSVReader columnCount} {rest : Bytes}

/-- What `read_header` leaves of a file with an accepted header. -/
structure HeaderRead (reader : CSVReader columnCount) (cols : Vector Bytes columnCount) (rest : Bytes)
    (after : CSVReader columnCount) (indices : List (Fin columnCount)) : Prop where
  named : (headerOf rest).map (columnIndex cols) = indices.map some
  different : indices.Nodup
  colOrder : after.colOrder = indices.map some
  row : after.row = reader.row
  fronts : after.input.Fronts (afterFirstLine rest)

/-- `read_header` returns exactly on a file whose first line is short and has an
accepted header. -/
theorem readHeader_cases (fronts : reader.input.Fronts rest) (cols : Vector Bytes columnCount) :
    (rest ≠ [] ∧ (firstLineOf rest).length < blockLen ∧ Accepted cols (headerOf rest) ∧
      exists after indices, reader.readHeader ignoreMissingColumn cols = .ok after ∧
        reader.HeaderRead cols rest after indices) ∨
    (¬ (rest ≠ [] ∧ (firstLineOf rest).length < blockLen ∧ Accepted cols (headerOf rest)) ∧
      exists err, reader.readHeader ignoreMissingColumn cols = .error err) := by
  rcases LineReader.nextLine_cases fronts with ⟨empty, atEnd⟩ | ⟨-, long, refused⟩ |
    ⟨some_rest, short, input, taken, next, -, -⟩
  · rw [readHeader, atEnd]
    exact Or.inr ⟨fun claimed => claimed.1 empty, _, rfl⟩
  · rw [readHeader, refused]
    exact Or.inr ⟨fun claimed => absurd claimed.2.1 (Nat.not_lt.mpr long), _, rfl⟩
  · have steps : reader.readHeader ignoreMissingColumn cols =
        ((parseHeaderLine cols ignoreMissingColumn (lineText (firstLineOf rest)).text).map (fun colOrder =>
          { reader with
            input := input
            columnNames := cols
            colOrder := colOrder })).mapError (fun err => err.setFileName reader.input.fileName) := by
      rw [readHeader, taken]
      rfl
    rw [steps]
    cases parsed : parseHeaderLine cols ignoreMissingColumn (lineText (firstLineOf rest)).text with
    | error err =>
        refine Or.inr ⟨?_, _, rfl⟩
        rintro ⟨-, -, accepted⟩
        rcases accepted_iff.mp accepted with ⟨indices, named, different⟩
        have done := parseHeaderLine_ok_iff.mpr ⟨indices, named, different, rfl⟩
        rw [parsed] at done
        cases done
    | ok colOrder =>
        rcases parseHeaderLine_ok_iff.mp parsed with ⟨indices, named, different, order⟩
        exact Or.inl ⟨some_rest, short, accepted_iff.mpr ⟨indices, named, different⟩, _, indices, rfl, named, different,
          order, rfl, next⟩

/-- The variables after a row: each has the field under its entry of the order,
or what it had. -/
def values (indices : List (Fin columnCount)) (fields : List Bytes) (cols : Vector Bytes columnCount) :
    Vector Bytes columnCount :=
  Vector.ofFn (fun r => ((indices.zip fields).lookup r).elim cols[r] trim)

/-- `read_row` returns false at the end of the file, and true on a short line
with as many fields as the order has entries. -/
theorem readRow_cases (fronts : reader.input.Fronts rest) {indices : List (Fin columnCount)} (different : indices.Nodup)
    (colOrder : reader.colOrder = indices.map some) (fresh : reader.row = Vector.replicate columnCount none)
    (cols : Vector Bytes columnCount) :
    (rest = [] ∧ reader.readRow cols = .ok (false, cols, reader)) ∨
    (rest ≠ [] ∧ (firstLineOf rest).length < blockLen ∧ (rowOf rest).length = indices.length ∧
      exists after, reader.readRow cols = .ok (true, values indices (rowOf rest) cols, after)) ∨
    (rest ≠ [] ∧ ¬ ((firstLineOf rest).length < blockLen ∧ (rowOf rest).length = indices.length) ∧
      exists err, reader.readRow cols = .error err) := by
  rcases LineReader.nextLine_cases fronts with ⟨empty, atEnd⟩ | ⟨some_rest, long, refused⟩ |
    ⟨some_rest, short, input, taken, -, -, -⟩
  · rw [readRow, atEnd]
    exact Or.inl ⟨empty, rfl⟩
  · rw [readRow, refused]
    exact Or.inr (Or.inr ⟨some_rest, fun claimed => absurd claimed.1 (Nat.not_lt.mpr long), _, rfl⟩)
  · have steps : reader.readRow cols =
        (((parseLine reader.colOrder (some (lineText (firstLineOf rest)).text) reader.row).map (fun row =>
          (true, parseHelper row cols, { reader with input := input, row := row }))).mapError
            (fun err => err.setFileName reader.input.fileName)).mapError
              (fun err => err.setFileLine (reader.input.fileLine + 1)) := by
      rw [readRow, taken]
      rfl
    have fields : fieldsOf (some (lineText (firstLineOf rest)).text) = rowOf rest := rfl
    rw [steps, colOrder, fresh, parseLine_eq, List.length_map, fields]
    rcases Nat.lt_trichotomy (rowOf rest).length indices.length with few | same | many
    · rw [if_pos few]
      exact Or.inr (Or.inr ⟨some_rest, fun claimed => absurd claimed.2 (Nat.ne_of_lt few), _, rfl⟩)
    · have enough : ¬ (rowOf rest).length < indices.length := by omega
      have fitting : ¬ indices.length < (rowOf rest).length := by omega
      have filled : parseHelper (fill (indices.map some) (rowOf rest) (Vector.replicate columnCount none)) cols =
          values indices (rowOf rest) cols := by
        apply congrArg Vector.ofFn
        funext r
        rw [fill_get different same]
        cases (indices.zip (rowOf rest)).lookup r with
        | none => simp
        | some field => rfl
      rw [if_neg enough, if_neg fitting, ← filled]
      exact Or.inr (Or.inl ⟨some_rest, short, same, _, rfl⟩)
    · have enough : ¬ (rowOf rest).length < indices.length := by omega
      rw [if_neg enough, if_pos many]
      exact Or.inr (Or.inr ⟨some_rest, fun claimed => absurd claimed.2 (Nat.ne_of_gt many), _, rfl⟩)

end CSVReader

end Csv
end MotionDetectAlarm
