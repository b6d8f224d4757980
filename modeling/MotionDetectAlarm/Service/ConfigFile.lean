import MotionDetectAlarm.Service.Configuration

namespace MotionDetectAlarm
namespace Service

open Foundation Csv

/-!
# Settings by the name of their column

A configuration file may list its columns in any order, pad names and values
with blanks, start with a mark and end its lines in either way.  `Layout` has
these choices, and a `ConfigFile` is a layout with the six names in its header
and six values that are not empty.  Reading such a file gives every setting the
value that stands under its own name.
-/

/-! ## Files -/

inductive LineEnd where
  | lf
  | crlf
  deriving DecidableEq

/-- What an end of line puts before the line feed. -/
def LineEnd.before : LineEnd -> Bytes
  | .lf => []
  | .crlf => [carriageReturn]

/-- The parts of a file with a header and a row. -/
structure Layout where
  bom : Bool
  header : List Bytes
  headerEnd : LineEnd
  fields : List Bytes
  /-- The end of the row and what follows it, unless the file ends with the row. -/
  tail : Option (LineEnd × Bytes)

namespace Layout

variable (layout : Layout)

def headerLine : Bytes :=
  [comma].intercalate layout.header ++ layout.headerEnd.before

def rowLine : Bytes :=
  [comma].intercalate layout.fields ++ layout.tail.elim [] (fun tail => tail.1.before)

def bytes : Bytes :=
  (if layout.bom then [0xEF, 0xBB, 0xBF] else []) ++
    (layout.headerLine ++ newline :: (layout.rowLine ++ layout.tail.elim [] (fun tail => newline :: tail.2)))

/-- The trimmed field under the column with this name. -/
def FieldUnder (name value : Bytes) : Prop :=
  exists (k : Nat) (field : Bytes),
    (layout.header.map trim)[k]? = some name ∧ layout.fields[k]? = some field ∧ value = trim field

end Layout

/-- A text that can stand in a field. -/
structure Plain (text : Bytes) : Prop where
  noComma : comma ∉ text
  noReturn : carriageReturn ∉ text
  noNewline : newline ∉ text
  noNul : 0 ∉ text

/-- A file whose header has the six names, in any order, over six values. -/
structure ConfigFile extends Layout where
  named : (header.map trim).Perm CsvParse.columnNames.toList
  wide : fields.length = 6
  plain : forall field, field ∈ fields -> Plain field
  filled : forall field, field ∈ fields -> trim field ≠ []
  shortHeader : toLayout.headerLine.length < blockLen
  shortRow : toLayout.rowLine.length < blockLen

/-- Every getter gives what stands under its column. -/
structure CsvParse.Holds (stored : CsvParse) (layout : Layout) : Prop where
  dbIp : layout.FieldUnder (ascii "DbIp") stored.getDbIp
  dbPort : layout.FieldUnder (ascii "DbPort") stored.getDbPort
  dbUserName : layout.FieldUnder (ascii "DbUserName") stored.getDbUserName
  dbPasswd : layout.FieldUnder (ascii "DbPasswd") stored.getDbPasswd
  dbName : layout.FieldUnder (ascii "DbName") stored.getDbName
  dbTable : layout.FieldUnder (ascii "DbTable") stored.getDbTable

/-! ## Lines of such a file -/

theorem mem_dropWhile_or {text : Bytes} {byte : UInt8} (member : byte ∈ text) :
    byte ∈ text.dropWhile isTrimChar ∨ isTrimChar byte := by
  have split : text.takeWhile isTrimChar ++ text.dropWhile isTrimChar = text := List.takeWhile_append_dropWhile
  rw [← split] at member
  rcases List.mem_append.mp member with leading | inner
  · exact Or.inr (List.all_eq_true.mp List.all_takeWhile byte leading)
  · exact Or.inl inner

/-- Trimming takes away blanks and tabs only. -/
theorem mem_trim_or {column : Bytes} {byte : UInt8} (member : byte ∈ column) :
    byte ∈ trim column ∨ isTrimChar byte := by
  rcases mem_dropWhile_or member with inner | blank
  · rcases mem_dropWhile_or (List.mem_reverse.mpr inner) with kept | blank
    · exact Or.inl (List.mem_reverse.mpr kept)
    · exact Or.inr blank
  · exact Or.inr blank

/-- A text and its end of line are read as the text. -/
theorem lineText_before {text : Bytes} (noReturn : carriageReturn ∉ text) (noNul : (0 : UInt8) ∉ text) (lineEnd : LineEnd) :
    (lineText (text ++ lineEnd.before)).text = text := by
  have cut : withoutReturn (text ++ lineEnd.before) = text := by
    cases lineEnd with
    | lf =>
        rw [LineEnd.before, List.append_nil, withoutReturn, if_neg]
        exact fun last => noReturn (List.mem_of_getLast? last)
    | crlf => rw [LineEnd.before, withoutReturn, List.getLast?_concat, if_pos rfl, List.dropLast_concat]
  rw [lineText, cut]
  exact takeWhile_ne_eq_self noNul

theorem newline_not_mem_before (lineEnd : LineEnd) : newline ∉ lineEnd.before := by
  cases lineEnd <;> decide

theorem firstLineOf_eq {line : Bytes} (clean : newline ∉ line) : firstLineOf line = line :=
  takeWhile_ne_eq_self clean

theorem firstLineOf_append {line more : Bytes} (clean : newline ∉ line) :
    firstLineOf (line ++ newline :: more) = line := by
  rw [firstLineOf, takeWhile_ne_append_cons]
  exact firstLineOf_eq clean

theorem afterFirstLine_append {line more : Bytes} (clean : newline ∉ line) :
    afterFirstLine (line ++ newline :: more) = more := by
  have passed : forall byte, byte ∈ line -> decide (byte ≠ newline) = true :=
    fun byte member => decide_eq_true (fun same => clean (same ▸ member))
  rw [afterFirstLine, List.dropWhile_append_of_pos passed, List.dropWhile_cons_of_neg (by simp)]
  rfl

/-! ## Values of such a file -/

namespace ConfigFile

variable (config : ConfigFile)

/-- A padded name has no byte that ends a column, a line or a text, and none
that starts a mark. -/
theorem header_plain {column : Bytes} (member : column ∈ config.header) :
    Plain column ∧ (0xEF : UInt8) ∉ column := by
  have known : trim column ∈ CsvParse.columnNames.toList :=
    config.named.mem_iff.mp (List.mem_map_of_mem member)
  have clean : forall name, name ∈ CsvParse.columnNames.toList ->
      [comma, carriageReturn, newline, 0, 0xEF].all (fun byte => decide (byte ∉ name)) = true :=
    forall_mem_of_all (by decide)
  have other : forall byte, byte ∈ [comma, carriageReturn, newline, 0, 0xEF] -> isTrimChar byte = false :=
    forall_mem_of_all (by decide)
  have absent : forall byte, byte ∈ [comma, carriageReturn, newline, 0, 0xEF] -> byte ∉ column := by
    intro byte listed inColumn
    rcases mem_trim_or inColumn with inName | blank
    · exact forall_mem_of_all (clean _ known) byte listed inName
    · rw [other byte listed] at blank
      cases blank
  refine ⟨⟨absent _ ?_, absent _ ?_, absent _ ?_, absent _ ?_⟩, absent _ ?_⟩ <;> decide

theorem header_ne_nil : config.header ≠ [] := by
  intro empty
  have size := config.named.length_eq
  rw [empty] at size
  cases size

theorem fields_ne_nil : config.fields ≠ [] := by
  intro empty
  have wide := config.wide
  rw [empty] at wide
  cases wide

theorem newline_not_mem_headerLine : newline ∉ config.headerLine := by
  rw [Layout.headerLine, List.mem_append, not_or]
  exact ⟨not_mem_intercalate (by decide) (fun _ member => (config.header_plain member).1.noNewline),
    newline_not_mem_before _⟩

theorem newline_not_mem_rowLine : newline ∉ config.rowLine := by
  rw [Layout.rowLine, List.mem_append, not_or]
  refine ⟨not_mem_intercalate (by decide) (fun _ member => (config.plain _ member).noNewline), ?_⟩
  cases config.tail with
  | none => exact List.not_mem_nil
  | some tail => exact newline_not_mem_before _

/-- Behind its mark the file starts with the header. -/
theorem withoutBom_bytes : withoutBom config.bytes =
    config.headerLine ++ newline :: (config.rowLine ++ config.tail.elim [] (fun tail => newline :: tail.2)) := by
  rw [Layout.bytes, withoutBom]
  cases config.bom with
  | true => rfl
  | false =>
      rw [if_neg Bool.false_ne_true, List.nil_append, if_neg]
      intro marked
      have first := (isPrefixOf_three.mp marked).1
      have absent : (0xEF : UInt8) ∉ config.headerLine := by
        rw [Layout.headerLine, List.mem_append, not_or]
        refine ⟨not_mem_intercalate (by decide) (fun _ member => (config.header_plain member).2), ?_⟩
        cases config.headerEnd <;> decide
      cases start : config.headerLine with
      | nil =>
          rw [start] at first
          cases first
      | cons byte line =>
          rw [start] at first absent
          exact absent (Option.some.inj first ▸ List.mem_cons_self)

theorem headerOf_bytes : headerOf (withoutBom config.bytes) = config.header.map trim := by
  have noReturn : carriageReturn ∉ [comma].intercalate config.header :=
    not_mem_intercalate (by decide) (fun _ member => (config.header_plain member).1.noReturn)
  have noNul : (0 : UInt8) ∉ [comma].intercalate config.header :=
    not_mem_intercalate (by decide) (fun _ member => (config.header_plain member).1.noNul)
  have written : Entries comma ([comma].intercalate config.header) config.header :=
    ⟨config.header_ne_nil, fun _ member => (config.header_plain member).1.noComma, rfl⟩
  rw [headerOf, withoutBom_bytes, firstLineOf_append config.newline_not_mem_headerLine, Layout.headerLine,
    lineText_before noReturn noNul, written.splitOn_eq]

/-- Behind the header stands the row. -/
theorem afterFirstLine_bytes : afterFirstLine (withoutBom config.bytes) =
    config.rowLine ++ config.tail.elim [] (fun tail => newline :: tail.2) := by
  rw [withoutBom_bytes, afterFirstLine_append config.newline_not_mem_headerLine]

theorem firstLineOf_row : firstLineOf (afterFirstLine (withoutBom config.bytes)) = config.rowLine := by
  rw [afterFirstLine_bytes]
  cases config.tail with
  | none =>
      rw [Option.elim_none, List.append_nil]
      exact firstLineOf_eq config.newline_not_mem_rowLine
  | some tail => exact firstLineOf_append config.newline_not_mem_rowLine

theorem rowOf_bytes : rowOf (afterFirstLine (withoutBom config.bytes)) = config.fields := by
  have noReturn : carriageReturn ∉ [comma].intercalate config.fields :=
    not_mem_intercalate (by decide) (fun _ member => (config.plain _ member).noReturn)
  have noNul : (0 : UInt8) ∉ [comma].intercalate config.fields :=
    not_mem_intercalate (by decide) (fun _ member => (config.plain _ member).noNul)
  have written : Entries comma ([comma].intercalate config.fields) config.fields :=
    ⟨config.fields_ne_nil, fun _ member => (config.plain _ member).noComma, rfl⟩
  have ended : exists lineEnd : LineEnd, config.rowLine = [comma].intercalate config.fields ++ lineEnd.before := by
    rw [Layout.rowLine]
    cases config.tail with
    | none => exact ⟨.lf, rfl⟩
    | some tail => exact ⟨tail.1, rfl⟩
  rcases ended with ⟨lineEnd, line⟩
  rw [rowOf, firstLineOf_row, line, lineText_before noReturn noNul, written.splitOn_eq]

theorem short : CsvParse.Short config.bytes := by
  constructor
  · rw [withoutBom_bytes, firstLineOf_append config.newline_not_mem_headerLine]
    exact config.shortHeader
  · rw [firstLineOf_row]
    exact config.shortRow

theorem afterFirstLine_ne_nil : afterFirstLine (withoutBom config.bytes) ≠ [] := by
  intro empty
  have row := config.rowOf_bytes
  rw [rowOf, empty] at row
  have wide := config.wide
  rw [← row] at wide
  exact absurd wide (by decide)

theorem readable : CsvParse.Readable config.bytes := by
  refine ⟨?_, ?_, Or.inr ?_⟩
  · rw [withoutBom_bytes]
    exact fun empty => List.cons_ne_nil _ _ (List.append_eq_nil_iff.mp empty).2
  · rw [headerOf_bytes]
    constructor
    · intro column member
      have known : column ∈ CsvParse.columnNames.toList := config.named.mem_iff.mp member
      rcases List.mem_iff_getElem.mp known with ⟨i, inNames, here⟩
      exact ⟨⟨i, inNames⟩, here.symm⟩
    · exact config.named.nodup_iff.mpr (by decide)
  · rw [rowOf_bytes, headerOf_bytes, config.wide, config.named.length_eq]
    rfl

theorem columnIndex_columnNames :
    forall r : Fin 6, columnIndex CsvParse.columnNames (CsvParse.columnNames.get r) = some r := by
  decide

/-- Each variable gets the trimmed field under its name. -/
theorem values_under {indices : List (Fin 6)}
    (named : (config.header.map trim).map (columnIndex CsvParse.columnNames) = indices.map some)
    (different : indices.Nodup) (cols : Vector Bytes 6) (r : Fin 6) :
    config.FieldUnder (CsvParse.columnNames.get r) ((CSVReader.values indices config.fields cols).get r) := by
  have listed : CsvParse.columnNames.get r ∈ config.header.map trim :=
    config.named.mem_iff.mpr (Vector.mem_toList_iff.mpr (Vector.getElem_mem r.isLt))
  rcases List.mem_iff_getElem?.mp listed with ⟨k, column⟩
  have index : indices[k]? = some r := by
    have shown : ((config.header.map trim).map (columnIndex CsvParse.columnNames))[k]? = (indices.map some)[k]? := by
      rw [named]
    rw [List.getElem?_map, column, Option.map_some, columnIndex_columnNames, List.getElem?_map] at shown
    rcases Option.map_eq_some_iff.mp shown.symm with ⟨i, here, same⟩
    exact here.trans same
  have size : config.fields.length = indices.length := by
    have sizes := congrArg List.length named
    rw [List.length_map, config.named.length_eq, List.length_map] at sizes
    exact config.wide.trans sizes
  rcases List.getElem?_eq_some_iff.mp index with ⟨inside, _⟩
  have inFields : k < config.fields.length := size ▸ inside
  have field : config.fields[k]? = some config.fields[k] := List.getElem?_eq_getElem inFields
  have pair : (r, config.fields[k]) ∈ indices.zip config.fields := by
    apply List.mem_iff_getElem?.mpr
    exact ⟨k, List.getElem?_zip_eq_some.mpr ⟨index, field⟩⟩
  have once : ((indices.zip config.fields).map Prod.fst).count r = 1 := by
    rw [List.map_fst_zip (Nat.le_of_eq size.symm)]
    exact List.count_eq_one_of_mem different (List.mem_of_getElem? index)
  refine ⟨k, _, column, field, ?_⟩
  have value : (CSVReader.values indices config.fields cols).get r =
      ((indices.zip config.fields).lookup r).elim (cols.get r) trim := Vector.getElem_ofFn r.isLt
  rw [value, (lookup_eq_some_iff_mem once).mpr pair]
  rfl

end ConfigFile

/-! ## Reading it -/

namespace CsvParse

/-- A row without an empty value is stored. -/
theorem assign_of_filled (stored : CsvParse) {cols : Vector Bytes 6} (filled : forall r, cols.get r ≠ []) :
    stored.assign cols =
      (true,
        { strDbIp := cols.get 0
          strDbPort := cols.get 1
          strDbUserName := cols.get 2
          strDbPasswd := cols.get 3
          strDbName := cols.get 4
          strDbTable := cols.get 5 }) := by
  have some_value : forall r, ¬ (cols.get r).isEmpty := fun r empty => filled r (List.isEmpty_iff.mp empty)
  refine if_neg ?_
  rintro (empty | empty | empty | empty | empty | empty)
  · exact some_value 0 empty
  · exact some_value 1 empty
  · exact some_value 2 empty
  · exact some_value 3 empty
  · exact some_value 4 empty
  · exact some_value 5 empty

theorem assign_false {stored after : CsvParse} {cols : Vector Bytes 6} (failed : stored.assign cols = (false, after)) :
    after = stored := by
  unfold assign at failed
  split at failed
  · cases failed
    rfl
  · cases failed

/-- A configuration file is read, whatever was stored before. -/
theorem parseCsvData_config (stored : CsvParse) (buffer : Nat -> UInt8) {fopen : Fopen} {path : CText}
    {config : ConfigFile} (found : fopen path = .ok config.bytes) :
    exists after, stored.parseCsvData fopen buffer (some path) = .ok (true, after) ∧ after.Holds config.toLayout := by
  rcases parseCsvData_cases found config.short stored buffer with
    ⟨-, empty, -⟩ | ⟨-, indices, named, different, -, called⟩ | ⟨refused, -⟩
  · exact absurd empty config.afterFirstLine_ne_nil
  · rw [config.headerOf_bytes] at named
    rw [config.rowOf_bytes] at called
    have under := config.values_under named different (Vector.replicate 6 [])
    have filled : forall r, (CSVReader.values indices config.fields (Vector.replicate 6 [])).get r ≠ [] := by
      intro r
      rcases under r with ⟨k, field, -, present, value⟩
      rw [value]
      exact config.filled field (List.mem_of_getElem? present)
    rw [called, assign_of_filled stored filled]
    exact ⟨_, rfl, under 0, under 1, under 2, under 3, under 4, under 5⟩
  · exact absurd config.readable refused

/-- A call that returns false has stored nothing. -/
theorem parseCsvData_false {stored after : CsvParse} {fopen : Fopen} {buffer : Nat -> UInt8}
    {ptrCsvPath : Option CText} (returned : stored.parseCsvData fopen buffer ptrCsvPath = .ok (false, after)) :
    after = stored := by
  cases ptrCsvPath with
  | none =>
      cases returned
      rfl
  | some path =>
      rcases exists_of_bind_eq_ok returned with ⟨opened, -, returned⟩
      rcases exists_of_bind_eq_ok returned with ⟨read, -, returned⟩
      rcases exists_of_bind_eq_ok returned with ⟨⟨taken, cols, later⟩, -, returned⟩
      cases taken with
      | false =>
          cases returned
          rfl
      | true => exact assign_false (Except.ok.inj returned)

/-- Each setting of a configuration file is what stands under its own name,
whatever was stored before, and a call that returns false stores nothing. -/
theorem parseCsvData_by_name (stored : CsvParse) (fopen : Fopen) (buffer : Nat -> UInt8) :
    (forall (path : CText) (config : ConfigFile), fopen path = .ok config.bytes ->
      exists after, stored.parseCsvData fopen buffer (some path) = .ok (true, after) ∧ after.Holds config.toLayout) ∧
    forall ptrCsvPath after, stored.parseCsvData fopen buffer ptrCsvPath = .ok (false, after) -> after = stored :=
  ⟨fun _ _ found => parseCsvData_config stored buffer found, fun _ _ returned => parseCsvData_false returned⟩

end CsvParse

/-- A file in another order, with padding and both ends of line. -/
def paddedFile : ConfigFile where
  bom := true
  header := [ascii "DbTable", ascii " DbName", ascii "DbPasswd", ascii "DbUserName", ascii "DbPort\t", ascii "DbIp"]
  headerEnd := .crlf
  fields := [ascii "cameras", ascii " alarm ", ascii "secret", ascii "root", ascii "3306", ascii "127.0.0.1"]
  tail := some (.lf, ascii "ignored")
  named := by decide
  wide := rfl
  plain := by
    have clean : forall field, field ∈ [ascii "cameras", ascii " alarm ", ascii "secret", ascii "root", ascii "3306",
        ascii "127.0.0.1"] -> comma ∉ field ∧ carriageReturn ∉ field ∧ newline ∉ field ∧ 0 ∉ field := by
      decide
    intro field member
    rcases clean field member with ⟨noComma, noReturn, noNewline, noNul⟩
    exact ⟨noComma, noReturn, noNewline, noNul⟩
  filled := by decide
  shortHeader := by decide
  shortRow := by decide

theorem paddedFile_read :
    exists after : CsvParse,
      CsvParse.constructed.parseCsvData (fun _ => .ok paddedFile.bytes) (fun _ => 0) (some CsvParse.csvPath) =
        .ok (true, after) ∧ after.Holds paddedFile.toLayout :=
  (CsvParse.parseCsvData_by_name CsvParse.constructed (fun _ => .ok paddedFile.bytes) (fun _ => 0)).1 CsvParse.csvPath
    paddedFile rfl

end Service
end MotionDetectAlarm
