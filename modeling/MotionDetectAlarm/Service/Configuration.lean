import MotionDetectAlarm.Csv.Reader
import MotionDetectAlarm.Service.Startup

namespace MotionDetectAlarm
namespace Service

open Foundation Csv

/-!
# The configuration file

`main` reads its access to the database from a file of two lines, the names of
six columns and a row.  `ParseCsvData` reports a missing row and an empty value
with false and leaves what it has stored alone.  Nothing catches what the reader
throws, so a file that it refuses ends the program before `main` looks at the
result.
-/

/-! ## Data -/

/-- The members of `CsvParse`. -/
structure CsvParse where
  strDbIp : Bytes
  strDbPort : Bytes
  strDbUserName : Bytes
  strDbPasswd : Bytes
  strDbName : Bytes
  strDbTable : Bytes
  deriving DecidableEq

namespace CsvParse

def constructed : CsvParse where
  strDbIp := []
  strDbPort := []
  strDbUserName := []
  strDbPasswd := []
  strDbName := []
  strDbTable := []

/-- The names in the call of `read_header`. -/
def columnNames : Vector Bytes 6 :=
  #v[ascii "DbIp", ascii "DbPort", ascii "DbUserName", ascii "DbPasswd", ascii "DbName", ascii "DbTable"]

variable (stored : CsvParse)

/-- What is done with the variables of a row that has been read. -/
def assign (cols : Vector Bytes 6) : Bool × CsvParse :=
  if cols[0].isEmpty ∨ cols[1].isEmpty ∨ cols[2].isEmpty ∨ cols[3].isEmpty ∨ cols[4].isEmpty ∨ cols[5].isEmpty then
    (false, stored)
  else
    (true,
      { strDbIp := cols[0]
        strDbPort := cols[1]
        strDbUserName := cols[2]
        strDbPasswd := cols[3]
        strDbName := cols[4]
        strDbTable := cols[5] })

def parseCsvData (fopen : Fopen) (buffer : Nat -> UInt8) (ptrCsvPath : Option CText) :
    Except CsvError (Bool × CsvParse) :=
  match ptrCsvPath with
  | none => .ok (false, stored)
  | some path => do
      let csvParsed <- CSVReader.constructed 6 fopen buffer path
      let csvParsed <- csvParsed.readHeader ignoreMissingColumn columnNames
      let (read, cols, _) <- csvParsed.readRow (Vector.replicate 6 [])
      if read = false then return (false, stored)
      else return stored.assign cols

def getDbIp : Bytes :=
  stored.strDbIp

def getDbPort : Bytes :=
  stored.strDbPort

def getDbUserName : Bytes :=
  stored.strDbUserName

def getDbPasswd : Bytes :=
  stored.strDbPasswd

def getDbName : Bytes :=
  stored.strDbName

def getDbTable : Bytes :=
  stored.strDbTable

/-- What `main` takes from the getters. -/
def dbCfg : DbCfg where
  dbIp := stored.getDbIp
  dbPort := stored.getDbPort
  dbUserName := stored.getDbUserName
  dbPasswd := stored.getDbPasswd
  dbName := stored.getDbName
  dbTable := stored.getDbTable

end CsvParse

/-! ## What a call does -/

namespace CsvParse

variable {stored : CsvParse} {fopen : Fopen} {buffer : Nat -> UInt8} {path : CText} {file : Bytes}

/-- The reader takes the file: behind its mark it is not empty, its first line
has different names of columns, and there is no second line or one with as many
fields. -/
def Readable (file : Bytes) : Prop :=
  withoutBom file ≠ [] ∧ Accepted columnNames (headerOf (withoutBom file)) ∧
    (afterFirstLine (withoutBom file) = [] ∨
      (rowOf (afterFirstLine (withoutBom file))).length = (headerOf (withoutBom file)).length)

/-- The first two lines are shorter than a block. -/
def Short (file : Bytes) : Prop :=
  (firstLineOf (withoutBom file)).length < blockLen ∧
    (firstLineOf (afterFirstLine (withoutBom file))).length < blockLen

/-- What a call makes of a file that can be opened. -/
theorem parseCsvData_cases (found : fopen path = .ok file) (short : Short file) (stored : CsvParse)
    (buffer : Nat -> UInt8) :
    (Readable file ∧ afterFirstLine (withoutBom file) = [] ∧
      stored.parseCsvData fopen buffer (some path) = .ok (false, stored)) ∨
    (Readable file ∧ exists indices : List (Fin 6),
      (headerOf (withoutBom file)).map (columnIndex columnNames) = indices.map some ∧ indices.Nodup ∧
        (rowOf (afterFirstLine (withoutBom file))).length = indices.length ∧
          stored.parseCsvData fopen buffer (some path) =
            .ok (stored.assign
              (CSVReader.values indices (rowOf (afterFirstLine (withoutBom file))) (Vector.replicate 6 [])))) ∨
    (¬ Readable file ∧ exists err, stored.parseCsvData fopen buffer (some path) = .error err) := by
  let rest := withoutBom file
  let opened : CSVReader 6 :=
    { input := LineReader.init buffer (truncate maxFileNameLength path.text) file
      row := Vector.replicate 6 none
      columnNames := Vector.ofFn (fun i => ascii ("col" ++ toString (i.val + 1)))
      colOrder := (List.finRange 6).map some }
  have fronts : opened.input.Fronts rest := LineReader.init_fronts buffer _ file
  have constructs : CSVReader.constructed 6 fopen buffer path = .ok opened := by
    rw [CSVReader.constructed, LineReader.constructed, found]
    rfl
  have steps : stored.parseCsvData fopen buffer (some path) =
      (opened.readHeader ignoreMissingColumn columnNames >>= fun csvParsed =>
        csvParsed.readRow (Vector.replicate 6 []) >>= fun row =>
          if row.1 = false then .ok (false, stored) else .ok (stored.assign row.2.1)) := by
    rw [parseCsvData, constructs]
    rfl
  rw [steps]
  rcases CSVReader.readHeader_cases fronts columnNames with
    ⟨some_rest, -, accepted, after, indices, read, header⟩ | ⟨refused, err, thrown⟩
  · rw [read, ok_bind]
    have wide : (headerOf rest).length = indices.length := by
      have sizes := congrArg List.length header.named
      rwa [List.length_map, List.length_map] at sizes
    rcases CSVReader.readRow_cases header.fronts header.different header.colOrder header.row (Vector.replicate 6 []) with
      ⟨empty, atEnd⟩ | ⟨-, -, same, last, taken⟩ | ⟨some_line, other, err, thrown⟩
    · rw [atEnd]
      exact Or.inl ⟨⟨some_rest, accepted, Or.inl empty⟩, empty, rfl⟩
    · rw [taken]
      exact Or.inr (Or.inl ⟨⟨some_rest, accepted, Or.inr (same.trans wide.symm)⟩, indices, header.named,
        header.different, same, rfl⟩)
    · rw [thrown]
      refine Or.inr (Or.inr ⟨?_, err, rfl⟩)
      rintro ⟨-, -, empty | same⟩
      · exact some_line empty
      · exact other ⟨short.2, same.trans wide⟩
  · rw [thrown]
    refine Or.inr (Or.inr ⟨?_, err, rfl⟩)
    rintro ⟨some_rest, accepted, -⟩
    exact refused ⟨some_rest, short.1, accepted⟩

/-- Lines below the limit of the reader. -/
theorem short_of_lines (bounded : forall line, line ∈ (withoutBom file).splitOn newline -> line.length < blockLen) :
    Short file := by
  rw [splitOn_eq_takeWhile_cons] at bounded
  refine ⟨bounded _ List.mem_cons_self, ?_⟩
  rw [afterFirstLine]
  cases remaining : (withoutBom file).dropWhile (fun byte => byte ≠ newline) with
  | nil => exact blockLen_pos
  | cons byte more =>
      rw [remaining] at bounded
      refine bounded _ (List.mem_cons_of_mem _ ?_)
      change firstLineOf more ∈ more.splitOn newline
      rw [splitOn_eq_takeWhile_cons]
      exact List.mem_cons_self

/-- On lines below the limit a call returns, with true or with false, if and
only if there is a file and the reader takes it.  Otherwise what the reader
throws gets out of it. -/
theorem parseCsvData_returns_iff (stored : CsvParse) (fopen : Fopen) (buffer : Nat -> UInt8) (path : CText)
    (bounded : forall file line, fopen path = .ok file -> line ∈ (withoutBom file).splitOn newline ->
      line.length < blockLen) :
    (exists parsed after, stored.parseCsvData fopen buffer (some path) = .ok (parsed, after)) ↔
      exists file, fopen path = .ok file ∧ Readable file := by
  cases found : fopen path with
  | error errnoValue =>
      have constructs : CSVReader.constructed 6 fopen buffer path = .error
          { kind := .canNotOpenFile
            fileName := truncate maxFileNameLength path.text
            errnoValue := errnoValue } := by
        rw [CSVReader.constructed, LineReader.constructed, found]
        rfl
      refine iff_of_false ?_ ?_
      · rintro ⟨parsed, after, returned⟩
        rw [parseCsvData, constructs] at returned
        cases returned
      · rintro ⟨file, opened, -⟩
        cases opened
  | ok file =>
      have short := short_of_lines (fun line member => bounded file line found member)
      rcases parseCsvData_cases found short stored buffer with
        ⟨readable, -, called⟩ | ⟨readable, indices, -, -, -, called⟩ | ⟨refused, err, called⟩
      · rw [called]
        exact iff_of_true ⟨_, _, rfl⟩ ⟨file, rfl, readable⟩
      · rw [called]
        exact iff_of_true ⟨_, _, rfl⟩ ⟨file, rfl, readable⟩
      · rw [called]
        refine iff_of_false ?_ ?_
        · rintro ⟨parsed, after, returned⟩
          cases returned
        · rintro ⟨other, same, readable⟩
          cases same
          exact refused readable

/-- Where `main` has its configuration. -/
def csvPath : CText :=
  cStr (ascii "/usr/local/mdalarm/DbCfg.csv")

/-- A header alone. -/
theorem header_alone_returns :
    exists parsed after,
      constructed.parseCsvData (fun _ => .ok (ascii "DbIp, DbPort\n")) (fun _ => 0) (some csvPath) =
        .ok (parsed, after) := by
  refine (parseCsvData_returns_iff constructed _ (fun _ => 0) csvPath ?_).mpr ⟨_, rfl, by decide, ?_, Or.inl rfl⟩
  · rintro file line opened
    cases opened
    intro member
    have lines : forall line, line ∈ (withoutBom (ascii "DbIp, DbPort\n")).splitOn newline -> line.length < blockLen := by
      decide
    exact lines line member
  · have known : forall column, column ∈ headerOf (withoutBom (ascii "DbIp, DbPort\n")) ->
        exists i : Fin 6, column = columnNames[i] := by decide
    exact ⟨known, by decide⟩

/-- Without a file the exception of the constructor gets out. -/
theorem absent_file_escapes :
    constructed.parseCsvData (fun _ => .error 2) (fun _ => 0) (some csvPath) =
        .error
          { kind := .canNotOpenFile
            fileName := ascii "/usr/local/mdalarm/DbCfg.csv"
            errnoValue := 2 } ∧
      ¬ exists parsed after, constructed.parseCsvData (fun _ => .error 2) (fun _ => 0) (some csvPath) =
        .ok (parsed, after) := by
  have thrown : constructed.parseCsvData (fun _ => .error 2) (fun _ => 0) (some csvPath) =
      .error
        { kind := .canNotOpenFile
          fileName := ascii "/usr/local/mdalarm/DbCfg.csv"
          errnoValue := 2 } := rfl
  refine ⟨thrown, ?_⟩
  rintro ⟨parsed, after, returned⟩
  rw [thrown] at returned
  cases returned

end CsvParse

end Service
end MotionDetectAlarm
