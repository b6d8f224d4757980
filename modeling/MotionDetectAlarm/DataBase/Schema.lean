import MotionDetectAlarm.DataBase.Lookup
import MotionDetectAlarm.Foundation.Reorder

namespace MotionDetectAlarm
namespace DataBase

open Foundation

/-!
# What the columns of a result decide

The loader looks for its six columns by name and notes the offset of each.  A
column that has not been seen is noticed only where a row is read up to it: the
test for it stands in the loop over the columns of a row, behind the test for
NULL in the columns before it.  So a wrong table may load without complaint.

A load that does complain has pushed nothing, since a row is pushed only after
all six tests of the offsets have passed, and the offsets are the same for
every row.

With each of the six columns present once, the stores depend on the cells under
their names only, in whatever order the columns come.
-/

/-! ## Offsets -/

section Offsets

variable {columns : List CText} {told : UInt32} {names : CameraField -> UInt32} {field : CameraField}

/-- A column that is not there leaves its offset as it was. -/
theorem fetchFields_absent (absent : field.column ∉ columns.map CText.text) :
    fetchFields columns told names field = names field := by
  induction columns generalizing told names with
  | nil => rfl
  | cons key rest ih =>
      rw [List.map_cons, List.mem_cons, not_or] at absent
      rw [fetchFields, ih absent.2, if_neg absent.1]

/-- A column that is there has the offset of the last of its places. -/
theorem fetchFields_present (present : field.column ∈ columns.map CText.text)
    (countable : told.toNat + columns.length < 2 ^ 32) :
    exists k, (columns.map CText.text)[k]? = some field.column ∧
      field.column ∉ (columns.map CText.text).drop (k + 1) ∧
      (fetchFields columns told names field).toNat = told.toNat + k := by
  induction columns generalizing told names with
  | nil => cases present
  | cons key rest ih =>
      rw [List.length_cons] at countable
      have counter : (told + 1).toNat = told.toNat + 1 :=
        counter_succ_toNat (Nat.lt_succ_self _) (by omega)
      rw [fetchFields]
      by_cases later : field.column ∈ rest.map CText.text
      · rcases ih later (by omega : (told + 1).toNat + rest.length < 2 ^ 32) with ⟨k, named, last, value⟩
        refine ⟨k + 1, named, last, ?_⟩
        rw [value, counter, Nat.add_assoc, Nat.add_comm 1 k]
      · have here : field.column = key.text := by
          rw [List.map_cons, List.mem_cons] at present
          exact present.resolve_right later
        refine ⟨0, by rw [here]; rfl, later, ?_⟩
        rw [fetchFields_absent later, if_pos here, UInt32.add_sub_cancel, Nat.add_zero]

end Offsets

namespace ResultSet

variable (tables : ResultSet)

/-- The names of the columns. -/
def names : List Bytes :=
  tables.columns.map CText.text

/-- The result has no column of this name. -/
def Absent (field : CameraField) : Prop :=
  field.column ∉ tables.names

instance (field : CameraField) : Decidable (tables.Absent field) :=
  inferInstanceAs (Decidable (_ ∉ _))

variable {tables} {field : CameraField}

theorem offsets_absent (absent : tables.Absent field) : tables.offsets field = missingOffset :=
  fetchFields_absent absent

theorem offsets_present (present : ¬ tables.Absent field) :
    exists k, tables.names[k]? = some field.column ∧ field.column ∉ tables.names.drop (k + 1) ∧
      (tables.offsets field).toNat = k := by
  have countable : (0 : UInt32).toNat + tables.columns.length < 2 ^ 32 := by
    rw [show (0 : UInt32).toNat = 0 from rfl, Nat.zero_add]
    exact tables.columnCount
  rcases fetchFields_present (not_not.mp present) countable with ⟨k, named, last, value⟩
  exact ⟨k, named, last, value.trans (Nat.zero_add k)⟩

/-- The offset of a column that is there lies inside every row. -/
theorem offsets_lt (present : ¬ tables.Absent field) : (tables.offsets field).toNat < tables.columns.length := by
  rcases offsets_present present with ⟨k, named, -, value⟩
  have inNames := (List.getElem?_eq_some_iff.mp named).1
  rw [ResultSet.names, List.length_map] at inNames
  exact value ▸ inNames

/-- The sentinel stands for the absent columns and for no other. -/
theorem offsets_eq_missing_iff : tables.offsets field = missingOffset ↔ tables.Absent field := by
  constructor
  · intro missing
    by_contra present
    have inside := offsets_lt present
    have countable := tables.columnCount
    rw [missing] at inside
    have value : missingOffset.toNat = 2 ^ 32 - 1 := rfl
    omega
  · exact offsets_absent

variable (tables)

/-- The cell of a row under a name, in the last column of that name. -/
def cellUnder (row : List (Option CText)) (field : CameraField) : Option Bytes :=
  ((tables.names.zip row).reverse.lookup field.column).join.map CText.text

variable {tables}

/-- The cell that the loader reads is the one under the name. -/
theorem cell_eq_cellUnder {row : List (Option CText)} (member : row ∈ tables.rows) (field : CameraField) :
    cell tables.offsets row field = tables.cellUnder row field := by
  have width := tables.rowWidth row member
  have wide : row.length = tables.names.length := by
    rw [width, ResultSet.names, List.length_map]
  unfold cell cellUnder
  by_cases absent : tables.Absent field
  · have countable := tables.columnCount
    have outside : row.length ≤ missingOffset.toNat := by
      rw [width, show missingOffset.toNat = 2 ^ 32 - 1 from rfl]
      omega
    rw [offsets_absent absent, List.getElem?_eq_none outside, lookup_zip_eq_none absent]
  · rcases offsets_present absent with ⟨k, named, last, value⟩
    rw [value, lookup_reverse_zip wide named last]

end ResultSet

/-! ## A load that fails -/

/-- Only a column that was not seen makes a row fail. -/
theorem readRow_missing {names : CameraField -> UInt32} {row : List (Option CText)} {fields : List CameraField}
    {before : CameraInfo} (given : readRow names row fields before = .ok .missing) :
    exists field, field ∈ fields ∧ names field = missingOffset := by
  induction fields generalizing before with
  | nil => cases given
  | cons first rest ih =>
      rw [readRow] at given
      split at given
      · rename_i missing
        exact ⟨first, List.mem_cons_self, missing⟩
      · split at given
        · cases given
        · cases given
        · rcases ih given with ⟨field, member, missing⟩
          exact ⟨field, List.mem_cons_of_mem _ member, missing⟩

/-- A row that gives a record has passed the test of every offset. -/
theorem readRow_record_offsets {names : CameraField -> UInt32} {row : List (Option CText)}
    {fields : List CameraField} {before info : CameraInfo}
    (given : readRow names row fields before = .ok (.record info)) :
    forall field, field ∈ fields -> names field ≠ missingOffset := by
  induction fields generalizing before with
  | nil => exact fun _ member => absurd member List.not_mem_nil
  | cons first rest ih =>
      rw [readRow] at given
      split at given
      · cases given
      · rename_i seen
        split at given
        · cases given
        · cases given
        · intro field member
          rcases List.mem_cons.mp member with same | later
          · exact same ▸ seen
          · exact ih given field later

/-- With every column seen no row fails. -/
theorem readRows_ne_false {names : CameraField -> UInt32} {rows : List (List (Option CText))}
    {before store : List CameraInfo} (seen : forall field, field ∈ CameraField.inMapOrder -> names field ≠ missingOffset) :
    readRows names rows before ≠ .ok (false, store) := by
  induction rows generalizing before with
  | nil => exact fun given => nomatch given
  | cons row rest ih =>
      intro given
      rw [readRows] at given
      split at given
      · cases given
      · rename_i missing
        rcases readRow_missing missing with ⟨field, member, unseen⟩
        exact seen field member unseen
      · exact ih given
      · exact ih given

/-- A failing loop over the rows has pushed nothing. -/
theorem readRows_false {names : CameraField -> UInt32} {rows : List (List (Option CText))}
    {before store : List CameraInfo} (given : readRows names rows before = .ok (false, store)) : store = before := by
  induction rows generalizing before with
  | nil => cases given
  | cons row rest ih =>
      rw [readRows] at given
      split at given
      · cases given
      · cases given
        rfl
      · exact ih given
      · rename_i record
        exact absurd given (readRows_ne_false (readRow_record_offsets record))

theorem loadResult_false {before after : DataBaseOperate} {tables : ResultSet}
    (failed : before.loadResult tables = .ok (false, after)) :
    after.cameraInfoFromDB = before.cameraInfoFromDB ∧
      after.ipWarnToPhoneFromDB = before.ipWarnToPhoneFromDB := by
  unfold DataBaseOperate.loadResult at failed
  simp only at failed
  split at failed
  · cases failed
  · rename_i store read
    cases failed
    exact ⟨readRows_false read, rfl⟩
  · cases failed

/-- Whatever the stores held, whatever the library answers and whatever the
result is, a load that returns false leaves both stores as they were. -/
theorem failed_load_keeps_stores {before after : DataBaseOperate} {ptrConnect : Option MysqlSession}
    {ptrTable : Option CText} (failed : before.getCameraInfoFromDB ptrConnect ptrTable = .ok (false, after)) :
    after.cameraInfoFromDB = before.cameraInfoFromDB ∧
      after.ipWarnToPhoneFromDB = before.ipWarnToPhoneFromDB := by
  rcases getCameraInfoFromDB_cases before ptrConnect ptrTable with
    early | ⟨fault, thrown⟩ | ⟨session, tables, -, -, loads⟩
  · cases early.symm.trans failed
    exact ⟨rfl, rfl⟩
  · cases thrown.symm.trans failed
  · exact loadResult_false (loads.symm.trans failed)

def nameColumn : CText where
  text := CameraField.name.column
  noNul := by decide

/-- A result with a single column of the six and these rows. -/
def nameTable (rows : List (Option CText)) : ResultSet where
  columns := [nameColumn]
  rows := rows.map (fun cell => [cell])
  rowWidth := by
    intro row member
    rcases List.mem_map.mp member with ⟨cell, -, rfl⟩
    rfl
  columnCount := by decide

/-- A second load, of a table without addresses, leaves the lobby in the
stores. -/
theorem lobby_kept :
    exists after, ({ afterLoad lobby with cameraInfoName := fun _ => missingOffset } : DataBaseOperate).getCameraInfoFromDB
        (some (.answering (nameTable [some lobbyName]))) (some cameras) = .ok (false, after) ∧
      after.cameraInfoFromDB = (afterLoad lobby).cameraInfoFromDB ∧
      after.ipWarnToPhoneFromDB = (afterLoad lobby).ipWarnToPhoneFromDB ∧
      (afterLoad lobby).cameraInfoFromDB.length = 1 := by
  have fails : (({ afterLoad lobby with cameraInfoName := fun _ => missingOffset } :
      DataBaseOperate).getCameraInfoFromDB (some (.answering (nameTable [some lobbyName])))
      (some cameras)).map Prod.fst = .ok false := by decide
  rcases exists_of_map_eq_ok fails with ⟨⟨_, after⟩, failed, rfl⟩
  rcases failed_load_keeps_stores failed with ⟨records, phones⟩
  exact ⟨after, failed, records, phones, by decide⟩

/-! ## When an absent column is noticed -/

namespace ResultSet

variable (tables : ResultSet)

/-- A row is read up to an absent column: there is a value under every name
before it in the order of the names. -/
def NoticedIn (fields : List CameraField) (row : List (Option CText)) : Prop :=
  exists earlier field later, fields = earlier ++ field :: later ∧ tables.Absent field ∧
    forall other, other ∈ earlier -> (tables.cellUnder row other).isSome

/-- Some row is read up to an absent column. -/
def Noticed : Prop :=
  exists row, row ∈ tables.rows ∧ tables.NoticedIn CameraField.inMapOrder row

variable {tables} {row : List (Option CText)}

theorem noticedIn_cons {first : CameraField} {rest : List CameraField} :
    tables.NoticedIn (first :: rest) row ↔
      tables.Absent first ∨ (tables.cellUnder row first).isSome ∧ tables.NoticedIn rest row := by
  constructor
  · rintro ⟨earlier, field, later, split, absent, values⟩
    cases earlier with
    | nil =>
        cases split
        exact Or.inl absent
    | cons other earlier =>
        cases split
        exact Or.inr ⟨values first List.mem_cons_self, earlier, field, later, rfl, absent,
          fun other member => values other (List.mem_cons_of_mem _ member)⟩
  · rintro (absent | ⟨value, earlier, field, later, rfl, absent, values⟩)
    · exact ⟨[], first, rest, rfl, absent, fun _ member => absurd member List.not_mem_nil⟩
    · refine ⟨first :: earlier, field, later, rfl, absent, ?_⟩
      intro other member
      rcases List.mem_cons.mp member with same | before
      · exact same ▸ value
      · exact values other before

/-- A row of the result is read without leaving it, and fails exactly where an
absent column is noticed. -/
theorem readRow_returns (member : row ∈ tables.rows) (fields : List CameraField) (before : CameraInfo) :
    exists result, readRow tables.offsets row fields before = .ok result ∧
      (result = .missing ↔ tables.NoticedIn fields row) := by
  induction fields generalizing before with
  | nil =>
      refine ⟨.record before, rfl, ?_⟩
      constructor
      · exact fun impossible => nomatch impossible
      · rintro ⟨earlier, field, later, split, -⟩
        cases earlier <;> cases split
  | cons first rest ih =>
      rw [readRow]
      by_cases absent : tables.Absent first
      · exact ⟨.missing, by rw [if_pos (offsets_absent absent)], by simp [noticedIn_cons, absent]⟩
      · have seen : tables.offsets first ≠ missingOffset := fun missing => absent (offsets_eq_missing_iff.mp missing)
        have inRow : (tables.offsets first).toNat < row.length := by
          rw [tables.rowWidth row member]
          exact offsets_lt absent
        have read := cell_eq_cellUnder member first
        rw [if_neg seen]
        cases found : row[(tables.offsets first).toNat]? with
        | none => exact absurd (List.getElem?_eq_none_iff.mp found) (Nat.not_le.mpr inRow)
        | some content =>
            rw [cell, found] at read
            cases content with
            | none =>
                refine ⟨.skipped, rfl, ?_⟩
                rw [noticedIn_cons, ← read]
                simp [absent]
            | some value =>
                rcases ih (Function.update before first (some value.text)) with ⟨result, returned, fails⟩
                refine ⟨result, returned, ?_⟩
                rw [fails, noticedIn_cons, ← read]
                simp [absent]

/-- The loop over rows of the result returns, and fails exactly where one of
them notices an absent column. -/
theorem readRows_returns {rows : List (List (Option CText))} (all : forall row, row ∈ rows -> row ∈ tables.rows)
    (before : List CameraInfo) :
    exists returned store, readRows tables.offsets rows before = .ok (returned, store) ∧
      (returned = false ↔ exists row, row ∈ rows ∧ tables.NoticedIn CameraField.inMapOrder row) := by
  induction rows generalizing before with
  | nil => exact ⟨true, before, rfl, by simp⟩
  | cons row rest ih =>
      have others : forall other, other ∈ rest -> other ∈ tables.rows :=
        fun other member => all other (List.mem_cons_of_mem _ member)
      rcases readRow_returns (all row List.mem_cons_self) CameraField.inMapOrder (fun _ => none) with
        ⟨result, read, fails⟩
      rw [readRows, read]
      cases result with
      | missing => exact ⟨false, before, rfl, by simp [fails.mp rfl]⟩
      | skipped =>
          have quiet : ¬ tables.NoticedIn CameraField.inMapOrder row := by
            intro noticed
            cases fails.mpr noticed
          rcases ih others before with ⟨returned, store, done, iff⟩
          exact ⟨returned, store, done, by simp [iff, quiet]⟩
      | record info =>
          have quiet : ¬ tables.NoticedIn CameraField.inMapOrder row := by
            intro noticed
            cases fails.mpr noticed
          rcases ih others (before ++ [info]) with ⟨returned, store, done, iff⟩
          exact ⟨returned, store, done, by simp [iff, quiet]⟩

end ResultSet

/-- After `ConnectDataBase` has reset the offsets, the part of the load that
works on the result returns false exactly where an absent column is noticed. -/
theorem loadResult_returns {before : DataBaseOperate} (reset : before.cameraInfoName = fun _ => missingOffset)
    (tables : ResultSet) :
    exists returned after, before.loadResult tables = .ok (returned, after) ∧
      (returned = false ↔ tables.Noticed) := by
  rcases ResultSet.readRows_returns (show forall row, row ∈ tables.rows -> row ∈ tables.rows from
    fun _ member => member) before.cameraInfoFromDB with ⟨returned, store, read, fails⟩
  have offsets : fetchFields tables.columns 0 before.cameraInfoName = tables.offsets := by
    rw [reset]
    rfl
  simp only [DataBaseOperate.loadResult, offsets, read]
  cases returned with
  | false => exact ⟨false, _, rfl, fails⟩
  | true => exact ⟨true, _, rfl, fails⟩

/-! ## A result with all six columns -/

/-- Both queries of a load succeed and the library hands over this result. -/
def MysqlSession.Answers (session : MysqlSession) (table : CText) (tables : ResultSet) : Prop :=
  exists query, queryCmd table = .ok query ∧ session.realQueryFails (ascii "set names utf8" ++ [0]) = false ∧
    session.realQueryFails query = false ∧ session.storeResult = some tables

theorem getCameraInfoFromDB_answered {session : MysqlSession} {table : CText} {tables : ResultSet}
    (answers : session.Answers table tables) (before : DataBaseOperate) :
    before.getCameraInfoFromDB (some session) (some table) = before.loadResult tables := by
  rcases answers with ⟨query, built, named, sent, stored⟩
  simp only [DataBaseOperate.getCameraInfoFromDB, built, named, sent, stored, Bool.false_eq_true, if_false]

namespace ResultSet

variable (tables : ResultSet)

/-- Each of the six columns is there, once. -/
def HasEach : Prop :=
  forall field : CameraField, tables.names.count field.column = 1

/-- The values of a row under the six names, if none of them is NULL. -/
def completeUnder (row : List (Option CText)) : Option CameraRow :=
  if forall field, field ∈ CameraField.inMapOrder -> (tables.cellUnder row field).isSome then
    some (fun field => (tables.cellUnder row field).getD [])
  else none

/-- The rows without NULL under the six names, in row order. -/
def complete : List CameraRow :=
  tables.rows.filterMap tables.completeUnder

/-- The same result with its columns, and the cells with them, in another
order. -/
def Reordered (other : ResultSet) : Prop :=
  exists order, order.Perm (List.range tables.columns.length) ∧ other.columns = reorder order tables.columns ∧
    other.rows = tables.rows.map (reorder order)

variable {tables} {other : ResultSet}

theorem loaded_eq_complete (tables : ResultSet) : tables.loaded = tables.complete := by
  apply List.filterMap_congr
  intro row member
  simp only [completeRow, completeUnder, cell_eq_cellUnder member]

theorem not_absent_of_hasEach (each : tables.HasEach) (field : CameraField) : ¬ tables.Absent field := by
  intro absent
  have none_there := List.count_eq_zero.mpr absent
  rw [each field] at none_there
  cases none_there

theorem Reordered.names_perm (moved : tables.Reordered other) : other.names.Perm tables.names := by
  rcases moved with ⟨order, all, columns, -⟩
  rw [ResultSet.names, columns]
  exact (reorder_perm all).map CText.text

theorem Reordered.hasEach (moved : tables.Reordered other) (each : tables.HasEach) : other.HasEach := by
  intro field
  rw [moved.names_perm.count_eq]
  exact each field

/-- A row and its reordering have the same cells under the names. -/
theorem cellUnder_reorder (each : tables.HasEach) {order : List Nat}
    (all : order.Perm (List.range tables.columns.length)) (columns : other.columns = reorder order tables.columns)
    {row : List (Option CText)} (member : row ∈ tables.rows) (field : CameraField) :
    other.cellUnder (reorder order row) field = tables.cellUnder row field := by
  have size : tables.names.length = tables.columns.length := List.length_map _
  have wide : row.length = tables.names.length := (tables.rowWidth row member).trans size.symm
  have inside : forall position, position ∈ order -> position < tables.names.length := by
    intro position listed
    rw [size]
    exact List.mem_range.mp (all.mem_iff.mp listed)
  have pairs : other.names.zip (reorder order row) = reorder order (tables.names.zip row) := by
    rw [ResultSet.names, columns, map_reorder]
    exact zip_reorder wide inside
  have allPairs : order.Perm (List.range (tables.names.zip row).length) := by
    rwa [List.length_zip, wide, Nat.min_self, size]
  have same : (other.names.zip (reorder order row)).reverse.Perm (tables.names.zip row).reverse := by
    rw [pairs]
    exact (List.reverse_perm _).trans ((reorder_perm allPairs).trans (List.reverse_perm _).symm)
  have once : ((tables.names.zip row).reverse.map Prod.fst).count field.column = 1 := by
    rw [List.map_reverse, (List.reverse_perm _).count_eq, List.map_fst_zip (Nat.le_of_eq wide.symm)]
    exact each field
  rw [cellUnder, cellUnder, lookup_eq_of_perm same.symm once]

/-- Reordering the columns does not change the complete rows. -/
theorem Reordered.complete_eq (moved : tables.Reordered other) (each : tables.HasEach) :
    other.complete = tables.complete := by
  rcases moved with ⟨order, all, columns, rows⟩
  rw [complete, complete, rows, List.filterMap_map]
  apply List.filterMap_congr
  intro row member
  simp only [Function.comp_apply, completeUnder, cellUnder_reorder each all columns member]

end ResultSet

/-- A load of a result with all six columns returns true and holds its complete
rows. -/
theorem load_complete {session : MysqlSession} {table : CText} {tables : ResultSet}
    (answers : session.Answers table tables) (each : tables.HasEach) :
    exists after, DataBaseOperate.empty.getCameraInfoFromDB (some session) (some table) = .ok (true, after) ∧
      after.Holds tables.complete := by
  rcases loadResult_returns (show DataBaseOperate.empty.cameraInfoName = _ from rfl) tables with
    ⟨returned, after, loaded, fails⟩
  have quiet : ¬ tables.Noticed := by
    rintro ⟨row, -, earlier, field, later, -, absent, -⟩
    exact ResultSet.not_absent_of_hasEach each field absent
  cases returned with
  | false => exact absurd (fails.mp rfl) quiet
  | true =>
      refine ⟨after, (getCameraInfoFromDB_answered answers _).trans loaded, ?_⟩
      rw [← ResultSet.loaded_eq_complete]
      exact loadResult_holds loaded

/-- With each of the six columns present once, in any order and among any
others, the load returns true, the stores hold the rows without NULL under the
six names, and another order of the columns gives the same stores. -/
theorem load_by_names {session : MysqlSession} {table : CText} {tables : ResultSet}
    (answers : session.Answers table tables) (each : tables.HasEach) :
    exists after, DataBaseOperate.empty.getCameraInfoFromDB (some session) (some table) = .ok (true, after) ∧
      after.Holds tables.complete ∧
      forall otherSession otherTable other, MysqlSession.Answers otherSession otherTable other ->
        tables.Reordered other ->
        exists otherAfter,
          DataBaseOperate.empty.getCameraInfoFromDB (some otherSession) (some otherTable) = .ok (true, otherAfter) ∧
          otherAfter.cameraInfoFromDB = after.cameraInfoFromDB ∧
          otherAfter.ipWarnToPhoneFromDB = after.ipWarnToPhoneFromDB := by
  rcases load_complete answers each with ⟨after, loaded, held⟩
  refine ⟨after, loaded, held, ?_⟩
  intro otherSession otherTable other otherAnswers moved
  rcases load_complete otherAnswers (moved.hasEach each) with ⟨otherAfter, otherLoaded, otherHeld⟩
  rw [moved.complete_eq each] at otherHeld
  refine ⟨otherAfter, otherLoaded, otherHeld.records.trans held.records.symm, ?_⟩
  funext strIp
  exact (otherHeld.phones strIp).trans (held.phones strIp).symm

/-- The table of the lobby with its columns the other way round. -/
def lobbyReversed : ResultSet where
  columns := lobby.columns.reverse
  rows := lobby.rows.map List.reverse
  rowWidth := by
    intro cells member
    rcases List.mem_map.mp member with ⟨row, inLobby, rfl⟩
    rw [List.length_reverse, List.length_reverse]
    exact lobby.rowWidth row inLobby
  columnCount := by decide

theorem lobby_loads_reversed :
    exists after otherAfter,
      DataBaseOperate.empty.getCameraInfoFromDB (some (.answering lobby)) (some cameras) = .ok (true, after) ∧
      DataBaseOperate.empty.getCameraInfoFromDB (some (.answering lobbyReversed)) (some cameras) =
        .ok (true, otherAfter) ∧
      after.Holds lobby.complete ∧ lobby.complete.length = 1 ∧
      otherAfter.cameraInfoFromDB = after.cameraInfoFromDB ∧
      otherAfter.ipWarnToPhoneFromDB = after.ipWarnToPhoneFromDB := by
  have answers : forall tables, (MysqlSession.answering tables).Answers cameras tables :=
    fun _ => ⟨_, rfl, rfl, rfl, rfl⟩
  have each : lobby.HasEach := by
    intro field
    cases field <;> decide
  have moved : lobby.Reordered lobbyReversed := ⟨[5, 4, 3, 2, 1, 0], by decide, rfl, rfl⟩
  rcases load_by_names (answers lobby) each with ⟨after, loaded, held, others⟩
  rcases others _ _ _ (answers lobbyReversed) moved with ⟨otherAfter, otherLoaded, records, phones⟩
  exact ⟨after, otherAfter, loaded, otherLoaded, held, by decide, records, phones⟩

end DataBase
end MotionDetectAlarm
