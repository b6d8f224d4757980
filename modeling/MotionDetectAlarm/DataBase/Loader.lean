import MotionDetectAlarm.DataBase.Stores
import MotionDetectAlarm.Foundation.Separated

namespace MotionDetectAlarm
namespace DataBase

open Foundation

/-!
# What a successful load stores

A row counts as loaded when it has a value under each of the six columns.  The
results here describe the two stores after a load that started from empty ones
as functions of the loaded rows alone: the records are the loaded rows without
their numbers, in row order, and the map holds under each address the numbers
of the last loaded row with that address.
-/

/-! ## The splitter -/

/-- The splitter cuts at every comma. -/
theorem extractLoop_eq (text phoneNum : Bytes) (vectPhoneNum : List Bytes)
    (open_entry : (0x2C : UInt8) ∉ phoneNum) :
    extractLoop text phoneNum vectPhoneNum = vectPhoneNum ++ (phoneNum ++ text).splitOn 0x2C := by
  induction text generalizing phoneNum vectPhoneNum with
  | nil => rw [extractLoop, List.append_nil, List.splitOn_eq_singleton open_entry]
  | cons byte rest ih =>
      rw [extractLoop]
      by_cases comma : byte = 0x2C
      · rw [if_neg (not_not.mpr comma), ih [] _ List.not_mem_nil, comma,
          List.splitOn_append_cons_self_of_not_mem open_entry, List.append_assoc]
        rfl
      · rw [if_pos comma, ih (phoneNum ++ [byte]) _ ?_, List.append_assoc]
        · rfl
        · intro member
          rcases List.mem_append.mp member with inside | last
          · exact open_entry inside
          · exact comma (List.mem_singleton.mp last).symm

theorem extractPhoneNumber_eq (strPhoneNum : Bytes) (vectPhoneNum : List Bytes) :
    extractPhoneNumber strPhoneNum vectPhoneNum = vectPhoneNum ++ strPhoneNum.splitOn 0x2C :=
  extractLoop_eq strPhoneNum [] vectPhoneNum List.not_mem_nil

/-- The splitter appends the entries of its text, which are determined by the
text and one more than its commas, and takes any entries without a comma back
from the text that joins them. -/
theorem extractPhoneNumber_inverse :
    (forall strPhoneNum vectPhoneNum, exists entries,
      extractPhoneNumber strPhoneNum vectPhoneNum = vectPhoneNum ++ entries ∧
        Entries 0x2C strPhoneNum entries ∧
        (forall others, Entries 0x2C strPhoneNum others -> others = entries) ∧
        entries.length = strPhoneNum.count 0x2C + 1) ∧
    forall (entries : List Bytes) (vectPhoneNum : List Bytes), entries ≠ [] ->
      (forall entry, entry ∈ entries -> (0x2C : UInt8) ∉ entry) ->
        extractPhoneNumber ([0x2C].intercalate entries) vectPhoneNum = vectPhoneNum ++ entries := by
  constructor
  · intro strPhoneNum vectPhoneNum
    have written : Entries 0x2C strPhoneNum (strPhoneNum.splitOn (0x2C : UInt8)) := Entries.of_splitOn strPhoneNum
    exact ⟨_, extractPhoneNumber_eq strPhoneNum vectPhoneNum, written, fun _ again => again.unique written,
      written.length⟩
  · intro entries vectPhoneNum some_entry clean
    have written : Entries 0x2C ([(0x2C : UInt8)].intercalate entries) entries := ⟨some_entry, clean, rfl⟩
    rw [extractPhoneNumber_eq, written.splitOn_eq]

/-- Two numbers with an empty entry between them. -/
theorem empty_entry_extracted :
    extractPhoneNumber ([0x2C].intercalate [ascii "10086", [], ascii "10010"]) [] =
      [] ++ [ascii "10086", [], ascii "10010"] :=
  extractPhoneNumber_inverse.2 _ _ (by decide) (forall_mem_of_all (by decide))

/-- Texts with the same entries are equal. -/
theorem splitOn_comma_injective {left right : Bytes}
    (same : left.splitOn 0x2C = right.splitOn (0x2C : UInt8)) : left = right := by
  calc
    left = [0x2C].intercalate (left.splitOn 0x2C) := (List.intercalate_splitOn _).symm
    _ = [0x2C].intercalate (right.splitOn 0x2C) := by rw [same]
    _ = right := List.intercalate_splitOn _

/-! ## Loaded rows -/

/-- A row that has been loaded: a value for each column. -/
abbrev CameraRow := CameraField -> Bytes

/-- The value a row has under a column, if it is there and not NULL. -/
def cell (names : CameraField -> UInt32) (row : List (Option CText)) (field : CameraField) : Option Bytes :=
  (row[(names field).toNat]?).join.map CText.text

/-- The row with its six values, if it has them all. -/
def completeRow (names : CameraField -> UInt32) (row : List (Option CText)) : Option CameraRow :=
  if forall field, field ∈ CameraField.inMapOrder -> (cell names row field).isSome then
    some (fun field => (cell names row field).getD [])
  else none

namespace ResultSet

variable (tables : ResultSet)

/-- The offsets that the loader finds for the columns. -/
def offsets : CameraField -> UInt32 :=
  fetchFields tables.columns 0 (fun _ => missingOffset)

/-- The loaded rows, in row order. -/
def loaded : List CameraRow :=
  tables.rows.filterMap (completeRow tables.offsets)

/-- The loaded rows of one address. -/
def rowsOf (strIp : Bytes) : List CameraRow :=
  tables.loaded.filter (fun row => row .ip = strIp)

end ResultSet

/-- The record of a row before the numbers are taken out. -/
def fullInfo (row : CameraRow) : CameraInfo :=
  fun field => some (row field)

/-- The record of a row as it stays in the store. -/
def storedInfo (row : CameraRow) : CameraInfo :=
  Function.update (fullInfo row) .phonenums none

/-! ## Reading rows -/

/-- A row that gives a record had a value under every column visited. -/
theorem readRow_record {names : CameraField -> UInt32} {row : List (Option CText)}
    {fields : List CameraField} {before info : CameraInfo}
    (given : readRow names row fields before = .ok (.record info)) :
    (forall field, field ∈ fields -> (cell names row field).isSome) ∧
      info = fun field => if field ∈ fields then cell names row field else before field := by
  induction fields generalizing before with
  | nil =>
      cases given
      refine ⟨fun field member => absurd member List.not_mem_nil, ?_⟩
      funext field
      rw [if_neg List.not_mem_nil]
  | cons first rest ih =>
      rw [readRow] at given
      split at given
      · cases given
      · split at given
        · cases given
        · cases given
        · rename_i value found
          have here : cell names row first = some value.text := by
            rw [cell, found]
            rfl
          rcases ih given with ⟨present, same⟩
          constructor
          · intro field member
            rcases List.mem_cons.mp member with first_one | later
            · rw [first_one, here]
              rfl
            · exact present field later
          · rw [same]
            funext field
            by_cases later : field ∈ rest
            · rw [if_pos later, if_pos (List.mem_cons_of_mem _ later)]
            · by_cases first_one : field = first
              · rw [if_neg later, first_one, Function.update_self, if_pos List.mem_cons_self, here]
              · rw [if_neg later, Function.update_of_ne first_one,
                  if_neg (fun member => (List.mem_cons.mp member).elim first_one later)]

/-- A row that is skipped lacks a value. -/
theorem readRow_skipped {names : CameraField -> UInt32} {row : List (Option CText)}
    {fields : List CameraField} {before : CameraInfo}
    (given : readRow names row fields before = .ok .skipped) :
    exists field, field ∈ fields ∧ cell names row field = none := by
  induction fields generalizing before with
  | nil => cases given
  | cons first rest ih =>
      rw [readRow] at given
      split at given
      · cases given
      · split at given
        · cases given
        · rename_i null
          refine ⟨first, List.mem_cons_self, ?_⟩
          rw [cell, null]
          rfl
        · rcases ih given with ⟨field, member, absent⟩
          exact ⟨field, List.mem_cons_of_mem _ member, absent⟩

/-- A load that reads all rows has pushed exactly the complete ones. -/
theorem readRows_true {names : CameraField -> UInt32} {rows : List (List (Option CText))}
    {before store : List CameraInfo} (given : readRows names rows before = .ok (true, store)) :
    store = before ++ (rows.filterMap (completeRow names)).map fullInfo := by
  induction rows generalizing before with
  | nil =>
      cases given
      exact (List.append_nil _).symm
  | cons row rest ih =>
      rw [readRows] at given
      split at given
      · cases given
      · cases given
      · rename_i skipped
        rcases readRow_skipped skipped with ⟨field, member, absent⟩
        have incomplete : completeRow names row = none := by
          rw [completeRow, if_neg]
          intro all
          have present := all field member
          rw [absent] at present
          cases present
        rw [ih given, List.filterMap_cons, incomplete]
      · rename_i info record
        rcases readRow_record record with ⟨present, same⟩
        have complete : completeRow names row = some (fun field => (cell names row field).getD []) := by
          rw [completeRow, if_pos present]
        have full : info = fullInfo (fun field => (cell names row field).getD []) := by
          rw [same]
          funext field
          rcases Option.isSome_iff_exists.mp (present field (CameraField.mem_inMapOrder field)) with
            ⟨value, found⟩
          rw [if_pos (CameraField.mem_inMapOrder field), fullInfo, found]
          rfl
        rw [ih given, List.filterMap_cons, complete, full, List.append_assoc]
        rfl

/-! ## Filling the map -/

/-- The numbers of the last of some rows, or the value from before. -/
def lastPhones (rows : List CameraRow) (before : Option (List Bytes)) : Option (List Bytes) :=
  match rows.getLast? with
  | some row => some ((row .phonenums).splitOn 0x2C)
  | none => before

theorem lastPhones_cons (row : CameraRow) (rows : List CameraRow) (before : Option (List Bytes)) :
    lastPhones (row :: rows) before = lastPhones rows (some ((row .phonenums).splitOn 0x2C)) := by
  rw [lastPhones, lastPhones, List.getLast?_cons]
  cases rows.getLast? <;> rfl

/-- The last loop takes the numbers out of every record, and each address
keeps those of its last row. -/
theorem fillPhones_eq (rows : List CameraRow) (phones : Bytes -> Option (List Bytes)) :
    fillPhones (rows.map fullInfo) phones =
      (rows.map storedInfo,
        fun strIp => lastPhones (rows.filter (fun row => row .ip = strIp)) (phones strIp)) := by
  induction rows generalizing phones with
  | nil => rfl
  | cons row rest ih =>
      have numbers : (fullInfo row).subscript .phonenums = (row .phonenums, fullInfo row) := rfl
      have address : (fullInfo row).subscript .ip = (row .ip, fullInfo row) := rfl
      simp only [List.map_cons, fillPhones, numbers, address, ih, extractPhoneNumber_eq, List.nil_append]
      refine Prod.ext rfl ?_
      funext strIp
      change lastPhones _ (Function.update phones (row .ip) _ strIp) = lastPhones _ _
      by_cases same : row .ip = strIp
      · rw [List.filter_cons_of_pos (by simpa using same), lastPhones_cons, same, Function.update_self]
      · rw [List.filter_cons_of_neg (by simpa using same),
          Function.update_of_ne (Ne.symm same)]

/-! ## The two stores -/

/-- The two stores hold these rows: the records without their numbers, and
under each address the numbers of its last row. -/
structure DataBaseOperate.Holds (dataBase : DataBaseOperate) (rows : List CameraRow) : Prop where
  records : dataBase.cameraInfoFromDB = rows.map storedInfo
  phones : forall strIp, dataBase.ipWarnToPhoneFromDB strIp =
    ((rows.filter (fun row => row .ip = strIp)).getLast?).map (fun row => (row .phonenums).splitOn 0x2C)

/-- A successful load from empty stores holds exactly the loaded rows. -/
theorem loadResult_holds {tables : ResultSet} {after : DataBaseOperate}
    (loaded : DataBaseOperate.empty.loadResult tables = .ok (true, after)) : after.Holds tables.loaded := by
  unfold DataBaseOperate.loadResult at loaded
  simp only at loaded
  split at loaded
  · cases loaded
  · cases loaded
  · rename_i store read
    have pushed := readRows_true read
    cases loaded
    subst pushed
    have filled := fillPhones_eq tables.loaded (fun _ => none)
    constructor
    · exact congrArg Prod.fst filled
    · intro strIp
      refine (congrFun (congrArg Prod.snd filled) strIp).trans ?_
      simp only [lastPhones]
      cases (tables.loaded.filter (fun row => row .ip = strIp)).getLast? <;> rfl

/-- `GetCameraInfoFromDB` fails before there is a result and leaves everything as
it was, or loads the stored result. -/
theorem getCameraInfoFromDB_cases (before : DataBaseOperate) (ptrConnect : Option MysqlSession)
    (ptrTable : Option CText) :
    before.getCameraInfoFromDB ptrConnect ptrTable = .ok (false, before) ∨
      (exists fault, before.getCameraInfoFromDB ptrConnect ptrTable = .error fault) ∨
      exists session tables, ptrConnect = some session ∧ session.storeResult = some tables ∧
        before.getCameraInfoFromDB ptrConnect ptrTable = before.loadResult tables := by
  unfold DataBaseOperate.getCameraInfoFromDB
  split
  · rename_i session table
    split
    · exact Or.inr (Or.inl ⟨_, rfl⟩)
    · split
      · exact Or.inl rfl
      · split
        · exact Or.inl rfl
        · cases stored : session.storeResult with
          | none => exact Or.inl rfl
          | some tables => exact Or.inr (Or.inr ⟨session, tables, rfl, stored, rfl⟩)
  · exact Or.inl rfl

/-- `GetCameraInfoFromDB` returns true only after reading a stored result. -/
theorem getCameraInfoFromDB_true {before after : DataBaseOperate} {ptrConnect : Option MysqlSession}
    {ptrTable : Option CText} (returned : before.getCameraInfoFromDB ptrConnect ptrTable = .ok (true, after)) :
    exists session tables, ptrConnect = some session ∧ session.storeResult = some tables ∧
      before.loadResult tables = .ok (true, after) := by
  rcases getCameraInfoFromDB_cases before ptrConnect ptrTable with
    early | ⟨fault, failed⟩ | ⟨session, tables, connected, stored, loads⟩
  · cases early.symm.trans returned
  · cases failed.symm.trans returned
  · exact ⟨session, tables, connected, stored, loads.symm.trans returned⟩

end DataBase
end MotionDetectAlarm
