import MotionDetectAlarm.Foundation.Bytes
import Mathlib.Logic.Function.Basic

namespace MotionDetectAlarm
namespace DataBase

open Foundation

/-!
# The camera table

`DataBaseOperate` loads a table of cameras over MySQL once, at the start, and
answers all later questions from two static containers: the list of camera
records, and a map from a camera's address to the telephone numbers to warn.

The records are `std::map`s whose keys are the six column names that the class
declares, so a record is a partial function on `CameraField`.  Reading with
`operator[]` inserts an empty value under a missing key; `subscript` keeps that
effect.  The table of column offsets has all six keys from `ConnectDataBase` on
and is iterated in the order of its keys.

What the MySQL client library returns is an argument of the model.  Its result
sets are described by the facts the library documents: a row has one cell for
each column, and the number of columns is an `unsigned int`.
-/

/-! ## Columns -/

/-- The six columns, in the order in which `std::map` iterates their names. -/
inductive CameraField where
  | ip
  | loginPort
  | name
  | password
  | phonenums
  | username
  deriving DecidableEq, Repr

namespace CameraField

/-- `CameraIp`, `CameraPort`, `CameraName`, `Passwd`, `PhonNums`, `UserName`. -/
def column : CameraField -> Bytes
  | ip => ascii "ip"
  | loginPort => ascii "login_port"
  | name => ascii "name"
  | password => ascii "password"
  | phonenums => ascii "phonenums"
  | username => ascii "username"

def inMapOrder : List CameraField := [ip, loginPort, name, password, phonenums, username]

theorem mem_inMapOrder (field : CameraField) : field ∈ inMapOrder := by
  cases field <;> decide

/-- The listed order is the lexicographic order of the column names. -/
theorem inMapOrder_sorted : (inMapOrder.map column).Pairwise (fun left right => left < right) := by
  decide

end CameraField

/-- `MYSQL_RES`: column names and rows of nullable texts. -/
structure ResultSet where
  columns : List CText
  rows : List (List (Option CText))
  rowWidth : forall row, row ∈ rows -> row.length = columns.length
  columnCount : columns.length < 2 ^ 32

/-- What a connection answers to the calls of the loader. -/
structure MysqlSession where
  /-- `mysql_real_query` returns a non-zero code. -/
  realQueryFails : Bytes -> Bool
  /-- `mysql_store_result`, with `none` for a null pointer. -/
  storeResult : Option ResultSet

/-! ## Stores -/

/-- One record of `CameraInfoFromDB`. -/
abbrev CameraInfo := CameraField -> Option Bytes

namespace CameraInfo

/-- `operator[]` on a record: the value, and the record after it. -/
def subscript (info : CameraInfo) (field : CameraField) : Bytes × CameraInfo :=
  match info field with
  | some value => (value, info)
  | none => ([], Function.update info field (some []))

def erase (info : CameraInfo) (field : CameraField) : CameraInfo :=
  Function.update info field none

end CameraInfo

/-- The static members of `DataBaseOperate`. -/
structure DataBaseOperate where
  cameraInfoName : CameraField -> UInt32
  cameraInfoFromDB : List CameraInfo
  ipWarnToPhoneFromDB : Bytes -> Option (List Bytes)

/-- The offset of a column that has not been seen. -/
def missingOffset : UInt32 := 0xFFFFFFFF

/-- The members as `ConnectDataBase` finds them at the start of the program,
after it has entered the six column names. -/
def DataBaseOperate.empty : DataBaseOperate where
  cameraInfoName := fun _ => missingOffset
  cameraInfoFromDB := []
  ipWarnToPhoneFromDB := fun _ => none

/-! ## Loading -/

/-- The loop of `ExtractPhoneNumber`, with its partial entry `PhoneNum`. -/
def extractLoop : Bytes -> Bytes -> List Bytes -> List Bytes
  | [], phoneNum, vectPhoneNum => vectPhoneNum ++ [phoneNum]
  | byte :: rest, phoneNum, vectPhoneNum =>
      if byte ≠ 0x2C then extractLoop rest (phoneNum ++ [byte]) vectPhoneNum
      else extractLoop rest [] (vectPhoneNum ++ [phoneNum])

def extractPhoneNumber (strPhoneNum : Bytes) (vectPhoneNum : List Bytes) : List Bytes :=
  extractLoop strPhoneNum [] vectPhoneNum

/-- The loop over `mysql_fetch_field`.  `told` is `mysql_field_tell` before the
next fetch, so that after it the offset stored is one less than the cursor. -/
def fetchFields : List CText -> UInt32 -> (CameraField -> UInt32) -> CameraField -> UInt32
  | [], _, names => names
  | key :: rest, told, names =>
      fetchFields rest (told + 1)
        (fun field => if field.column = key.text then told + 1 - 1 else names field)

/-- What one row gives: a column is missing, a cell is NULL, or a record. -/
inductive RowResult where
  | missing
  | skipped
  | record (info : CameraInfo)

/-- The loop over the columns of one row, in map order. -/
def readRow (names : CameraField -> UInt32) (row : List (Option CText)) :
    List CameraField -> CameraInfo -> Except Fault RowResult
  | [], info => .ok (.record info)
  | field :: rest, info =>
      if names field = missingOffset then .ok .missing
      else
        match row[(names field).toNat]? with
        | none => .error .outOfBounds
        | some none => .ok .skipped
        | some (some cell) => readRow names row rest (Function.update info field (some cell.text))

/-- The loop over `mysql_fetch_row`.  A missing column ends the load, with the
rows pushed so far left in the store. -/
def readRows (names : CameraField -> UInt32) :
    List (List (Option CText)) -> List CameraInfo -> Except Fault (Bool × List CameraInfo)
  | [], store => .ok (true, store)
  | row :: rest, store =>
      match readRow names row CameraField.inMapOrder (fun _ => none) with
      | .error fault => .error fault
      | .ok .missing => .ok (false, store)
      | .ok .skipped => readRows names rest store
      | .ok (.record info) => readRows names rest (store ++ [info])

/-- The last loop of the loader, over the whole store: the numbers move from
the record into the map. -/
def fillPhones : List CameraInfo -> (Bytes -> Option (List Bytes)) ->
    List CameraInfo × (Bytes -> Option (List Bytes))
  | [], phones => ([], phones)
  | info :: rest, phones =>
      let (strPhoneNum, withPhones) := info.subscript .phonenums
      let vectPhone := extractPhoneNumber strPhoneNum []
      let (strIp, withIp) := withPhones.subscript .ip
      let filled := fillPhones rest (Function.update phones strIp (some vectPhone))
      (withIp.erase .phonenums :: filled.1, filled.2)

/-- The part of `GetCameraInfoFromDB` that works on the stored result. -/
def DataBaseOperate.loadResult (dataBase : DataBaseOperate) (tables : ResultSet) :
    Except Fault (Bool × DataBaseOperate) :=
  let names := fetchFields tables.columns 0 dataBase.cameraInfoName
  match readRows names tables.rows dataBase.cameraInfoFromDB with
  | .error fault => .error fault
  | .ok (false, store) =>
      .ok (false, { dataBase with cameraInfoName := names, cameraInfoFromDB := store })
  | .ok (true, store) =>
      let filled := fillPhones store dataBase.ipWarnToPhoneFromDB
      .ok (true, { cameraInfoName := names
                   cameraInfoFromDB := filled.1
                   ipWarnToPhoneFromDB := filled.2 })

/-- `QueryCmd`, a buffer of 64 bytes with room for the terminator. -/
def queryCmd (table : CText) : Except Fault Bytes :=
  if (ascii "select * from " ++ table.text).length < 64 then .ok (ascii "select * from " ++ table.text)
  else .error .outOfBounds

/-- `GetCameraInfoFromDB`.  The first query is sent with length 15, which
includes the terminator of its literal. -/
def DataBaseOperate.getCameraInfoFromDB (dataBase : DataBaseOperate) (ptrConnect : Option MysqlSession)
    (ptrTable : Option CText) : Except Fault (Bool × DataBaseOperate) :=
  match ptrConnect, ptrTable with
  | some session, some table =>
      match queryCmd table with
      | .error fault => .error fault
      | .ok query =>
          if session.realQueryFails (ascii "set names utf8" ++ [0]) then .ok (false, dataBase)
          else if session.realQueryFails query then .ok (false, dataBase)
          else
            match session.storeResult with
            | none => .ok (false, dataBase)
            | some tables => dataBase.loadResult tables
  | _, _ => .ok (false, dataBase)

/-- What the client library answers while a connection is made. -/
structure MysqlClient where
  /-- `mysql_init` returns a null pointer. -/
  initFails : Bool
  /-- `mysql_options` returns a non-zero code. -/
  optionsFail : Bool
  /-- `mysql_real_connect` with an address, a user, a password, a database and
  a port, with `none` for a null pointer. -/
  realConnect : CText -> CText -> CText -> CText -> UInt32 -> Option MysqlSession

/-- `ConnectDataBase`.  The six offsets are reset before anything can fail but
the test for null pointers. -/
def DataBaseOperate.connectDataBase (dataBase : DataBaseOperate) (client : MysqlClient) (ptrIp : Option CText)
    (port : UInt32) (ptrUserName ptrPassword ptrDBName ptrTableName : Option CText) :
    Except Fault (Bool × DataBaseOperate) :=
  match ptrIp, ptrUserName, ptrPassword, ptrDBName, ptrTableName with
  | some ip, some userName, some password, some dbName, some tableName =>
      let reset := { dataBase with cameraInfoName := fun _ => missingOffset }
      if client.initFails then .ok (false, reset)
      else if client.optionsFail then .ok (false, reset)
      else
        match client.realConnect ip userName password dbName port with
        | none => .ok (false, reset)
        | some session => reset.getCameraInfoFromDB (some session) (some tableName)
  | _, _, _, _, _ => .ok (false, dataBase)

/-! ## Getters -/

/-- The decimal loop of `StrToUint`, in wrapping 32-bit arithmetic. -/
def strToUintLoop : Bytes -> UInt32 -> Option UInt32
  | [], uint => some uint
  | byte :: rest, uint =>
      if byte < 0x30 ∨ 0x39 < byte then none
      else strToUintLoop rest (uint * 10 + byte.toUInt32 - 0x30)

/-- `StrToUint`, with `none` for `false`. -/
def strToUint (str : Bytes) : Option UInt32 :=
  strToUintLoop str 0

/-- The value that the same loop leaves in its output argument, also where it
gives up. -/
def strToUintOut : Bytes -> UInt32 -> UInt32
  | [], uint => uint
  | byte :: rest, uint =>
      if byte < 0x30 ∨ 0x39 < byte then uint
      else strToUintOut rest (uint * 10 + byte.toUInt32 - 0x30)

namespace DataBaseOperate

variable (dataBase : DataBaseOperate)

def getCameraNum : Nat :=
  dataBase.cameraInfoFromDB.length

/-- Read one field of the record at an index, with the insertion `operator[]`
may make.  `none` stands for an index past the end. -/
def fieldAt (idx : Nat) (field : CameraField) : Option (Bytes × DataBaseOperate) :=
  match dataBase.cameraInfoFromDB[idx]? with
  | none => none
  | some info =>
      some ((info.subscript field).1,
        { dataBase with cameraInfoFromDB := dataBase.cameraInfoFromDB.set idx (info.subscript field).2 })

/-- The getters by index return their output argument, or `none` for `false`. -/
def getCameraIp (idx : Nat) : Option Bytes × DataBaseOperate :=
  match dataBase.fieldAt idx .ip with
  | none => (none, dataBase)
  | some (strIp, after) => (if strIp.isEmpty then none else some strIp, after)

def getCameraPort (idx : Nat) : Option UInt32 × DataBaseOperate :=
  match dataBase.fieldAt idx .loginPort with
  | none => (none, dataBase)
  | some (str, after) => (strToUint str, after)

def getCameraUserName (idx : Nat) : Option Bytes × DataBaseOperate :=
  match dataBase.fieldAt idx .username with
  | none => (none, dataBase)
  | some (strName, after) => (some strName, after)

def getCameraPasswd (idx : Nat) : Option Bytes × DataBaseOperate :=
  match dataBase.fieldAt idx .password with
  | none => (none, dataBase)
  | some (strPasswd, after) => (some strPasswd, after)

/-- One round of the search by address.  The counter is 32 bits wide and is
compared with a `size_t`. -/
def nameRound (strIp : Bytes) (state : UInt32 × DataBaseOperate) :
    Except Fault (Round (UInt32 × DataBaseOperate) (Option Bytes × DataBaseOperate)) :=
  match state.2.fieldAt state.1.toNat .ip with
  | none => .ok (.leave (none, state.2))
  | some (rowIp, after) =>
      if rowIp = strIp then
        match after.fieldAt state.1.toNat .name with
        | none => .error .outOfBounds
        | some (strName, final) => .ok (.leave (some strName, final))
      else .ok (.again (state.1 + 1, after))

/-- `GetCameraName`.  A search that has not ended after one round for every
record and one more has come round to the first record again. -/
def getCameraName (strIp : Bytes) : Except Fault (Option Bytes × DataBaseOperate) :=
  loop (nameRound strIp) (dataBase.cameraInfoFromDB.length + 1) (0, dataBase)

/-- `GetCameraWarnPhone`.  The lookup behind `count` cannot insert. -/
def getCameraWarnPhone (strIp : Bytes) : Option (List Bytes) :=
  dataBase.ipWarnToPhoneFromDB strIp

end DataBaseOperate

end DataBase
end MotionDetectAlarm
