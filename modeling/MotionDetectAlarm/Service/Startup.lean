import MotionDetectAlarm.DataBase.Schema
import MotionDetectAlarm.Foundation.Decimal

namespace MotionDetectAlarm
namespace Service

open Foundation DataBase

/-!
# The start of the service

Before its loop `main` reads the configuration, loads the camera table, logs in
to every camera and opens the port.  None of these steps stops it: a step that
fails clears `ServiceRun` and the next one is taken all the same.

What the system, the MySQL client and the SDK answer is an argument of the
model.  The answer to a login only decides whether alarms are subscribed for,
which nothing here depends on, so a login is recorded as the call that is made.
`HikDevLogin` copies its three strings with `strcpy`, so a string that does not
fit overruns the record.
-/

/-! ## Data -/

/-- The six strings that `main` takes from the configuration. -/
structure DbCfg where
  dbIp : Bytes
  dbPort : Bytes
  dbUserName : Bytes
  dbPasswd : Bytes
  dbName : Bytes
  dbTable : Bytes

/-- What `main` fills in before a login. -/
structure HikDevHandl where
  sDevIp : Bytes
  wDevPort : UInt16
  sDevUserName : Bytes
  sDevPassword : Bytes

/-- The login record of the SDK, with the fields that are filled in. -/
structure UserLoginInfo where
  sDeviceAddress : CharArray 129
  wPort : UInt16
  sUserName : CharArray 64
  sPassword : CharArray 64
  deriving DecidableEq

/-- What the world answers during the start. -/
structure Host where
  /-- The result of `CreatePidFile`. -/
  createPidFile : Int32
  /-- The result of `ParseCsvData`, and what the getters give after it. -/
  parseCsvData : Bool
  dbCfg : DbCfg
  client : MysqlClient
  initialSDK : Bool
  /-- The result of `Open`. -/
  openPort : Int32
  /-- The termination signal has come before the loop. -/
  sigterm : Bool

/-! ## Logins -/

/-- `HikDevLogin` up to the call of the SDK. -/
def HikDevHandl.hikDevLogin (devHdl : HikDevHandl) : Except Fault UserLoginInfo := do
  let sDeviceAddress <- strcpy (cStr devHdl.sDevIp)
  let sUserName <- strcpy (cStr devHdl.sDevUserName)
  let sPassword <- strcpy (cStr devHdl.sDevPassword)
  return {
    sDeviceAddress := sDeviceAddress
    wPort := devHdl.wDevPort
    sUserName := sUserName
    sPassword := sPassword }

/-- The four questions for one camera.  The first that fails skips it. -/
def devHandl (dataBase : DataBaseOperate) (i : Nat) : Option HikDevHandl × DataBaseOperate :=
  match dataBase.getCameraIp i with
  | (none, after) => (none, after)
  | (some sDevIp, after) =>
      match after.getCameraPort i with
      | (none, after) => (none, after)
      | (some cameraPort, after) =>
          match after.getCameraUserName i with
          | (none, after) => (none, after)
          | (some sDevUserName, after) =>
              match after.getCameraPasswd i with
              | (none, after) => (none, after)
              | (some sDevPassword, after) =>
                  (some
                    { sDevIp := sDevIp
                      wDevPort := cameraPort.toUInt16
                      sDevUserName := sDevUserName
                      sDevPassword := sDevPassword }, after)

/-- The table, and the logins made so far with the index of their camera. -/
structure Logins where
  dataBase : DataBaseOperate
  made : List (Nat × UserLoginInfo)

/-- One round of the login loop. -/
def Logins.round (logins : Logins) (i : Nat) : Except Fault Logins :=
  match devHandl logins.dataBase i with
  | (none, after) => .ok { logins with dataBase := after }
  | (some devHdl, after) =>
      devHdl.hikDevLogin.map (fun info => { dataBase := after, made := logins.made ++ [(i, info)] })

/-! ## Start -/

/-- What `main` has when it comes to its loop. -/
structure Startup where
  serviceRun : Bool
  /-- The port that `ConnectDataBase` was called with. -/
  port : UInt32
  dataBase : DataBaseOperate
  logins : List (Nat × UserLoginInfo)

namespace Host

variable (host : Host)

/-- The call of `ConnectDataBase`. -/
def connect : Except Fault (Bool × DataBaseOperate) :=
  DataBaseOperate.empty.connectDataBase host.client (some (cStr host.dbCfg.dbIp)) (strToUintOut host.dbCfg.dbPort 0)
    (some (cStr host.dbCfg.dbUserName)) (some (cStr host.dbCfg.dbPasswd)) (some (cStr host.dbCfg.dbName))
    (some (cStr host.dbCfg.dbTable))

/-- `main` up to the test of its loop. -/
def startup : Except Fault Startup := do
  let serviceRun := true
  let serviceRun := if host.createPidFile < 0 then false else serviceRun
  let serviceRun := if host.parseCsvData = false then false else serviceRun
  let serviceRun := if strToUint host.dbCfg.dbPort = none then false else serviceRun
  let connected <- host.connect
  let serviceRun := if connected.1 = false then false else serviceRun
  let serviceRun := if host.initialSDK = false then false else serviceRun
  let logins <- (List.range connected.2.getCameraNum).foldlM Logins.round { dataBase := connected.2, made := [] }
  let serviceRun := if host.openPort < 0 then false else serviceRun
  let serviceRun := if host.sigterm then false else serviceRun
  return {
    serviceRun := serviceRun
    port := strToUintOut host.dbCfg.dbPort 0
    dataBase := logins.dataBase
    logins := logins.made }

variable {host}

/-- A start that reaches the loop has tried to connect and has gone through the
cameras. -/
theorem startup_cases {started : Startup} (run : host.startup = .ok started) :
    exists ret dataBase logins, host.connect = .ok (ret, dataBase) ∧
      (List.range dataBase.getCameraNum).foldlM Logins.round { dataBase := dataBase, made := [] } = .ok logins ∧
      started.port = strToUintOut host.dbCfg.dbPort 0 ∧ started.dataBase = logins.dataBase ∧
      started.logins = logins.made ∧ (ret = false -> started.serviceRun = false) := by
  rcases exists_of_bind_eq_ok run with ⟨⟨ret, dataBase⟩, connected, rest⟩
  rcases exists_of_bind_eq_ok rest with ⟨logins, looped, last⟩
  cases last
  refine ⟨ret, dataBase, logins, connected, looped, rfl, rfl, rfl, ?_⟩
  intro failed
  simp only [failed, if_true, ite_self]

end Host

/-! ## What the table and the connection give -/

section Connection

variable {before after : DataBaseOperate} {client : MysqlClient} {ip userName password dbName tableName : CText}
  {port : UInt32}

/-- A connection that is made hands the load on; one that fails returns false
and leaves the stores alone. -/
theorem connectDataBase_cases {result : Except Fault (Bool × DataBaseOperate)}
    (called : before.connectDataBase client (some ip) port (some userName) (some password) (some dbName)
      (some tableName) = result) :
    result = .ok (false, { before with cameraInfoName := fun _ => missingOffset }) ∨
      exists session, client.realConnect ip userName password dbName port = some session ∧
        result = ({ before with cameraInfoName := fun _ => missingOffset } : DataBaseOperate).getCameraInfoFromDB
          (some session) (some tableName) := by
  subst called
  simp only [DataBaseOperate.connectDataBase]
  split
  · exact Or.inl rfl
  · split
    · exact Or.inl rfl
    · cases connected : client.realConnect ip userName password dbName port with
      | none => exact Or.inl rfl
      | some session => exact Or.inr ⟨session, rfl, rfl⟩

end Connection

variable {host : Host}

/-- After a call that returned false there is no camera, after one that
returned true the stores hold the rows of a result. -/
theorem Host.connect_holds {ret : Bool} {dataBase : DataBaseOperate} (connected : host.connect = .ok (ret, dataBase)) :
    (ret = false ∧ dataBase.cameraInfoFromDB = []) ∨ (ret = true ∧ exists rows, dataBase.Holds rows) := by
  rcases connectDataBase_cases connected with failed | ⟨session, -, loaded⟩
  · cases failed
    exact Or.inl ⟨rfl, rfl⟩
  · cases ret with
    | false => exact Or.inl ⟨rfl, (failed_load_keeps_stores loaded.symm).1⟩
    | true =>
        rcases getCameraInfoFromDB_true loaded.symm with ⟨_, tables, -, -, result⟩
        exact Or.inr ⟨rfl, tables.loaded, loadResult_holds result⟩

/-- A login is made with the port that `main` filled in. -/
theorem hikDevLogin_port {devHdl : HikDevHandl} {info : UserLoginInfo} (copied : devHdl.hikDevLogin = .ok info) :
    info.wPort = devHdl.wDevPort := by
  rcases exists_of_bind_eq_ok copied with ⟨sDeviceAddress, -, copied⟩
  rcases exists_of_bind_eq_ok copied with ⟨sUserName, -, copied⟩
  rcases exists_of_bind_eq_ok copied with ⟨sPassword, -, copied⟩
  cases copied
  rfl

section Loop

variable {dataBase : DataBaseOperate} {rows : List CameraRow}

/-- On a loaded table the questions change nothing, and a camera that is not
skipped has the port of its row. -/
theorem devHandl_held (held : dataBase.Holds rows) (i : Nat) :
    (devHandl dataBase i).2 = dataBase ∧
      forall devHdl, (devHandl dataBase i).1 = some devHdl ->
        exists row port, rows[i]? = some row ∧ strToUint (row .loginPort) = some port ∧
          devHdl.wDevPort = port.toUInt16 := by
  have ip := fieldAt_held held (show CameraField.ip ≠ .phonenums by decide) i
  have loginPort := fieldAt_held held (show CameraField.loginPort ≠ .phonenums by decide) i
  have username := fieldAt_held held (show CameraField.username ≠ .phonenums by decide) i
  have password := fieldAt_held held (show CameraField.password ≠ .phonenums by decide) i
  cases found : rows[i]? with
  | none =>
      rw [found] at ip
      simp [devHandl, DataBaseOperate.getCameraIp, ip]
  | some row =>
      rw [found] at ip loginPort username password
      by_cases empty : (row .ip).isEmpty
      · simp [devHandl, DataBaseOperate.getCameraIp, ip, empty]
      · cases port : strToUint (row .loginPort) with
        | none => simp [devHandl, DataBaseOperate.getCameraIp, DataBaseOperate.getCameraPort, ip, loginPort, empty, port]
        | some port =>
            simp [devHandl, DataBaseOperate.getCameraIp, DataBaseOperate.getCameraPort,
              DataBaseOperate.getCameraUserName, DataBaseOperate.getCameraPasswd, ip, loginPort, username, password,
              empty, port]

/-- Every login so far went to a camera of the table, with the port of its row. -/
def Sourced (rows : List CameraRow) (logins : Logins) : Prop :=
  forall i info, (i, info) ∈ logins.made ->
    exists row port, rows[i]? = some row ∧ strToUint (row .loginPort) = some port ∧ info.wPort = port.toUInt16

theorem round_sourced (held : dataBase.Holds rows) {logins after : Logins} {i : Nat}
    (before : logins.dataBase = dataBase ∧ Sourced rows logins) (rounded : logins.round i = .ok after) :
    after.dataBase = dataBase ∧ Sourced rows after := by
  rcases before with ⟨same, sourced⟩
  rcases devHandl_held held i with ⟨unchanged, ports⟩
  unfold Logins.round at rounded
  rw [same] at rounded
  split at rounded
  · rename_i next skipped
    cases rounded
    rw [skipped] at unchanged
    exact ⟨unchanged, sourced⟩
  · rename_i devHdl next asked
    rw [asked] at unchanged ports
    rcases exists_of_map_eq_ok rounded with ⟨info, copied, rfl⟩
    refine ⟨unchanged, ?_⟩
    intro j other member
    rcases List.mem_append.mp member with earlier | new
    · exact sourced j other earlier
    · cases List.mem_singleton.mp new
      rcases ports devHdl rfl with ⟨row, port, found, accepted, narrowed⟩
      exact ⟨row, port, found, accepted, (hikDevLogin_port copied).trans narrowed⟩

theorem loop_sourced (held : dataBase.Holds rows) {indices : List Nat} {logins : Logins}
    (looped : indices.foldlM Logins.round { dataBase := dataBase, made := [] } = .ok logins) :
    logins.dataBase = dataBase ∧ Sourced rows logins :=
  (Run.of_foldlM looped).invariant (fun logins => logins.dataBase = dataBase ∧ Sourced rows logins)
    ⟨rfl, fun _ _ member => absurd member List.not_mem_nil⟩
    (fun _ _ _ before rounded => round_sourced held before rounded)

end Loop

/-! ## Ports -/

/-- What `StrToUint` accepts is a text of digits, and it returns their value
modulo `2 ^ 32`. -/
theorem strToUintLoop_eq_some {str : Bytes} {uint port : UInt32} {value : Nat}
    (accepted : strToUintLoop str uint = some port) (word : uint.toNat = value % 2 ^ 32) :
    exists number, readDigits str value = some number ∧ port.toNat = number % 2 ^ 32 := by
  induction str generalizing uint value with
  | nil => exact ⟨value, rfl, Option.some.inj accepted ▸ word⟩
  | cons byte rest ih =>
      rw [strToUintLoop] at accepted
      split at accepted
      · cases accepted
      · rename_i inside
        rw [not_or, UInt8.not_lt, UInt8.not_lt] at inside
        have digit : digitValue byte = some (byte.toNat - 0x30) := if_pos inside
        rcases ih accepted (word_digit word digit) with ⟨number, read, same⟩
        exact ⟨number, by rw [readDigits, digit]; exact read, same⟩

theorem strToUint_eq_some {str : Bytes} {port : UInt32} (accepted : strToUint str = some port) :
    exists number, readDigits str 0 = some number ∧ port.toNat = number % 2 ^ 32 :=
  strToUintLoop_eq_some accepted rfl

theorem strToUintOut_eq {str : Bytes} {uint port : UInt32} (accepted : strToUintLoop str uint = some port) :
    strToUintOut str uint = port := by
  induction str generalizing uint with
  | nil => exact Option.some.inj accepted
  | cons byte rest ih =>
      rw [strToUintLoop] at accepted
      rw [strToUintOut]
      split at accepted
      · cases accepted
      · rename_i inside
        rw [if_neg inside]
        exact ih accepted

/-- A number kept modulo a size is the value of its numeral exactly when the
numeral is not empty and its value is below that size. -/
theorem numeral_iff {str : Bytes} {number used size : Nat} (read : readDigits str 0 = some number)
    (kept : used = number % size) (positive : 0 < size) :
    numeralValue str = some used ↔ exists value, numeralValue str = some value ∧ value < size := by
  constructor
  · intro value
    exact ⟨used, value, kept ▸ Nat.mod_lt _ positive⟩
  · rintro ⟨value, numeral, small⟩
    have same : number = value := Option.some.inj (read.symm.trans (numeralValue_eq_some_iff.mp numeral).2)
    rw [numeral, kept, same, Nat.mod_eq_of_lt small]

/-- Every login and the connection use the value of their numeral exactly when
the numeral is not empty and its value fits. -/
theorem ports_used_iff {started : Startup} (run : host.startup = .ok started) :
    (forall i info, (i, info) ∈ started.logins ->
      exists loginPort port,
        (started.dataBase.cameraInfoFromDB[i]?).bind (fun record => record .loginPort) = some loginPort ∧
        strToUint loginPort = some port ∧
        (numeralValue loginPort = some info.wPort.toNat ↔
          exists value, numeralValue loginPort = some value ∧ value < 2 ^ 16)) ∧
    (forall port, strToUint host.dbCfg.dbPort = some port ->
      (numeralValue host.dbCfg.dbPort = some started.port.toNat ↔
        exists value, numeralValue host.dbCfg.dbPort = some value ∧ value < 2 ^ 32)) := by
  rcases Host.startup_cases run with ⟨ret, dataBase, logins, connected, looped, port_eq, table, made, -⟩
  constructor
  · rcases Host.connect_holds connected with ⟨-, none_loaded⟩ | ⟨-, rows, held⟩
    · have nothing : logins = { dataBase := dataBase, made := [] } := by
        rw [DataBaseOperate.getCameraNum, none_loaded] at looped
        exact (Except.ok.inj looped).symm
      intro i info member
      rw [made, nothing] at member
      cases member
    · rcases loop_sourced held looped with ⟨same, sourced⟩
      intro i info member
      rw [made] at member
      rcases sourced i info member with ⟨row, port, found, accepted, narrowed⟩
      rcases strToUint_eq_some accepted with ⟨number, read, word⟩
      refine ⟨row .loginPort, port, ?_, accepted, numeral_iff read ?_ (by decide)⟩
      · rw [table, same, held.records, List.getElem?_map, found]
        rfl
      · rw [narrowed, UInt32.toNat_toUInt16, word]
        exact Nat.mod_mod_of_dvd _ (by decide)
  · intro port accepted
    rcases strToUint_eq_some accepted with ⟨number, read, word⟩
    refine numeral_iff read ?_ (by decide)
    rw [port_eq, strToUintOut_eq accepted, word]

/-- A host on which every step succeeds, with this result for its table. -/
def hostWith (tables : ResultSet) : Host where
  createPidFile := 0
  parseCsvData := true
  dbCfg := {
    dbIp := ascii "127.0.0.1"
    dbPort := ascii "3306"
    dbUserName := ascii "root"
    dbPasswd := ascii "pw"
    dbName := ascii "alarm"
    dbTable := ascii "cameras" }
  client := {
    initFails := false
    optionsFail := false
    realConnect := fun _ _ _ _ _ => some (.answering tables) }
  initialSDK := true
  openPort := 0
  sigterm := false

/-- The text of the port in the record of each login, and the port used. -/
def Startup.portsUsed (started : Startup) : List (Option Bytes × UInt16) :=
  started.logins.map (fun login =>
    ((started.dataBase.cameraInfoFromDB[login.1]?).bind (fun record => record .loginPort), login.2.wPort))

/-- The camera of the lobby is called on the port of its row. -/
theorem lobby_ports_used :
    exists started i info, (hostWith lobby).startup = .ok started ∧ (i, info) ∈ started.logins ∧
      numeralValue (ascii "8000") = some info.wPort.toNat ∧
      numeralValue (hostWith lobby).dbCfg.dbPort = some started.port.toNat := by
  have runs : (hostWith lobby).startup.map Startup.portsUsed = .ok [(some (ascii "8000"), 8000)] := by decide
  rcases exists_of_map_eq_ok runs with ⟨started, run, used⟩
  rcases List.map_eq_singleton_iff.mp used with ⟨⟨i, info⟩, logins, outcome⟩
  rw [Prod.mk.injEq] at outcome
  have member : (i, info) ∈ started.logins := logins ▸ List.mem_singleton_self _
  rcases ports_used_iff run with ⟨cameras, dataBase⟩
  rcases cameras i info member with ⟨loginPort, port, text, -, iff⟩
  cases text.symm.trans outcome.1
  exact ⟨started, i, info, run, member, iff.mpr ⟨8000, by decide, by decide⟩,
    (dataBase 3306 (by decide)).mpr ⟨3306, by decide, by decide⟩⟩

/-- The camera of the lobby with this text for its port. -/
def portTable (loginPort : CText) : ResultSet where
  columns := lobby.columns
  rows := lobby.rows.map (fun row => row.set 1 (some loginPort))
  rowWidth := by
    intro cells member
    rcases List.mem_map.mp member with ⟨row, inLobby, rfl⟩
    rw [List.length_set]
    exact lobby.rowWidth row inLobby
  columnCount := lobby.columnCount

/-- A number that is 8000 modulo `2 ^ 16`. -/
def widePort : CText := ⟨ascii "73536", by decide⟩

/-- The camera with a port above the range is called on port 8000. -/
theorem wide_port_narrowed :
    exists started i info, (hostWith (portTable widePort)).startup = .ok started ∧ (i, info) ∈ started.logins ∧
      (started.dataBase.cameraInfoFromDB[i]?).bind (fun record => record .loginPort) = some widePort.text ∧
      strToUint widePort.text = some 73536 ∧ info.wPort = 8000 ∧
      ¬ numeralValue widePort.text = some info.wPort.toNat := by
  have runs : (hostWith (portTable widePort)).startup.map Startup.portsUsed = .ok [(some widePort.text, 8000)] := by
    decide
  rcases exists_of_map_eq_ok runs with ⟨started, run, used⟩
  rcases List.map_eq_singleton_iff.mp used with ⟨⟨i, info⟩, logins, outcome⟩
  rw [Prod.mk.injEq] at outcome
  rcases outcome with ⟨text, port⟩
  refine ⟨started, i, info, run, logins ▸ List.mem_singleton_self _, text, by decide, port, ?_⟩
  rw [show info.wPort = 8000 from port]
  decide

/-! ## A wrong table -/

/-- Where the connection is made and the table answers, `ConnectDataBase`
returns what the load returns. -/
theorem connect_answered {session : MysqlSession} {tables : ResultSet} (initialised : host.client.initFails = false)
    (configured : host.client.optionsFail = false)
    (connected : host.client.realConnect (cStr host.dbCfg.dbIp) (cStr host.dbCfg.dbUserName)
      (cStr host.dbCfg.dbPasswd) (cStr host.dbCfg.dbName) (strToUintOut host.dbCfg.dbPort 0) = some session)
    (answers : session.Answers (cStr host.dbCfg.dbTable) tables) :
    host.connect = DataBaseOperate.empty.loadResult tables := by
  simp only [Host.connect, DataBaseOperate.connectDataBase, initialised, configured, connected, Bool.false_eq_true,
    if_false, getCameraInfoFromDB_answered answers]
  rfl

/-- A result is reported as wrong, by the load, by `ConnectDataBase` and by
`main` not entering its loop, exactly when some row is read up to an absent
column. -/
theorem wrong_schema_reported_iff {session : MysqlSession} {tables : ResultSet}
    (initialised : host.client.initFails = false) (configured : host.client.optionsFail = false)
    (connected : host.client.realConnect (cStr host.dbCfg.dbIp) (cStr host.dbCfg.dbUserName)
      (cStr host.dbCfg.dbPasswd) (cStr host.dbCfg.dbName) (strToUintOut host.dbCfg.dbPort 0) = some session)
    (answers : session.Answers (cStr host.dbCfg.dbTable) tables) :
    ((exists after, DataBaseOperate.empty.getCameraInfoFromDB (some session) (some (cStr host.dbCfg.dbTable)) =
        .ok (false, after)) ∧
      (exists after, host.connect = .ok (false, after)) ∧
      forall started, host.startup = .ok started -> started.serviceRun = false) ↔ tables.Noticed := by
  rcases loadResult_returns (show DataBaseOperate.empty.cameraInfoName = _ from rfl) tables with
    ⟨returned, after, loaded, fails⟩
  rw [getCameraInfoFromDB_answered answers, connect_answered initialised configured connected answers]
  constructor
  · rintro ⟨⟨again, reported⟩, -, -⟩
    cases loaded.symm.trans reported
    exact fails.mp rfl
  · intro noticed
    cases fails.mpr noticed
    refine ⟨⟨after, loaded⟩, ⟨after, loaded⟩, ?_⟩
    intro started run
    rcases Host.startup_cases run with ⟨ret, dataBase, logins, made, -, -, -, -, stopped⟩
    rw [connect_answered initialised configured connected answers, loaded] at made
    cases made
    exact stopped rfl

theorem named_row_reported :
    (exists after, (hostWith (nameTable [some lobbyName])).connect = .ok (false, after)) ∧
      exists started, (hostWith (nameTable [some lobbyName])).startup = .ok started ∧
        started.serviceRun = false := by
  have noticed : (nameTable [some lobbyName]).Noticed :=
    ⟨[some lobbyName], List.mem_singleton_self _, [], .ip, _, rfl, by decide, by simp⟩
  have answers : (MysqlSession.answering (nameTable [some lobbyName])).Answers
      (cStr (hostWith (nameTable [some lobbyName])).dbCfg.dbTable) (nameTable [some lobbyName]) :=
    ⟨_, rfl, rfl, rfl, rfl⟩
  rcases (wrong_schema_reported_iff rfl rfl rfl answers).mpr noticed with ⟨-, connected, stopped⟩
  have runs : (hostWith (nameTable [some lobbyName])).startup.map (fun _ => ()) = .ok () := by decide
  rcases exists_of_map_eq_ok runs with ⟨started, run, -⟩
  exact ⟨connected, started, run, stopped started run⟩

/-- An empty table without five of the columns is loaded without complaint, and
the service runs. -/
theorem empty_table_unreported :
    (nameTable []).Absent .ip ∧
      (exists after, DataBaseOperate.empty.getCameraInfoFromDB (some (.answering (nameTable []))) (some cameras) =
        .ok (true, after)) ∧
      exists started, (hostWith (nameTable [])).startup = .ok started ∧ started.serviceRun = true := by
  have loads : (DataBaseOperate.empty.getCameraInfoFromDB (some (.answering (nameTable [])))
      (some cameras)).map Prod.fst = .ok true := by decide
  have runs : (hostWith (nameTable [])).startup.map Startup.serviceRun = .ok true := by decide
  exact ⟨by decide, ⟨afterLoad (nameTable []), afterLoad_eq loads⟩, exists_of_map_eq_ok runs⟩

end Service
end MotionDetectAlarm
