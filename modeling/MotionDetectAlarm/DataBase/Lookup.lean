import MotionDetectAlarm.DataBase.Loader
import MotionDetectAlarm.Foundation.TransitionSystem

namespace MotionDetectAlarm
namespace DataBase

open Foundation

/-!
# Questions to a loaded table

After a load the program only asks questions.  The getters read with the
inserting `operator[]`, but every record of a loaded table has all the columns
they ask for, so a table that `Holds` some rows is not changed by any of them
and their answers can be read off those rows.

The name of a camera and the numbers to warn are found in two different ways.
The search for the name stops at the first row with the address, and the map
was filled by overwriting and so keeps the last one.
-/

/-! ## Reading a stored record -/

theorem subscript_storedInfo (row : CameraRow) {field : CameraField} (kept : field ≠ .phonenums) :
    (storedInfo row).subscript field = (row field, storedInfo row) := by
  have present : storedInfo row field = some (row field) := Function.update_of_ne kept _ _
  rw [CameraInfo.subscript, present]

section Getters

variable {dataBase after : DataBaseOperate} {rows : List CameraRow}

/-- A getter that asks for one of the five kept columns inserts nothing. -/
theorem fieldAt_held (held : dataBase.Holds rows) {field : CameraField} (kept : field ≠ .phonenums)
    (idx : Nat) : dataBase.fieldAt idx field = (rows[idx]?).map (fun row => (row field, dataBase)) := by
  rw [DataBaseOperate.fieldAt, held.records, List.getElem?_map]
  cases found : rows[idx]? with
  | none => rfl
  | some row =>
      have same : (rows.map storedInfo).set idx (storedInfo row) = dataBase.cameraInfoFromDB := by
        rcases List.getElem?_eq_some_iff.mp found with ⟨inList, at_idx⟩
        rw [held.records, ← List.map_set, ← at_idx, List.set_getElem_self]
      simp only [Option.map_some, subscript_storedInfo row kept, same]

/-- A getter by index leaves a loaded table as it is, whatever it makes of the
value it reads. -/
theorem getter_held (held : dataBase.Holds rows) {field : CameraField} (kept : field ≠ .phonenums) (idx : Nat)
    {Answer : Type} (answer : Bytes -> Option Answer) :
    (match dataBase.fieldAt idx field with
      | none => (none, dataBase)
      | some (value, after) => (answer value, after)).2 = dataBase := by
  rw [fieldAt_held held kept]
  cases rows[idx]? <;> rfl

/-! ## The search by address -/

/-- One round of the search on a loaded table. -/
theorem nameRound_held (held : dataBase.Holds rows) (strIp : Bytes) (i : UInt32) :
    DataBaseOperate.nameRound strIp (i, dataBase) =
      match rows[i.toNat]? with
      | none => .ok (.leave (none, dataBase))
      | some row =>
          if row .ip = strIp then .ok (.leave (some (row .name), dataBase))
          else .ok (.again (i + 1, dataBase)) := by
  have ip_kept : CameraField.ip ≠ .phonenums := by decide
  have name_kept : CameraField.name ≠ .phonenums := by decide
  simp only [DataBaseOperate.nameRound, fieldAt_held held ip_kept]
  cases found : rows[i.toNat]? with
  | none => rfl
  | some row => simp only [Option.map_some, fieldAt_held held name_kept, found]

/-- The answer to a search: the name of the first row with the address. -/
def firstName (rows : List CameraRow) (strIp : Bytes) : Option Bytes :=
  (rows.find? (fun row => row .ip = strIp)).map (fun row => row .name)

theorem firstName_eq (rows : List CameraRow) (strIp : Bytes) :
    firstName rows strIp = ((rows.filter (fun row => row .ip = strIp)).head?).map (fun row => row .name) := by
  rw [firstName, List.head?_filter]

/-- The rows before the counter have other addresses.  A counter that has
come round to zero makes this empty. -/
def SearchedTo (dataBase : DataBaseOperate) (rows : List CameraRow) (strIp : Bytes)
    (state : UInt32 × DataBaseOperate) : Prop :=
  state.2 = dataBase ∧ forall k row, k < state.1.toNat -> rows[k]? = some row -> row .ip ≠ strIp

theorem nameRound_keeps (held : dataBase.Holds rows) {strIp : Bytes} {state next : UInt32 × DataBaseOperate}
    (searched : SearchedTo dataBase rows strIp state)
    (continued : DataBaseOperate.nameRound strIp state = .ok (.again next)) :
    SearchedTo dataBase rows strIp next := by
  rcases state with ⟨i, store⟩
  rcases searched with ⟨same, others⟩
  simp only at same others
  rw [same, nameRound_held held] at continued
  split at continued
  · cases continued
  · rename_i row found
    split at continued
    · cases continued
    · rename_i different
      cases continued
      refine ⟨rfl, ?_⟩
      intro k other below listed
      -- the new counter is one more, or has wrapped to zero
      have bound : k < i.toNat + 1 := by
        have counter : (i + 1).toNat ≤ i.toNat + 1 := by
          rw [UInt32.toNat_add]
          exact Nat.mod_le _ _
        exact Nat.lt_of_lt_of_le below counter
      rcases Nat.lt_succ_iff_lt_or_eq.mp bound with earlier | here
      · exact others k other earlier listed
      · rw [here, found] at listed
        exact Option.some.inj listed ▸ different

theorem nameRound_leaves (held : dataBase.Holds rows) {strIp : Bytes} {state : UInt32 × DataBaseOperate}
    {result : Option Bytes × DataBaseOperate} (searched : SearchedTo dataBase rows strIp state)
    (left : DataBaseOperate.nameRound strIp state = .ok (.leave result)) :
    result = (firstName rows strIp, dataBase) := by
  rcases state with ⟨i, store⟩
  rcases searched with ⟨same, others⟩
  simp only at same others
  rw [same, nameRound_held held] at left
  split at left
  · rename_i past
    cases left
    have missed : rows.find? (fun row => row .ip = strIp) = none := by
      rw [List.find?_eq_none]
      intro row member
      rcases List.getElem?_of_mem member with ⟨k, listed⟩
      have inList := (List.getElem?_eq_some_iff.mp listed).1
      have outside := List.getElem?_eq_none_iff.mp past
      simpa using others k row (Nat.lt_of_lt_of_le inList outside) listed
    rw [firstName, missed]
    rfl
  · rename_i row found
    split at left
    · rename_i match_here
      cases left
      rcases List.getElem?_eq_some_iff.mp found with ⟨inList, at_i⟩
      have first : rows.find? (fun row => row .ip = strIp) = some row := by
        rw [List.find?_eq_some_iff_getElem]
        refine ⟨by simpa using match_here, i.toNat, inList, at_i, ?_⟩
        intro k below
        have listed := List.getElem?_eq_getElem (Nat.lt_trans below inList)
        simpa using others k _ below listed
      rw [firstName, first]
      rfl
    · cases left

/-- Whatever `GetCameraName` returns, it is the name in the first row with the
address, and the stores are as they were. -/
theorem getCameraName_held (held : dataBase.Holds rows) {strIp : Bytes} {result : Option Bytes × DataBaseOperate}
    (returned : dataBase.getCameraName strIp = .ok result) : result = (firstName rows strIp, dataBase) :=
  loop_result (SearchedTo dataBase rows strIp) (fun result => result = (firstName rows strIp, dataBase))
    (fun _ _ searched continued => nameRound_keeps held searched continued)
    (fun _ _ searched left => nameRound_leaves held searched left) _ (0, dataBase)
    ⟨rfl, fun _ _ below => absurd below (Nat.not_lt_zero _)⟩ result returned

/-- The search ends on every table that its counter can count through. -/
theorem getCameraName_returns (held : dataBase.Holds rows) (countable : rows.length < 2 ^ 32) (strIp : Bytes) :
    dataBase.getCameraName strIp = .ok (firstName rows strIp, dataBase) := by
  have size : dataBase.cameraInfoFromDB.length = rows.length := by
    rw [held.records, List.length_map]
  have returns : exists result, dataBase.getCameraName strIp = .ok result ∧ True := by
    refine loop_of_measure (fun state => state.2 = dataBase ∧ state.1.toNat ≤ rows.length) (fun _ => True)
      (fun state => rows.length - state.1.toNat) ?_ _ _ ?_ ⟨rfl, Nat.zero_le _⟩
    · rintro ⟨i, store⟩ ⟨same, within⟩
      simp only at same within
      rw [same, nameRound_held held]
      cases found : rows[i.toNat]? with
      | none => exact Or.inl ⟨_, rfl, trivial⟩
      | some row =>
          by_cases match_here : row .ip = strIp
          · exact Or.inl ⟨(some (row .name), dataBase), by simp only [if_pos match_here], trivial⟩
          · have inList := (List.getElem?_eq_some_iff.mp found).1
            have counter := counter_succ_toNat inList countable
            refine Or.inr ⟨(i + 1, dataBase), by simp only [if_neg match_here], ⟨rfl, ?_⟩, ?_⟩
            · simp only [counter]
              omega
            · simp only [counter]
              omega
    · simp only [UInt32.reduceToNat]
      omega
  rcases returns with ⟨result, returned, -⟩
  rw [returned, getCameraName_held held returned]

/-- The search never throws. -/
theorem getCameraName_ne_outOfRange (strIp : Bytes) : dataBase.getCameraName strIp ≠ .error .outOfRange := by
  intro thrown
  rcases loop_error thrown with diverged | ⟨state, failed⟩
  · cases diverged
  · unfold DataBaseOperate.nameRound at failed
    split at failed
    · cases failed
    · split at failed
      · split at failed <;> cases failed
      · cases failed

/-- An address with a name has an entry in the map of numbers. -/
theorem getCameraWarnPhone_held (held : dataBase.Holds rows) {strIp strName : Bytes}
    (named : dataBase.getCameraName strIp = .ok (some strName, after)) :
    after = dataBase ∧ exists vecPhone, after.getCameraWarnPhone strIp = some vecPhone := by
  have answer := getCameraName_held held named
  simp only [Prod.mk.injEq, firstName_eq] at answer
  rcases answer with ⟨name_eq, rfl⟩
  refine ⟨rfl, ?_⟩
  rw [DataBaseOperate.getCameraWarnPhone, held.phones]
  cases matching : rows.filter (fun row => row .ip = strIp) with
  | nil =>
      rw [matching] at name_eq
      cases name_eq
  | cons first others => exact ⟨_, by rw [List.getLast?_cons, Option.map_some]⟩

/-! ## Any sequence of questions -/

/-- A call of one of the getters. -/
inductive GetCamera where
  | num
  | ip (idx : Nat)
  | port (idx : Nat)
  | userName (idx : Nat)
  | passwd (idx : Nat)
  | name (strIp : Bytes)
  | warnPhone (strIp : Bytes)

/-- The members after a call. -/
def GetCamera.call (dataBase : DataBaseOperate) : GetCamera -> Except Fault DataBaseOperate
  | num => .ok dataBase
  | ip idx => .ok (dataBase.getCameraIp idx).2
  | port idx => .ok (dataBase.getCameraPort idx).2
  | userName idx => .ok (dataBase.getCameraUserName idx).2
  | passwd idx => .ok (dataBase.getCameraPasswd idx).2
  | name strIp => (dataBase.getCameraName strIp).map Prod.snd
  | warnPhone _ => .ok dataBase

def GetCamera.step (before : DataBaseOperate) (question : GetCamera) (after : DataBaseOperate) : Prop :=
  question.call before = .ok after

theorem GetCamera.step_held {question : GetCamera} (held : dataBase.Holds rows)
    (asked : GetCamera.step dataBase question after) : after = dataBase := by
  cases question with
  | num => exact (Except.ok.inj asked).symm
  | ip idx =>
      have unchanged := getter_held held (show CameraField.ip ≠ .phonenums by decide) idx
        (fun strIp => if strIp.isEmpty then none else some strIp)
      exact (Except.ok.inj asked).symm.trans unchanged
  | port idx =>
      have unchanged := getter_held held (show CameraField.loginPort ≠ .phonenums by decide) idx strToUint
      exact (Except.ok.inj asked).symm.trans unchanged
  | userName idx =>
      have unchanged := getter_held held (show CameraField.username ≠ .phonenums by decide) idx some
      exact (Except.ok.inj asked).symm.trans unchanged
  | passwd idx =>
      have unchanged := getter_held held (show CameraField.password ≠ .phonenums by decide) idx some
      exact (Except.ok.inj asked).symm.trans unchanged
  | name strIp =>
      rcases exists_of_map_eq_ok asked with ⟨result, returned, same⟩
      rw [← same, getCameraName_held held returned]
  | warnPhone strIp => exact (Except.ok.inj asked).symm

/-- No sequence of questions changes a loaded table. -/
theorem GetCamera.run_held {questions : List GetCamera} (held : dataBase.Holds rows)
    (run : Run GetCamera.step dataBase questions after) : after = dataBase := by
  refine run.invariant (fun store => store = dataBase) rfl ?_
  intro before question next same asked
  subst same
  exact GetCamera.step_held held asked

end Getters

/-! ## One camera behind both answers -/

/-- Some loaded row with the address has the name of the first and the numbers
of the last loaded row with it. -/
def ResultSet.OneCamera (tables : ResultSet) (strIp : Bytes) : Prop :=
  exists first last row, (tables.rowsOf strIp).head? = some first ∧
    (tables.rowsOf strIp).getLast? = some last ∧ row ∈ tables.rowsOf strIp ∧
    row .name = first .name ∧ row .phonenums = last .phonenums

/-- What a load that returned true has stored. -/
theorem holds_of_load {session : MysqlSession} {table : CText} {tables : ResultSet} {after : DataBaseOperate}
    (stored : session.storeResult = some tables)
    (loaded : DataBaseOperate.empty.getCameraInfoFromDB (some session) (some table) = .ok (true, after)) :
    after.Holds tables.loaded := by
  rcases getCameraInfoFromDB_true loaded with ⟨_, found, same, again, result⟩
  cases same
  cases stored.symm.trans again
  exact loadResult_holds result

theorem mem_rowsOf {tables : ResultSet} {strIp : Bytes} {row : CameraRow} :
    row ∈ tables.rowsOf strIp ↔ row ∈ tables.loaded ∧ row .ip = strIp := by
  simp [ResultSet.rowsOf]

/-- The name and the numbers come from one row exactly when the first and the
last row with the address agree through some row with it. -/
theorem one_camera_iff {session : MysqlSession} {table : CText} {tables : ResultSet}
    {after final : DataBaseOperate} {strIp strName : Bytes} (stored : session.storeResult = some tables)
    (loaded : DataBaseOperate.empty.getCameraInfoFromDB (some session) (some table) = .ok (true, after))
    (named : after.getCameraName strIp = .ok (some strName, final)) :
    (exists row, row ∈ tables.loaded ∧ row .ip = strIp ∧ row .name = strName ∧
      final.getCameraWarnPhone strIp = some ((row .phonenums).splitOn 0x2C)) ↔
    tables.OneCamera strIp := by
  have held := holds_of_load stored loaded
  have answer := getCameraName_held held named
  simp only [Prod.mk.injEq] at answer
  rcases answer with ⟨name_eq, same⟩
  subst same
  rw [firstName_eq] at name_eq
  rcases Option.map_eq_some_iff.mp name_eq.symm with ⟨first, head, name_first⟩
  have phones : final.getCameraWarnPhone strIp =
      ((tables.rowsOf strIp).getLast?).map (fun row => (row .phonenums).splitOn 0x2C) := held.phones strIp
  constructor
  · rintro ⟨row, member, address, name_row, numbers⟩
    rw [phones] at numbers
    rcases Option.map_eq_some_iff.mp numbers with ⟨last, at_end, entries⟩
    exact ⟨first, last, row, head, at_end, mem_rowsOf.mpr ⟨member, address⟩,
      name_row.trans name_first.symm, (splitOn_comma_injective entries).symm⟩
  · rintro ⟨first', last, row, head', at_end, member, name_row, numbers⟩
    cases head.symm.trans head'
    rcases mem_rowsOf.mp member with ⟨inTable, address⟩
    refine ⟨row, inTable, address, name_row.trans name_first, ?_⟩
    rw [phones, at_end, Option.map_some, numbers]

/-- A session whose queries succeed with this result. -/
def MysqlSession.answering (tables : ResultSet) : MysqlSession where
  realQueryFails := fun _ => false
  storeResult := some tables

def cameras : CText := ⟨ascii "cameras", by decide⟩

/-- The members after a load, whatever it returned. -/
def afterLoad (tables : ResultSet) : DataBaseOperate :=
  match DataBaseOperate.empty.getCameraInfoFromDB (some (.answering tables)) (some cameras) with
  | .ok result => result.2
  | .error _ => DataBaseOperate.empty

theorem afterLoad_eq {tables : ResultSet}
    (returns : (DataBaseOperate.empty.getCameraInfoFromDB (some (.answering tables)) (some cameras)).map Prod.fst =
      .ok true) :
    DataBaseOperate.empty.getCameraInfoFromDB (some (.answering tables)) (some cameras) =
      .ok (true, afterLoad tables) := by
  rcases exists_of_map_eq_ok returns with ⟨⟨_, after⟩, loaded, rfl⟩
  rw [afterLoad, loaded]

/-- A table of cameras with these addresses, names and numbers. -/
def cameraTable (rows : List (CText × CText × CText)) : ResultSet where
  columns := [⟨ascii "ip", by decide⟩, ⟨ascii "login_port", by decide⟩, ⟨ascii "name", by decide⟩,
    ⟨ascii "username", by decide⟩, ⟨ascii "password", by decide⟩, ⟨ascii "phonenums", by decide⟩]
  rows := rows.map (fun row => [some row.1, some ⟨ascii "8000", by decide⟩, some row.2.1,
    some ⟨ascii "admin", by decide⟩, some ⟨ascii "pw", by decide⟩, some row.2.2])
  rowWidth := by
    intro cells member
    rcases List.mem_map.mp member with ⟨row, -, rfl⟩
    rfl
  columnCount := by decide

/-- Two channels of one recorder, which share its address. -/
def recorder : ResultSet :=
  cameraTable [
    (⟨ascii "10.0.0.9", by decide⟩, ⟨ascii "gate", by decide⟩, ⟨ascii "13800000001", by decide⟩),
    (⟨ascii "10.0.0.9", by decide⟩, ⟨ascii "vault", by decide⟩, ⟨ascii "13800000002", by decide⟩)]

/-- An alarm of the recorder is named after its first channel and sent to the
number of its second. -/
theorem recorder_mixes_cameras :
    DataBaseOperate.empty.getCameraInfoFromDB (some (.answering recorder)) (some cameras) =
        .ok (true, afterLoad recorder) ∧
      exists strName final, (afterLoad recorder).getCameraName (ascii "10.0.0.9") = .ok (some strName, final) ∧
        ¬ exists row, row ∈ recorder.loaded ∧ row .ip = ascii "10.0.0.9" ∧ row .name = strName ∧
          final.getCameraWarnPhone (ascii "10.0.0.9") = some ((row .phonenums).splitOn 0x2C) := by
  have loaded : DataBaseOperate.empty.getCameraInfoFromDB (some (.answering recorder)) (some cameras) =
      .ok (true, afterLoad recorder) :=
    afterLoad_eq (by decide)
  have held := holds_of_load rfl loaded
  have named := getCameraName_returns held (by decide) (ascii "10.0.0.9")
  have name_eq : firstName recorder.loaded (ascii "10.0.0.9") = some (ascii "gate") := by decide
  have numbers : (afterLoad recorder).getCameraWarnPhone (ascii "10.0.0.9") = some [ascii "13800000002"] := by
    refine (held.phones _).trans ?_
    decide
  have apart : forall row, row ∈ recorder.loaded ->
      ¬ (row .name = ascii "gate" ∧ [ascii "13800000002"] = (row .phonenums).splitOn 0x2C) := by
    decide
  rw [name_eq] at named
  refine ⟨loaded, ascii "gate", afterLoad recorder, named, ?_⟩
  rintro ⟨row, member, -, name_row, same⟩
  rw [numbers] at same
  exact apart row member ⟨name_row, Option.some.inj same⟩

def lobbyAddress : CText := ⟨ascii "10.0.0.7", by decide⟩

def lobbyName : CText := ⟨ascii "lobby", by decide⟩

/-- One camera with two numbers. -/
def lobby : ResultSet :=
  cameraTable [(lobbyAddress, lobbyName, ⟨ascii "13800000003,13800000004", by decide⟩)]

theorem lobby_loaded :
    DataBaseOperate.empty.getCameraInfoFromDB (some (.answering lobby)) (some cameras) =
      .ok (true, afterLoad lobby) :=
  afterLoad_eq (by decide)

/-- The lobby between the channels of a recorder.  The second channel has the
name of the first and the number of the third. -/
def site : ResultSet :=
  cameraTable [
    (⟨ascii "10.0.0.9", by decide⟩, ⟨ascii "gate", by decide⟩, ⟨ascii "13800000001", by decide⟩),
    (lobbyAddress, lobbyName, ⟨ascii "13800000003,13800000004", by decide⟩),
    (⟨ascii "10.0.0.9", by decide⟩, ⟨ascii "gate", by decide⟩, ⟨ascii "13800000002", by decide⟩),
    (⟨ascii "10.0.0.9", by decide⟩, ⟨ascii "vault", by decide⟩, ⟨ascii "13800000002", by decide⟩)]

theorem site_loaded :
    DataBaseOperate.empty.getCameraInfoFromDB (some (.answering site)) (some cameras) = .ok (true, afterLoad site) :=
  afterLoad_eq (by decide)

/-- Both answers for the recorder are those of its second channel. -/
theorem site_answers :
    exists final, (afterLoad site).getCameraName (ascii "10.0.0.9") = .ok (some (ascii "gate"), final) ∧
      exists row, row ∈ site.loaded ∧ row .ip = ascii "10.0.0.9" ∧ row .name = ascii "gate" ∧
        final.getCameraWarnPhone (ascii "10.0.0.9") = some ((row .phonenums).splitOn 0x2C) := by
  have named := getCameraName_returns (holds_of_load rfl site_loaded) (by decide) (ascii "10.0.0.9")
  have name_eq : firstName site.loaded (ascii "10.0.0.9") = some (ascii "gate") := by decide
  rw [name_eq] at named
  have channels : (site.rowsOf (ascii "10.0.0.9")).map (fun row => (row .name, row .phonenums)) =
      [(ascii "gate", ascii "13800000001"), (ascii "gate", ascii "13800000002"),
        (ascii "vault", ascii "13800000002")] := by
    decide
  simp only [List.map_eq_cons_iff, List.map_eq_nil_iff, Prod.mk.injEq] at channels
  rcases channels with ⟨first, _, rows, ⟨firstName, -⟩, second, _, rfl, ⟨secondName, secondPhones⟩,
    third, _, rfl, ⟨-, thirdPhones⟩, rfl⟩
  have shared : site.OneCamera (ascii "10.0.0.9") := by
    refine ⟨first, third, second, ?_, ?_, ?_, secondName.trans firstName.symm, secondPhones.trans thirdPhones.symm⟩
    · rw [rows, List.head?_cons]
    · rw [rows]
      rfl
    · rw [rows]
      exact List.mem_cons_of_mem _ List.mem_cons_self
  exact ⟨afterLoad site, named, (one_camera_iff rfl site_loaded named).mpr shared⟩

end DataBase
end MotionDetectAlarm
