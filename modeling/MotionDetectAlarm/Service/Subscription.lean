import MotionDetectAlarm.Foundation.Journal
import MotionDetectAlarm.Foundation.Simulation
import MotionDetectAlarm.Service.Startup

namespace MotionDetectAlarm
namespace Service

open Foundation DataBase

/-!
# The subscription for alarms

For every camera that it can log in to, `main` reads the settings of the first
channel, switches motion detection on where it is off, sets the callback and
opens an alarm channel.  Each of these calls may be refused, and what is refused
ends the work on this camera, not the start.

The SDK is any function from the calls made so far to an answer, so a camera may
change its settings between two calls and a call may succeed once and fail the
next time.  The log of calls is a journal with a session for each login.
-/

/-! ## Calls -/

/-- `NET_DVR_PICCFG_V30`: the two bytes of its motion settings that are looked at
or written, and all the others. -/
structure PicCfg where
  byMotionSensitive : UInt8
  byEnableHandleMotion : UInt8
  others : Bytes
  deriving DecidableEq

/-- The settings with motion detection switched on. -/
def PicCfg.switchedOn (struPicCfg : PicCfg) : PicCfg :=
  { struPicCfg with byEnableHandleMotion := 1, byMotionSensitive := 4 }

/-- The calls of the SDK.  The channel of the settings is 1, the callback is
`HikDevAlarmCallback`, and the parameter of an alarm channel is blank. -/
inductive SdkCall where
  | loginV40 (struDevLoginInfo : UserLoginInfo)
  | getDVRConfig (lUserId : Int32)
  | setDVRConfig (lUserId : Int32) (struPicCfg : PicCfg)
  | setDVRMessageCallBackV30
  | setupAlarmChanV41 (lUserId : Int32)
  deriving DecidableEq

/-- The record of a login. -/
def SdkCall.login : SdkCall -> Option UserLoginInfo
  | .loginV40 struDevLoginInfo => some struDevLoginInfo
  | _ => none

/-- The answers of the SDK, which may depend on all earlier calls. -/
structure Sdk where
  loginV40 : List SdkCall -> UserLoginInfo -> Int32
  getDVRConfig : List SdkCall -> Int32 -> Option PicCfg
  setDVRConfig : List SdkCall -> Int32 -> PicCfg -> Bool
  setDVRMessageCallBackV30 : List SdkCall -> Bool
  setupAlarmChanV41 : List SdkCall -> Int32 -> Int32

/-- The alarm handle, and the calls made so far. -/
structure HikDevOperate where
  lAlarmHandle : Int32
  calls : List SdkCall

namespace HikDevOperate

def constructed : HikDevOperate where
  lAlarmHandle := 0
  calls := []

variable (sdk : Sdk) (operate : HikDevOperate)

def called (call : SdkCall) : HikDevOperate :=
  { operate with calls := operate.calls ++ [call] }

def hikDevLogin (devHdl : HikDevHandl) : Except Fault (Int32 × HikDevOperate) :=
  devHdl.hikDevLogin.map (fun info =>
    let userId := sdk.loginV40 operate.calls info
    (if userId < 0 then -1 else userId, operate.called (.loginV40 info)))

def hikDevMotionDetectCfg (lUserId : Int32) : Bool × HikDevOperate :=
  match sdk.getDVRConfig operate.calls lUserId with
  | none => (false, operate.called (.getDVRConfig lUserId))
  | some struPicCfg =>
      let read := operate.called (.getDVRConfig lUserId)
      if struPicCfg.byEnableHandleMotion = 0 then
        (sdk.setDVRConfig read.calls lUserId struPicCfg.switchedOn,
          read.called (.setDVRConfig lUserId struPicCfg.switchedOn))
      else (true, read)

def hikDevStartAlarm (lUserId : Int32) : Bool × HikDevOperate :=
  match operate.hikDevMotionDetectCfg sdk lUserId with
  | (false, operate) => (false, operate)
  | (true, operate) =>
      if sdk.setDVRMessageCallBackV30 operate.calls = false then (false, operate.called .setDVRMessageCallBackV30)
      else
        let operate := operate.called .setDVRMessageCallBackV30
        let lAlarmHandle := sdk.setupAlarmChanV41 operate.calls lUserId
        (decide (0 ≤ lAlarmHandle),
          { operate.called (.setupAlarmChanV41 lUserId) with lAlarmHandle := lAlarmHandle })

end HikDevOperate

/-- The table and the SDK in the login loop. -/
structure Subscribing where
  dataBase : DataBaseOperate
  operate : HikDevOperate

/-- One round of the login loop, with the answers of the SDK. -/
def Subscribing.round (sdk : Sdk) (cameras : Subscribing) (i : Nat) : Except Fault Subscribing :=
  match devHandl cameras.dataBase i with
  | (none, after) => .ok { cameras with dataBase := after }
  | (some devHdl, after) =>
      (cameras.operate.hikDevLogin sdk devHdl).map (fun (lUserId, operate) =>
        { dataBase := after
          operate := if lUserId < 0 then operate else (operate.hikDevStartAlarm sdk lUserId).2 })

/-- The start up to the last camera. -/
def Host.subscribe (host : Host) (sdk : Sdk) : Except Fault Subscribing := do
  let connected <- host.connect
  (List.range connected.2.getCameraNum).foldlM (Subscribing.round sdk)
    { dataBase := connected.2, operate := .constructed }

/-! ## Sessions -/

section Sessions

variable (sdk : Sdk)

/-- The calls about the settings of a camera, behind those made before.  They end
with motion detection switched on, or they fail. -/
inductive Preparation (calls : List SdkCall) (lUserId : Int32) : Bool -> List SdkCall -> Prop
  | unread :
      sdk.getDVRConfig calls lUserId = none ->
      Preparation calls lUserId false [.getDVRConfig lUserId]
  | found {struPicCfg : PicCfg} :
      sdk.getDVRConfig calls lUserId = some struPicCfg -> struPicCfg.byEnableHandleMotion ≠ 0 ->
      Preparation calls lUserId true [.getDVRConfig lUserId]
  | written {struPicCfg : PicCfg} {accepted : Bool} :
      sdk.getDVRConfig calls lUserId = some struPicCfg -> struPicCfg.byEnableHandleMotion = 0 ->
      sdk.setDVRConfig (calls ++ [.getDVRConfig lUserId]) lUserId struPicCfg.switchedOn = accepted ->
      Preparation calls lUserId accepted [.getDVRConfig lUserId, .setDVRConfig lUserId struPicCfg.switchedOn]

/-- The calls for a camera that is logged in. -/
inductive Subscription (calls : List SdkCall) (lUserId : Int32) : List SdkCall -> Prop
  | unprepared {block : List SdkCall} :
      Preparation sdk calls lUserId false block -> Subscription calls lUserId block
  | unset {block : List SdkCall} :
      Preparation sdk calls lUserId true block -> sdk.setDVRMessageCallBackV30 (calls ++ block) = false ->
      Subscription calls lUserId (block ++ [.setDVRMessageCallBackV30])
  | asked {block : List SdkCall} :
      Preparation sdk calls lUserId true block -> sdk.setDVRMessageCallBackV30 (calls ++ block) = true ->
      Subscription calls lUserId (block ++ [.setDVRMessageCallBackV30, .setupAlarmChanV41 lUserId])

/-- The calls of one login and of what follows from it. -/
inductive Session (calls : List SdkCall) (info : UserLoginInfo) : List SdkCall -> Prop
  | refused : sdk.loginV40 calls info < 0 -> Session calls info [.loginV40 info]
  | accepted {lUserId : Int32} {block : List SdkCall} :
      sdk.loginV40 calls info = lUserId -> 0 ≤ lUserId ->
      Subscription sdk (calls ++ [.loginV40 info]) lUserId block -> Session calls info (.loginV40 info :: block)

end Sessions

variable {sdk : Sdk} {operate after : HikDevOperate} {lUserId : Int32}

theorem hikDevMotionDetectCfg_prepares {done : Bool} (called : operate.hikDevMotionDetectCfg sdk lUserId = (done, after)) :
    exists block, Preparation sdk operate.calls lUserId done block ∧ after.calls = operate.calls ++ block := by
  unfold HikDevOperate.hikDevMotionDetectCfg at called
  split at called
  · rename_i unread
    cases called
    exact ⟨_, .unread unread, rfl⟩
  · rename_i struPicCfg read
    split at called
    · rename_i disabled
      cases called
      exact ⟨_, .written read disabled rfl, by simp [HikDevOperate.called]⟩
    · rename_i enabled
      cases called
      exact ⟨_, .found read enabled, rfl⟩

theorem hikDevStartAlarm_subscribes (sdk : Sdk) (operate : HikDevOperate) (lUserId : Int32) :
    exists block, Subscription sdk operate.calls lUserId block ∧
      (operate.hikDevStartAlarm sdk lUserId).2.calls = operate.calls ++ block := by
  unfold HikDevOperate.hikDevStartAlarm
  split
  · rename_i prepared failed
    rcases hikDevMotionDetectCfg_prepares failed with ⟨block, preparation, log⟩
    exact ⟨block, .unprepared preparation, log⟩
  · rename_i prepared succeeded
    rcases hikDevMotionDetectCfg_prepares succeeded with ⟨block, preparation, log⟩
    split
    · rename_i unset
      refine ⟨_, .unset preparation (log ▸ unset), ?_⟩
      rw [HikDevOperate.called, log, List.append_assoc]
    · rename_i set
      refine ⟨_, .asked preparation (log ▸ Bool.eq_true_of_not_eq_false set), ?_⟩
      simp [HikDevOperate.called, log]

/-- The table is that of the loop without answers, and the log has a session for
each login. -/
def Follows (sdk : Sdk) (logins : Logins) (cameras : Subscribing) : Prop :=
  cameras.dataBase = logins.dataBase ∧ Journal (Session sdk) (logins.made.map Prod.snd) cameras.operate.calls

/-- A round makes the login of the round without answers, and with it a session. -/
theorem round_follows {logins : Logins} {cameras : Subscribing} (i : Nat)
    (follows : Follows sdk logins cameras) : Alike (Follows sdk) (logins.round i) (cameras.round sdk i) := by
  rcases follows with ⟨same, journal⟩
  unfold Logins.round Subscribing.round HikDevOperate.hikDevLogin
  rw [same]
  rcases devHandl logins.dataBase i with ⟨asked, dataBase⟩
  cases asked with
  | none => exact .returned ⟨rfl, journal⟩
  | some devHdl =>
      dsimp only
      cases devHdl.hikDevLogin with
      | error fault => exact .failed fault
      | ok info =>
          apply Alike.returned
          refine ⟨rfl, ?_⟩
          dsimp only
          rw [List.map_append, List.map_singleton]
          by_cases refused : sdk.loginV40 cameras.operate.calls info < 0
          · rw [if_pos refused, if_pos (by decide)]
            exact journal.snoc (.refused refused)
          · rw [if_neg refused, if_neg refused]
            rcases hikDevStartAlarm_subscribes sdk (cameras.operate.called (.loginV40 info))
              (sdk.loginV40 cameras.operate.calls info) with ⟨block, subscription, log⟩
            rw [log, HikDevOperate.called, List.append_assoc]
            exact journal.snoc (.accepted rfl (Int32.not_lt.mp refused) subscription)

/-! ## Channels and settings -/

section Entries

variable {calls block part rest : List SdkCall} {info : UserLoginInfo}

theorem Preparation.mem {done : Bool} (preparation : Preparation sdk calls lUserId done block) {call : SdkCall}
    (member : call ∈ block) :
    call = .getDVRConfig lUserId ∨ exists struPicCfg, call = .setDVRConfig lUserId struPicCfg := by
  cases preparation with
  | unread _ => exact Or.inl (List.mem_singleton.mp member)
  | found _ _ => exact Or.inl (List.mem_singleton.mp member)
  | written _ _ _ =>
      rcases List.mem_cons.mp member with first | second
      · exact Or.inl first
      · exact Or.inr ⟨_, List.mem_singleton.mp second⟩

theorem Preparation.no_channel {done : Bool} (preparation : Preparation sdk calls lUserId done block) (other : Int32) :
    .setupAlarmChanV41 other ∉ block := by
  intro member
  rcases preparation.mem member with read | ⟨_, written⟩
  · cases read
  · cases written

/-- Settings are written behind the call that has read them, where motion
detection was off. -/
theorem Preparation.written_cases {done : Bool} {later : List SdkCall}
    (preparation : Preparation sdk calls lUserId done block) {other : Int32} {written : PicCfg}
    (whole : block ++ later = part ++ .setDVRConfig other written :: rest)
    (none_later : .setDVRConfig other written ∉ later) :
    other = lUserId ∧ part = [.getDVRConfig lUserId] ∧
      exists struPicCfg, sdk.getDVRConfig calls lUserId = some struPicCfg ∧ struPicCfg.byEnableHandleMotion = 0 ∧
        written = struPicCfg.switchedOn := by
  have behind : forall {first : List SdkCall}, first ++ later = part ++ .setDVRConfig other written :: rest ->
      .setDVRConfig other written ∉ first -> False := by
    intro first whole fresh
    have member : .setDVRConfig other written ∈ first ++ later :=
      whole ▸ List.mem_append_right _ List.mem_cons_self
    rcases List.mem_append.mp member with early | late
    · exact fresh early
    · exact none_later late
  cases preparation with
  | unread _ => exact (behind whole (by simp)).elim
  | found _ _ => exact (behind whole (by simp)).elim
  | @written struPicCfg _ read disabled _ =>
      rcases part with _ | ⟨first, _ | ⟨second, part⟩⟩
      · cases whole
      · cases whole
        exact ⟨rfl, rfl, struPicCfg, read, disabled, rfl⟩
      · simp only [List.cons_append, List.cons.injEq, List.nil_append] at whole
        have member : .setDVRConfig other written ∈ later :=
          whole.2.2 ▸ List.mem_append_right _ List.mem_cons_self
        exact absurd member none_later

/-- A channel is opened last, with motion detection on and the callback set. -/
theorem Subscription.channel_cases (subscription : Subscription sdk calls lUserId block) {other : Int32}
    (whole : block = part ++ .setupAlarmChanV41 other :: rest) :
    other = lUserId ∧ exists preparation, part = preparation ++ [.setDVRMessageCallBackV30] ∧
      Preparation sdk calls lUserId true preparation ∧
      sdk.setDVRMessageCallBackV30 (calls ++ preparation) = true := by
  have member : .setupAlarmChanV41 other ∈ block := whole ▸ List.mem_append_right _ List.mem_cons_self
  cases subscription with
  | unprepared preparation => exact absurd member (preparation.no_channel other)
  | unset preparation _ =>
      rcases List.mem_append.mp member with early | last
      · exact absurd early (preparation.no_channel other)
      · cases List.mem_singleton.mp last
  | @asked prepared preparation set =>
      have fresh : .setupAlarmChanV41 other ∉ prepared ++ [.setDVRMessageCallBackV30] := by
        intro member
        rcases List.mem_append.mp member with early | last
        · exact preparation.no_channel other early
        · cases List.mem_singleton.mp last
      rw [List.append_cons] at whole
      rcases eq_of_append_last whole fresh with ⟨cut, same⟩
      cases same
      exact ⟨rfl, prepared, cut, preparation, set⟩

theorem Subscription.written_cases (subscription : Subscription sdk calls lUserId block) {other : Int32}
    {written : PicCfg} (whole : block = part ++ .setDVRConfig other written :: rest) :
    other = lUserId ∧ part = [.getDVRConfig lUserId] ∧
      exists struPicCfg, sdk.getDVRConfig calls lUserId = some struPicCfg ∧ struPicCfg.byEnableHandleMotion = 0 ∧
        written = struPicCfg.switchedOn := by
  cases subscription with
  | unprepared preparation => exact preparation.written_cases ((List.append_nil _).trans whole) List.not_mem_nil
  | unset preparation _ => exact preparation.written_cases whole (by simp)
  | asked preparation _ => exact preparation.written_cases whole (by simp)

/-- What is called behind the login belongs to the camera that is logged in. -/
theorem Session.behind_login (session : Session sdk calls info block) {call : SdkCall}
    (whole : block = part ++ call :: rest) (later : call.login = none) :
    exists lUserId behind, part = .loginV40 info :: behind ∧ sdk.loginV40 calls info = lUserId ∧ 0 ≤ lUserId ∧
      Subscription sdk (calls ++ [.loginV40 info]) lUserId (behind ++ call :: rest) := by
  rcases part with _ | ⟨first, behind⟩
  · rw [List.nil_append] at whole
    cases session with
    | refused _ =>
        rw [← (List.cons.inj whole).1] at later
        cases later
    | accepted _ _ _ =>
        rw [← (List.cons.inj whole).1] at later
        cases later
  · rw [List.cons_append] at whole
    cases session with
    | refused _ =>
        exact absurd (List.cons.inj whole).2.symm (List.append_ne_nil_of_right_ne_nil _ (List.cons_ne_nil _ _))
    | accepted answer valid subscription =>
        rw [List.cons.injEq] at whole
        rcases whole with ⟨rfl, rfl⟩
        exact ⟨_, behind, rfl, answer, valid, subscription⟩

end Entries

/-- The start without answers and the one with them fail alike or come to the same
table, with a session for each login. -/
theorem subscribe_alike (host : Host) (sdk : Sdk) :
    Alike (fun started cameras => cameras.dataBase = started.dataBase ∧
      Journal (Session sdk) (started.logins.map Prod.snd) cameras.operate.calls) host.startup (host.subscribe sdk) := by
  rw [← bind_pure (host.subscribe sdk), Host.subscribe, bind_assoc]
  apply (Alike.same host.connect).bind
  rintro connected _ rfl
  have start : Follows sdk { dataBase := connected.2, made := [] } { dataBase := connected.2, operate := .constructed } :=
    ⟨rfl, .nil⟩
  apply (Alike.foldlM (fun i follows => round_follows i follows) _ start).bind
  rintro logins cameras ⟨same, journal⟩
  exact .returned ⟨same, journal⟩

/-- However the SDK answers, an alarm channel is only opened for a camera that has
been logged in to, whose motion detection has been found on or switched on, and
with the callback set, by the calls right before it.  Settings are only written
where motion detection was read as off, and only its two bytes change. -/
theorem calls_justified {host : Host} {cameras : Subscribing} (run : host.subscribe sdk = .ok cameras) :
    (forall front back lUserId, cameras.operate.calls = front ++ .setupAlarmChanV41 lUserId :: back ->
      exists earlier info preparation,
        front = earlier ++ .loginV40 info :: (preparation ++ [.setDVRMessageCallBackV30]) ∧
        sdk.loginV40 earlier info = lUserId ∧ 0 ≤ lUserId ∧
        Preparation sdk (earlier ++ [.loginV40 info]) lUserId true preparation ∧
        sdk.setDVRMessageCallBackV30 (earlier ++ .loginV40 info :: preparation) = true) ∧
    (forall front back lUserId written, cameras.operate.calls = front ++ .setDVRConfig lUserId written :: back ->
      exists earlier info struPicCfg,
        front = earlier ++ [.loginV40 info, .getDVRConfig lUserId] ∧
        sdk.loginV40 earlier info = lUserId ∧ 0 ≤ lUserId ∧
        sdk.getDVRConfig (earlier ++ [.loginV40 info]) lUserId = some struPicCfg ∧
        struPicCfg.byEnableHandleMotion = 0 ∧ written = struPicCfg.switchedOn) := by
  rcases (subscribe_alike host sdk).exists_first run with ⟨started, -, -, journal⟩
  constructor
  · intro front back lUserId opened
    rcases journal.locate opened with ⟨earlier, info, block, part, rest, session, whole, rfl⟩
    rcases session.behind_login whole rfl with ⟨_, behind, rfl, answer, valid, subscription⟩
    rcases subscription.channel_cases rfl with ⟨rfl, preparation, rfl, prepared, set⟩
    rw [List.append_assoc, List.singleton_append] at set
    exact ⟨earlier, info, preparation, rfl, answer, valid, prepared, set⟩
  · intro front back lUserId written changed
    rcases journal.locate changed with ⟨earlier, info, block, part, rest, session, whole, rfl⟩
    rcases session.behind_login whole rfl with ⟨_, behind, rfl, answer, valid, subscription⟩
    rcases subscription.written_cases rfl with ⟨rfl, rfl, struPicCfg, read, disabled, same⟩
    exact ⟨earlier, info, struPicCfg, rfl, answer, valid, read, disabled, same⟩

/-- An SDK that takes every call, on a camera with motion detection off. -/
def lobbySdk : Sdk where
  loginV40 := fun _ _ => 7
  getDVRConfig := fun _ _ => some { byMotionSensitive := 2, byEnableHandleMotion := 0, others := [1, 2, 3] }
  setDVRConfig := fun _ _ _ => true
  setDVRMessageCallBackV30 := fun _ => true
  setupAlarmChanV41 := fun _ _ => 0

theorem lobby_channel_justified :
    exists cameras front earlier info preparation, (hostWith lobby).subscribe lobbySdk = .ok cameras ∧
      cameras.operate.calls = front ++ [.setupAlarmChanV41 7] ∧
      front = earlier ++ .loginV40 info :: (preparation ++ [.setDVRMessageCallBackV30]) ∧
      Preparation lobbySdk (earlier ++ [.loginV40 info]) 7 true preparation := by
  have runs : ((hostWith lobby).subscribe lobbySdk).map (fun cameras => cameras.operate.calls.getLast?) =
      .ok (some (.setupAlarmChanV41 7)) := by
    decide
  rcases exists_of_map_eq_ok runs with ⟨cameras, run, last⟩
  rcases List.getLast?_eq_some_iff.mp last with ⟨front, opened⟩
  rcases (calls_justified run).1 front [] 7 opened with ⟨earlier, info, preparation, cut, -, -, prepared, -⟩
  exact ⟨cameras, front, earlier, info, preparation, run, opened, cut, prepared⟩

/-! ## Logins -/

/-- Every session has one login, and begins with it. -/
theorem Session.login {calls block : List SdkCall} {info : UserLoginInfo} (session : Session sdk calls info block) :
    block.filterMap SdkCall.login = [info] := by
  have prepared : forall {calls lUserId done block}, Preparation sdk calls lUserId done block ->
      block.filterMap SdkCall.login = [] := by
    intro calls lUserId done block preparation
    cases preparation <;> rfl
  cases session with
  | refused _ => rfl
  | accepted _ _ subscription =>
      rw [List.filterMap_cons]
      apply congrArg (List.cons info)
      cases subscription with
      | unprepared preparation => exact prepared preparation
      | unset preparation _ =>
          rw [List.filterMap_append, prepared preparation]
          rfl
      | asked preparation _ =>
          rw [List.filterMap_append, prepared preparation]
          rfl

/-- The answers of the SDK decide neither whether the start gets through the
cameras nor which logins are tried: the calls are those of the start without
answers, one session for each of its logins in the order of the table. -/
theorem same_logins (host : Host) (sdk : Sdk) :
    (forall fault, host.subscribe sdk = .error fault ↔ host.startup = .error fault) ∧
    (forall cameras, host.subscribe sdk = .ok cameras ->
      exists started, host.startup = .ok started ∧ cameras.dataBase = started.dataBase ∧
        Journal (Session sdk) (started.logins.map Prod.snd) cameras.operate.calls ∧
        cameras.operate.calls.filterMap SdkCall.login = started.logins.map Prod.snd) := by
  have alike := subscribe_alike host sdk
  constructor
  · intro fault
    exact alike.error_iff.symm
  · intro cameras run
    rcases alike.exists_first run with ⟨started, same, table, journal⟩
    refine ⟨started, same, table, journal, ?_⟩
    rw [journal.filterMap_eq (fun session => session.login), List.map_id']

end Service
end MotionDetectAlarm
