import MotionDetectAlarm.Foundation.RingWindow
import MotionDetectAlarm.Foundation.TransitionSystem
import MotionDetectAlarm.HikDev.AlarmRing

namespace MotionDetectAlarm
namespace HikDev

open Foundation

/-!
# The consumer's pass over the ring

`main` empties the ring in passes.  A pass takes the number of waiting alarms
once, reads the date and time and then the address of each of them, and moves
the read index by the number it took at the start.  Callbacks may run between
any two of these calls, so the number is out of date as soon as it is taken.

`Drain` is the ring together with the position of `main` in its pass.  It also
carries a history that no code reads: every alarm published so far, how many
have been released, which pairs of readings the consumer has been shown, and
for each slot the number of the callback that wrote it last.

Two invariants are kept apart.  `Counted` needs no bound on the backlog and
says what the two indices are, however often the producer has lapped the
consumer.  `Faithful` says that the waiting alarms are still in their slots
and that the readings were taken from them in order; a step keeps it as long
as no more than 31 alarms wait.
-/

/-- Where `main` stands: which consumer call comes next. -/
inductive Pass where
  /-- The head of the service loop, before `HikDevGetAlarmNum`. -/
  | head
  /-- Before `HikDevGetAlarmDateTime(i)`. -/
  | dateTime (uiAlarmNum i : UInt32)
  /-- Before `HikDevGetAlarmIp(i)`, with the date and time already read. -/
  | ip (uiAlarmNum i : UInt32) (read : AlarmDateTime)
  /-- Before `HikDevSetAlarmIdxOffset(uiAlarmNum)`. -/
  | release (uiAlarmNum : UInt32)
  deriving DecidableEq

namespace Pass

/-- The number of alarms this pass will release. -/
def snapshot : Pass -> Nat
  | head => 0
  | dateTime uiAlarmNum _ => uiAlarmNum.toNat
  | ip uiAlarmNum _ _ => uiAlarmNum.toNat
  | release uiAlarmNum => uiAlarmNum.toNat

/-- The number of alarms this pass has read in full. -/
def finished : Pass -> Nat
  | head => 0
  | dateTime _ i => i.toNat
  | ip _ i _ => i.toNat
  | release uiAlarmNum => uiAlarmNum.toNat

/-- The loop variable is below the number taken at the head of the loop. -/
def InRange : Pass -> Prop
  | head => True
  | dateTime uiAlarmNum i => i.toNat < uiAlarmNum.toNat
  | ip uiAlarmNum i _ => i.toNat < uiAlarmNum.toNat
  | release uiAlarmNum => 0 < uiAlarmNum.toNat

end Pass

/-- The ring, the consumer, and the history of both. -/
structure Drain where
  ring : AlarmRing
  pass : Pass
  published : List AlarmMotionDetect
  released : Nat
  presented : List (AlarmDateTime × Bytes)
  writer : Vector (Option Nat) 32

namespace Drain

/-- The state in which `main` enters its service loop. -/
def start : Drain where
  ring := hikDevOperate
  pass := .head
  published := []
  released := 0
  presented := []
  writer := Vector.replicate 32 none

/-- The published alarms that have not been released, oldest first. -/
def waiting (drain : Drain) : List AlarmMotionDetect :=
  drain.published.drop drain.released

@[simp] theorem waiting_length (drain : Drain) :
    drain.waiting.length = drain.published.length - drain.released :=
  List.length_drop

theorem waiting_getElem? (drain : Drain) (i : Nat) :
    drain.waiting[i]? = drain.published[drain.released + i]? :=
  List.getElem?_drop

/-- Enter an alarm into the history, under the write index it was stored at. -/
def publish (drain : Drain) (record : AlarmMotionDetect) : Drain :=
  { drain with
    published := drain.published ++ [record]
    writer := drain.writer.setIfInBounds drain.ring.dwAlarmMotionDetectWr.toNat
      (some drain.published.length) }

/-- A callback that runs without interruption. -/
def callback (drain : Drain) (call : AlarmCallback) : Except Fault Drain :=
  (drain.ring.hikDevAlarmCallback call).map (fun ring =>
    match call.record with
    | none => { drain with ring := ring }
    | some record => { drain.publish record with ring := ring })

/-- The next consumer call.  With no alarm waiting, `main` sleeps and takes
the number again.  After the last reading it releases what it counted. -/
def consume (localtimeR : Int -> Tm) (drain : Drain) : Except Fault Drain :=
  match drain.pass with
  | .head =>
      let uiAlarmNum := drain.ring.hikDevGetAlarmNum
      .ok (if uiAlarmNum = 0 then drain else { drain with pass := .dateTime uiAlarmNum 0 })
  | .dateTime uiAlarmNum i =>
      (drain.ring.hikDevGetAlarmDateTime localtimeR i).map (fun read =>
        { drain with pass := .ip uiAlarmNum i read })
  | .ip uiAlarmNum i read =>
      (drain.ring.hikDevGetAlarmIp i []).map (fun strAlarmIp =>
        { drain with
          pass := if i + 1 < uiAlarmNum then .dateTime uiAlarmNum (i + 1) else .release uiAlarmNum
          presented := drain.presented ++ [(read, strAlarmIp)] })
  | .release uiAlarmNum =>
      .ok { drain with
        ring := drain.ring.hikDevSetAlarmIdxOffset uiAlarmNum
        pass := .head
        released := drain.released + uiAlarmNum.toNat }

/-- What the scheduler may run next. -/
inductive Event where
  | callback (call : AlarmCallback)
  | consume

/-- One step of the system with atomic callbacks. -/
def advance (localtimeR : Int -> Tm) (drain : Drain) : Event -> Except Fault Drain
  | .callback call => drain.callback call
  | .consume => drain.consume localtimeR

def step (localtimeR : Int -> Tm) (drain : Drain) (event : Event) (next : Drain) : Prop :=
  drain.advance localtimeR event = .ok next

/-- The record that an event adds to the history, if any. -/
def Event.record : Event -> Option AlarmMotionDetect
  | .callback call => call.record
  | .consume => none

/-! ## What each step does -/

section Steps

variable {localtimeR : Int -> Tm} {drain next : Drain}

theorem callback_rejected {call : AlarmCallback} (rejected : call.record = none) :
    drain.callback call = .ok drain := by
  rw [callback, hikDevAlarmCallback_rejected rejected, rejected]
  rfl

/-- An accepted callback fills the slot under the write index, moves that
index on, and enters the record into the history. -/
theorem callback_accepted {call : AlarmCallback} {record : AlarmMotionDetect}
    (accepted : call.record = some record) (wrLt : drain.ring.dwAlarmMotionDetectWr.toNat < 32) :
    exists moved : UInt32,
      drain.callback call = .ok { drain.publish record with
        ring := { drain.ring with
          struAlarmMotionDetect := drain.ring.struAlarmMotionDetect.set
            drain.ring.dwAlarmMotionDetectWr.toNat record wrLt
          dwAlarmMotionDetectWr := moved } } ∧
      moved.toNat = (drain.ring.dwAlarmMotionDetectWr.toNat + 1) % 32 := by
  rcases hikDevAlarmCallback_accepted accepted wrLt with ⟨moved, stored, value⟩
  refine ⟨moved, ?_, value⟩
  rw [callback, stored, accepted]
  rfl

/-- Everything a callback can do while the write index is in its range. -/
theorem callback_cases {call : AlarmCallback} (wrLt : drain.ring.dwAlarmMotionDetectWr.toNat < 32)
    (called : drain.callback call = .ok next) :
    (call.record = none ∧ next = drain) ∨
    exists record moved, call.record = some record ∧
      moved.toNat = (drain.ring.dwAlarmMotionDetectWr.toNat + 1) % 32 ∧
      next = { drain.publish record with
        ring := { drain.ring with
          struAlarmMotionDetect := drain.ring.struAlarmMotionDetect.set
            drain.ring.dwAlarmMotionDetectWr.toNat record wrLt
          dwAlarmMotionDetectWr := moved } } := by
  cases accepted : call.record with
  | none =>
      rw [callback_rejected accepted] at called
      exact Or.inl ⟨rfl, (Except.ok.inj called).symm⟩
  | some record =>
      rcases callback_accepted accepted wrLt with ⟨moved, stored, value⟩
      rw [stored] at called
      exact Or.inr ⟨record, moved, rfl, value, (Except.ok.inj called).symm⟩

/-- Everything a consumer call can do, by the position it is made from. -/
theorem consume_cases (consumed : drain.consume localtimeR = .ok next) :
    (drain.pass = .head ∧ drain.ring.hikDevGetAlarmNum = 0 ∧ next = drain) ∨
    (drain.pass = .head ∧ drain.ring.hikDevGetAlarmNum ≠ 0 ∧
      next = { drain with pass := .dateTime drain.ring.hikDevGetAlarmNum 0 }) ∨
    (exists uiAlarmNum i slot, drain.pass = .dateTime uiAlarmNum i ∧ drain.ring.readSlot i = .ok slot ∧
      next = { drain with pass := .ip uiAlarmNum i (slot.dateTime localtimeR) }) ∨
    (exists uiAlarmNum i read slot, drain.pass = .ip uiAlarmNum i read ∧ drain.ring.readSlot i = .ok slot ∧
      next = { drain with
        pass := if i + 1 < uiAlarmNum then .dateTime uiAlarmNum (i + 1) else .release uiAlarmNum
        presented := drain.presented ++ [(read, slot.ip)] }) ∨
    (exists uiAlarmNum, drain.pass = .release uiAlarmNum ∧
      next = { drain with
        ring := drain.ring.hikDevSetAlarmIdxOffset uiAlarmNum
        pass := .head
        released := drain.released + uiAlarmNum.toNat }) := by
  unfold consume at consumed
  split at consumed
  · rename_i here
    have same := Except.ok.inj consumed
    by_cases none_waiting : drain.ring.hikDevGetAlarmNum = 0
    · exact Or.inl ⟨here, none_waiting, by rw [← same, if_pos none_waiting]⟩
    · exact Or.inr (Or.inl ⟨here, none_waiting, by rw [← same, if_neg none_waiting]⟩)
  · rename_i uiAlarmNum i here
    rcases exists_of_map_eq_ok consumed with ⟨read, reported, same⟩
    rcases exists_of_map_eq_ok reported with ⟨slot, found, rfl⟩
    exact Or.inr (Or.inr (Or.inl ⟨uiAlarmNum, i, slot, here, found, same.symm⟩))
  · rename_i uiAlarmNum i read here
    rcases exists_of_map_eq_ok consumed with ⟨strAlarmIp, reported, same⟩
    rcases exists_of_map_eq_ok reported with ⟨slot, found, rfl⟩
    exact Or.inr (Or.inr (Or.inr (Or.inl ⟨uiAlarmNum, i, read, slot, here, found, same.symm⟩)))
  · rename_i uiAlarmNum here
    exact Or.inr (Or.inr (Or.inr (Or.inr ⟨uiAlarmNum, here, (Except.ok.inj consumed).symm⟩)))

/-- A callback appends at most its own record to the history and leaves the
consumer's side alone. -/
theorem callback_frame {call : AlarmCallback} (called : drain.callback call = .ok next) :
    next.published = drain.published ++ call.record.toList ∧ next.released = drain.released ∧
      next.pass = drain.pass ∧ next.presented = drain.presented := by
  rcases exists_of_map_eq_ok called with ⟨ring, -, rfl⟩
  cases call.record with
  | none => simp
  | some record => simp [publish]

/-- No consumer call touches the array or the write index. -/
theorem consume_frame (consumed : drain.consume localtimeR = .ok next) :
    next.published = drain.published ∧ next.writer = drain.writer ∧
      next.ring.struAlarmMotionDetect = drain.ring.struAlarmMotionDetect ∧
      next.ring.dwAlarmMotionDetectWr = drain.ring.dwAlarmMotionDetectWr := by
  rcases consume_cases consumed with ⟨-, -, rfl⟩ | ⟨-, -, rfl⟩ | ⟨_, _, _, -, -, rfl⟩ |
    ⟨_, _, _, _, -, -, rfl⟩ | ⟨_, -, rfl⟩ <;> exact ⟨rfl, rfl, rfl, rfl⟩

/-- A consumer call fails only by leaving the array. -/
theorem consume_error {fault : Fault} (failed : drain.consume localtimeR = .error fault) :
    fault = .outOfBounds := by
  unfold consume at failed
  split at failed
  · cases failed
  · exact readSlot_error (eq_error_of_map_eq_error (eq_error_of_map_eq_error failed))
  · exact readSlot_error (eq_error_of_map_eq_error (eq_error_of_map_eq_error failed))
  · cases failed

/-- After a reading the pass is at the next alarm, or at the release. -/
theorem advance_spec {uiAlarmNum i : UInt32} (below : i.toNat < uiAlarmNum.toNat) :
    let after := if i + 1 < uiAlarmNum then Pass.dateTime uiAlarmNum (i + 1) else .release uiAlarmNum
    after.snapshot = uiAlarmNum.toNat ∧ after.finished = i.toNat + 1 ∧ after.InRange := by
  have value := counter_succ_toNat below uiAlarmNum.toNat_lt
  by_cases more : i + 1 < uiAlarmNum
  · have less := UInt32.lt_iff_toNat_lt.mp more
    simp only [if_pos more, Pass.snapshot, Pass.finished, Pass.InRange]
    exact ⟨trivial, value, less⟩
  · have reached : ¬ (i + 1).toNat < uiAlarmNum.toNat :=
      fun less => more (UInt32.lt_iff_toNat_lt.mpr less)
    simp only [if_neg more, Pass.snapshot, Pass.finished, Pass.InRange]
    exact ⟨trivial, by omega, by omega⟩

end Steps

/-! ## The indices, with no bound on the backlog -/

/-- The indices count modulo 32, and a pass never releases more than was
published when it took its number. -/
structure Counted (drain : Drain) : Prop where
  rd_eq : drain.ring.dwAlarmMotionDetectRd.toNat = drain.released % 32
  wr_eq : drain.ring.dwAlarmMotionDetectWr.toNat = drain.published.length % 32
  covered : drain.released + drain.pass.snapshot ≤ drain.published.length
  small : drain.pass.snapshot < 32
  inRange : drain.pass.InRange

namespace Counted

variable {localtimeR : Int -> Tm} {drain next : Drain}

theorem start : Counted Drain.start where
  rd_eq := rfl
  wr_eq := rfl
  covered := Nat.le_refl 0
  small := by decide
  inRange := trivial

theorem rd_lt (counted : Counted drain) : drain.ring.dwAlarmMotionDetectRd.toNat < 32 := by
  rw [counted.rd_eq]
  exact Nat.mod_lt _ (by decide)

theorem wr_lt (counted : Counted drain) : drain.ring.dwAlarmMotionDetectWr.toNat < 32 := by
  rw [counted.wr_eq]
  exact Nat.mod_lt _ (by decide)

/-- The number of waiting alarms, as far as the indices can tell. -/
theorem num_eq (counted : Counted drain) :
    drain.ring.hikDevGetAlarmNum.toNat = (drain.published.length - drain.released) % 32 := by
  have covered := counted.covered
  rw [hikDevGetAlarmNum_toNat (Nat.le_of_lt counted.wr_lt) counted.rd_lt, counted.rd_eq, counted.wr_eq]
  split <;> omega

theorem callback {call : AlarmCallback} (counted : Counted drain)
    (called : drain.callback call = .ok next) : Counted next := by
  rcases callback_cases counted.wr_lt called with ⟨-, rfl⟩ | ⟨record, moved, -, value, rfl⟩
  · exact counted
  · have covered := counted.covered
    exact {
      rd_eq := counted.rd_eq
      wr_eq := by
        simp only [publish, List.length_append, List.length_singleton]
        rw [value, counted.wr_eq]
        omega
      covered := by
        simp only [publish, List.length_append, List.length_singleton]
        omega
      small := counted.small
      inRange := counted.inRange }

theorem consume (counted : Counted drain) (consumed : drain.consume localtimeR = .ok next) :
    Counted next := by
  have covered := counted.covered
  have small := counted.small
  have inRange := counted.inRange
  rcases consume_cases consumed with ⟨-, -, rfl⟩ | ⟨here, some_waiting, rfl⟩ |
    ⟨uiAlarmNum, i, slot, here, -, rfl⟩ | ⟨uiAlarmNum, i, read, slot, here, -, rfl⟩ |
    ⟨uiAlarmNum, here, rfl⟩
  · exact counted
  · have number := counted.num_eq
    simp only [here, Pass.snapshot] at covered
    refine ⟨counted.rd_eq, counted.wr_eq, ?_, ?_, ?_⟩ <;>
      simp only [Pass.snapshot, Pass.InRange, UInt32.reduceToNat]
    · omega
    · omega
    · exact Nat.pos_of_ne_zero (fun zero => some_waiting (UInt32.toNat_inj.mp zero))
  · simp only [here, Pass.snapshot, Pass.InRange] at covered small inRange
    exact ⟨counted.rd_eq, counted.wr_eq, covered, small, inRange⟩
  · simp only [here, Pass.snapshot, Pass.InRange] at covered small inRange
    have after := advance_spec inRange
    exact ⟨counted.rd_eq, counted.wr_eq, by rw [after.1]; exact covered,
      by rw [after.1]; exact small, after.2.2⟩
  · simp only [here, Pass.snapshot, Pass.InRange] at covered small inRange
    refine ⟨?_, counted.wr_eq, covered, Nat.zero_lt_succ 31, trivial⟩
    rw [hikDevSetAlarmIdxOffset_toNat counted.rd_lt (Nat.le_of_lt small), counted.rd_eq]
    exact Nat.mod_add_mod _ _ _

theorem step {event : Event} (counted : Counted drain) (stepped : drain.step localtimeR event next) :
    Counted next := by
  cases event with
  | callback call => exact counted.callback stepped
  | consume => exact counted.consume stepped

/-- The indices count in every run, whatever the backlog. -/
theorem of_run {events : List Event} (run : Run (Drain.step localtimeR) Drain.start events drain) :
    Counted drain :=
  run.invariant Counted Counted.start (fun _ _ _ counted stepped => counted.step stepped)

end Counted

/-! ## The readings, with at most 31 alarms waiting -/

/-- The pair of readings that an alarm should produce. -/
def shown (localtimeR : Int -> Tm) (record : AlarmMotionDetect) : AlarmDateTime × Bytes :=
  (record.dateTime localtimeR, record.ip)

/-- The backlog bound: one slot of the ring stays free. -/
def Bounded (drain : Drain) : Prop :=
  drain.published.length ≤ drain.released + 31

instance (drain : Drain) : Decidable drain.Bounded :=
  inferInstanceAs (Decidable (_ ≤ _))

/-- The waiting alarms are in their slots, and the consumer has been shown
exactly the oldest alarms, each once and in the order of arrival. -/
structure Faithful (localtimeR : Int -> Tm) (drain : Drain) : Prop where
  rd_eq : drain.ring.dwAlarmMotionDetectRd.toNat = drain.released % 32
  covered : drain.released + drain.pass.snapshot ≤ drain.published.length
  inRange : drain.pass.InRange
  window : Window drain.ring.struAlarmMotionDetect drain.published drain.released
  presented_eq : drain.presented =
    (drain.published.take (drain.released + drain.pass.finished)).map (shown localtimeR)
  current : forall uiAlarmNum i read, drain.pass = .ip uiAlarmNum i read ->
    exists record, drain.published[drain.released + i.toNat]? = some record ∧
      record.dateTime localtimeR = read

namespace Faithful

variable {localtimeR : Int -> Tm} {drain next : Drain}

theorem start : Faithful localtimeR Drain.start where
  rd_eq := rfl
  covered := Nat.le_refl 0
  inRange := trivial
  window := Window.nil _ _
  presented_eq := rfl
  current := fun _ _ _ here => nomatch here

theorem rd_lt (faithful : Faithful localtimeR drain) :
    drain.ring.dwAlarmMotionDetectRd.toNat < 32 := by
  rw [faithful.rd_eq]
  exact Nat.mod_lt _ (by decide)

/-- An accessor called with an index below the snapshot reads that alarm. -/
theorem readSlot (faithful : Faithful localtimeR drain) (bounded : drain.Bounded)
    {i : UInt32} (below : i.toNat < drain.pass.snapshot) :
    exists record, drain.published[drain.released + i.toNat]? = some record ∧
      drain.ring.readSlot i = .ok record := by
  have covered := faithful.covered
  have inLog : drain.released + i.toNat < drain.published.length := by omega
  have small : i.toNat < 32 := by
    unfold Bounded at bounded
    omega
  have slot : (drain.ring.slotIdx i).toNat = (drain.released + i.toNat) % 32 := by
    rw [slotIdx_toNat faithful.rd_lt small, faithful.rd_eq]
    exact Nat.mod_add_mod _ _ _
  have stored := faithful.window (drain.released + i.toNat) (Nat.le_add_right _ _) inLog
  refine ⟨drain.published[drain.released + i.toNat], List.getElem?_eq_getElem inLog, ?_⟩
  rw [AlarmRing.readSlot, slot, stored, List.getElem?_eq_getElem inLog]

/-- A consumer call succeeds and keeps the readings faithful, provided the
number taken at the head of the loop is the number of waiting alarms. -/
theorem consume (faithful : Faithful localtimeR drain) (bounded : drain.Bounded)
    (counts : drain.pass = .head ->
      drain.ring.hikDevGetAlarmNum.toNat = drain.published.length - drain.released) :
    exists next, drain.consume localtimeR = .ok next ∧ Faithful localtimeR next := by
  have covered := faithful.covered
  have inRange := faithful.inRange
  have presented := faithful.presented_eq
  cases here : drain.pass with
  | head =>
      have number := counts here
      simp only [here, Pass.snapshot, Pass.finished] at covered presented
      refine ⟨_, by rw [Drain.consume, here], ?_⟩
      by_cases none_waiting : drain.ring.hikDevGetAlarmNum = 0
      · rw [if_pos none_waiting]
        exact faithful
      · rw [if_neg none_waiting]
        refine ⟨faithful.rd_eq, ?_, ?_, faithful.window, presented, fun _ _ _ absurd => nomatch absurd⟩
        · simp only [Pass.snapshot]
          omega
        · exact Nat.pos_of_ne_zero (fun zero => none_waiting (UInt32.toNat_inj.mp zero))
  | dateTime uiAlarmNum i =>
      have below : i.toNat < drain.pass.snapshot := by
        simpa only [here, Pass.InRange, Pass.snapshot] using inRange
      rcases faithful.readSlot bounded below with ⟨record, listed, found⟩
      simp only [here, Pass.snapshot, Pass.finished, Pass.InRange] at covered presented inRange
      refine ⟨{ drain with pass := .ip uiAlarmNum i (record.dateTime localtimeR) }, ?_,
        faithful.rd_eq, covered, inRange, faithful.window, presented, ?_⟩
      · rw [Drain.consume, here]
        simp only [hikDevGetAlarmDateTime_ok localtimeR found]
        rfl
      · intro _ _ _ same
        cases same
        exact ⟨record, listed, rfl⟩
  | ip uiAlarmNum i read =>
      have below : i.toNat < drain.pass.snapshot := by
        simpa only [here, Pass.InRange, Pass.snapshot] using inRange
      rcases faithful.readSlot bounded below with ⟨record, listed, found⟩
      rcases faithful.current uiAlarmNum i read here with ⟨first, listedFirst, dated⟩
      simp only [here, Pass.snapshot, Pass.finished, Pass.InRange] at covered presented inRange
      have after := advance_spec inRange
      refine ⟨{ drain with
          pass := if i + 1 < uiAlarmNum then .dateTime uiAlarmNum (i + 1) else .release uiAlarmNum
          presented := drain.presented ++ [(read, record.ip)] }, ?_,
        faithful.rd_eq, by rw [after.1]; exact covered, after.2.2, faithful.window, ?_, ?_⟩
      · rw [Drain.consume, here]
        simp only [hikDevGetAlarmIp_ok found]
        rfl
      · -- both readings of this round come from the alarm behind those already shown
        have sameRecord : first = record := Option.some.inj (listedFirst.symm.trans listed)
        have pair : shown localtimeR record = (read, record.ip) := by
          rw [shown, ← sameRecord, dated]
        simp only [after.2.1, ← Nat.add_assoc]
        rw [List.take_add_one, listed, List.map_append, ← presented]
        simp only [Option.toList_some, List.map_cons, List.map_nil, pair]
      · intro _ _ _ same
        split at same <;> cases same
  | release uiAlarmNum =>
      simp only [here, Pass.snapshot, Pass.finished, Pass.InRange] at covered presented inRange
      have offsetLe : uiAlarmNum.toNat ≤ 32 := by
        unfold Bounded at bounded
        omega
      refine ⟨{ drain with
          ring := drain.ring.hikDevSetAlarmIdxOffset uiAlarmNum
          pass := .head
          released := drain.released + uiAlarmNum.toNat }, by rw [Drain.consume, here], ?_, covered, trivial,
        faithful.window.mono (Nat.le_add_right _ _), presented, fun _ _ _ absurd => nomatch absurd⟩
      rw [hikDevSetAlarmIdxOffset_toNat faithful.rd_lt offsetLe, faithful.rd_eq]
      exact Nat.mod_add_mod _ _ _

/-- What has been shown in full has been published. -/
theorem finished_le (faithful : Faithful localtimeR drain) :
    drain.released + drain.pass.finished ≤ drain.published.length := by
  have covered := faithful.covered
  have inRange := faithful.inRange
  cases here : drain.pass <;>
    simp only [here, Pass.snapshot, Pass.finished, Pass.InRange] at covered inRange ⊢ <;> omega

/-- Appending to the history does not disturb what has been shown. -/
theorem extend (faithful : Faithful localtimeR drain) (record : AlarmMotionDetect)
    {slots : Vector AlarmMotionDetect 32} {moved : UInt32}
    {writer : Vector (Option Nat) 32}
    (window : Window slots (drain.published ++ [record]) drain.released) :
    Faithful localtimeR { drain with
      ring := { drain.ring with struAlarmMotionDetect := slots, dwAlarmMotionDetectWr := moved }
      published := drain.published ++ [record]
      writer := writer } := by
  have covered := faithful.covered
  refine ⟨faithful.rd_eq, ?_, faithful.inRange, window, ?_, ?_⟩
  · simp only [List.length_append, List.length_singleton]
    omega
  · simp only
    rw [List.take_append_of_le_length faithful.finished_le]
    exact faithful.presented_eq
  · intro uiAlarmNum i read here
    rcases faithful.current uiAlarmNum i read here with ⟨first, listed, dated⟩
    refine ⟨first, ?_, dated⟩
    have inLog := (List.getElem?_eq_some_iff.mp listed).1
    exact (List.getElem?_append_left inLog).trans listed

/-- An atomic callback keeps the readings faithful while a slot is free. -/
theorem callback {call : AlarmCallback} (faithful : Faithful localtimeR drain)
    (bounded : drain.Bounded) (counted : Counted drain)
    (called : drain.callback call = .ok next) : Faithful localtimeR next := by
  rcases callback_cases counted.wr_lt called with ⟨-, rfl⟩ | ⟨record, moved, -, -, rfl⟩
  · exact faithful
  · have room : drain.published.length < drain.released + 32 := by
      unfold Bounded at bounded
      omega
    exact faithful.extend record (faithful.window.store room record counted.wr_eq counted.wr_lt)

end Faithful

/-- A run with atomic callbacks in which at most 31 alarms ever wait. -/
def boundedStep (localtimeR : Int -> Tm) : Drain -> Event -> Drain -> Prop :=
  Guarded (step localtimeR) (fun _ _ after => after.Bounded)

/-- One bounded step keeps both invariants. -/
theorem boundedStep_keeps {localtimeR : Int -> Tm} {before after : Drain} {event : Event}
    (held : Counted before ∧ Faithful localtimeR before ∧ before.Bounded)
    (stepped : boundedStep localtimeR before event after) :
    Counted after ∧ Faithful localtimeR after ∧ after.Bounded := by
  rcases held with ⟨counted, faithful, bounded⟩
  refine ⟨counted.step stepped.1, ?_, stepped.2⟩
  cases event with
  | callback call => exact faithful.callback bounded counted stepped.1
  | consume =>
      have counts : before.ring.hikDevGetAlarmNum.toNat = before.published.length - before.released := by
        rw [counted.num_eq]
        apply Nat.mod_eq_of_lt
        unfold Bounded at bounded
        omega
      rcases faithful.consume bounded (fun _ => counts) with ⟨next, consumed, kept⟩
      have same : next = after := Except.ok.inj (consumed.symm.trans stepped.1)
      exact same ▸ kept

end Drain

end HikDev
end MotionDetectAlarm
