import MotionDetectAlarm.Foundation.Fifo
import MotionDetectAlarm.HikDev.Overrun

namespace MotionDetectAlarm
namespace HikDev

open Foundation

/-!
# Callbacks interleaved store by store

The SDK thread and `main` share the ring without a lock.  Here a callback is
cut at every store it makes, and consumer calls run anywhere in between.  An
alarm counts as published from the increment of the write index on, because
that is the store through which the consumer can see it.

The comparison is with a first-in first-out queue.  Every step appends to a
trace the queue operation that the code carried out, with the values that the
code computed, and the trace must be one that the queue allows.

One moment breaks the comparison.  Between the increment to 32 and the wrap
to 0 the write index is out of its range.  If the consumer has meanwhile
released every published alarm, its own index has wrapped already, and the
difference of the two is 32 with nothing waiting.
-/

/-- The store that follows in the program of a callback. -/
def Store.next : Store -> Option Store
  | .devInfo => some .channel
  | .channel => some .time
  | .time => some .advance
  | .advance => some .wrap
  | .wrap => none

/-- A consumer, a callback in progress if there is one, and the trace. -/
structure Interleaved where
  drain : Drain
  producer : Option (AlarmMotionDetect × Store)
  trace : List (FifoOp AlarmMotionDetect)

namespace Interleaved

def start : Interleaved where
  drain := Drain.start
  producer := none
  trace := []

/-- What the scheduler may run next. -/
inductive Event where
  /-- The SDK enters the callback. -/
  | enter (call : AlarmCallback)
  /-- The callback in progress makes its next store. -/
  | store
  /-- `main` makes its next call. -/
  | consume

/-- The record that an event takes up, if any. -/
def Event.record : Event -> Option AlarmMotionDetect
  | .enter call => call.record
  | .store => none
  | .consume => none

/-- Why an event does not happen: the callbacks of the SDK do not overlap, or
an access leaves the array. -/
inductive Refusal where
  | notScheduled
  | fault (fault : Fault)
  deriving DecidableEq

/-- The queue operation that the next consumer call amounts to. -/
def observed (drain : Drain) : List (FifoOp AlarmMotionDetect) :=
  match drain.pass with
  | .head => [.count drain.ring.hikDevGetAlarmNum.toNat]
  | .dateTime _ i => (drain.ring.readSlot i).toOption.toList.map (fun slot => .peek i.toNat slot)
  | .ip _ i _ => (drain.ring.readSlot i).toOption.toList.map (fun slot => .peek i.toNat slot)
  | .release uiAlarmNum => [.release uiAlarmNum.toNat]

/-- The state after a store.  The increment publishes the alarm. -/
def afterStore (state : Interleaved) (record : AlarmMotionDetect) (store : Store) (ring : AlarmRing) :
    Interleaved where
  drain :=
    if store = .advance then { state.drain.publish record with ring := ring }
    else { state.drain with ring := ring }
  producer := store.next.map (fun next => (record, next))
  trace := if store = .advance then state.trace ++ [.arrive record] else state.trace

/-- One step of the system with callbacks cut at their stores. -/
def advance (localtimeR : Int -> Tm) (state : Interleaved) : Event -> Except Refusal Interleaved
  | .enter call =>
      match state.producer with
      | some _ => .error .notScheduled
      | none => .ok { state with producer := call.record.map (fun record => (record, .devInfo)) }
  | .store =>
      match state.producer with
      | none => .error .notScheduled
      | some (record, store) =>
          ((state.drain.ring.store record store).map (state.afterStore record store)).mapError .fault
  | .consume =>
      ((state.drain.consume localtimeR).map (fun drain =>
        { state with drain := drain, trace := state.trace ++ observed state.drain })).mapError .fault

def step (localtimeR : Int -> Tm) (state : Interleaved) (event : Event) (next : Interleaved) : Prop :=
  state.advance localtimeR event = .ok next

/-- The write index stands behind the array and everything published has been
released, so that the read index has wrapped and the write index has not. -/
def Overtaken (state : Interleaved) : Prop :=
  state.drain.ring.dwAlarmMotionDetectWr = 32 ∧ state.drain.ring.dwAlarmMotionDetectRd = 0

/-- At most 31 published alarms wait, and no count is taken in the overtaken
state. -/
def guardedStep (localtimeR : Int -> Tm) : Interleaved -> Event -> Interleaved -> Prop :=
  Guarded (step localtimeR) (fun before event after => after.drain.Bounded ∧
    (event = .consume -> before.drain.pass = .head -> ¬ before.Overtaken))

section Steps

variable {localtimeR : Int -> Tm} {state next : Interleaved}

/-- A callback is entered only when none is in progress. -/
theorem enter_cases {call : AlarmCallback} (stepped : step localtimeR state (.enter call) next) :
    state.producer = none ∧
      next = { state with producer := call.record.map (fun record => (record, .devInfo)) } := by
  simp only [step, advance] at stepped
  split at stepped
  · cases stepped
  · rename_i idle
    exact ⟨idle, (Except.ok.inj stepped).symm⟩

/-- A store is the next one of the callback in progress. -/
theorem store_cases (stepped : step localtimeR state .store next) :
    exists record store ring, state.producer = some (record, store) ∧
      state.drain.ring.store record store = .ok ring ∧ next = state.afterStore record store ring := by
  simp only [step, advance] at stepped
  split at stepped
  · cases stepped
  · rename_i record store inProgress
    rcases exists_of_map_eq_ok (eq_ok_of_mapError_eq_ok stepped) with ⟨ring, written, same⟩
    exact ⟨record, store, ring, inProgress, written, same.symm⟩

/-- A consumer call adds its observation to the trace. -/
theorem consume_cases (stepped : step localtimeR state .consume next) :
    exists drain, state.drain.consume localtimeR = .ok drain ∧
      next = { state with drain := drain, trace := state.trace ++ observed state.drain } := by
  rcases exists_of_map_eq_ok (eq_ok_of_mapError_eq_ok stepped) with ⟨drain, consumed, same⟩
  exact ⟨drain, consumed, same.symm⟩

end Steps

/-- The atomic callback of `Drain` is the callback of this system with its
stores scheduled one after the other. -/
theorem atomic_callback_run {localtimeR : Int -> Tm} {state : Interleaved} (idle : state.producer = none)
    {call : AlarmCallback} {record : AlarmMotionDetect} (accepted : call.record = some record)
    (wrLt : state.drain.ring.dwAlarmMotionDetectWr.toNat < 32) :
    exists drain, state.drain.callback call = .ok drain ∧
      Run (step localtimeR) state (.enter call :: List.replicate 5 .store)
        { drain := drain, producer := none, trace := state.trace ++ [.arrive record] } := by
  rcases Drain.callback_accepted accepted wrLt with ⟨moved, called, value⟩
  rcases hikDevAlarmCallback_accepted accepted wrLt with ⟨moved', stored, value'⟩
  refine ⟨_, called, Run.of_foldlM ?_⟩
  rw [AlarmRing.hikDevAlarmCallback, accepted] at stored
  simp [Store.program, AlarmRing.store, AlarmRing.writeSlot, wrLt, bind, Except.bind, pure,
    Except.pure] at stored
  simp [advance, idle, accepted, List.replicate, AlarmRing.store, AlarmRing.writeSlot, wrLt, bind, Except.bind,
    pure, Except.pure, Except.map, Except.mapError, afterStore, Store.next, Drain.publish, stored]
  exact UInt32.toNat_inj.mp (value'.trans value.symm)

/-! ## The invariant -/

/-- What the stores made so far have left in the ring.  `published` is the
length of the history, so the record in progress goes to slot
`published % 32`. -/
def Stored (ring : AlarmRing) (published : Nat) : Option (AlarmMotionDetect × Store) -> Prop
  | none => ring.dwAlarmMotionDetectWr.toNat = published % 32
  | some (_, .devInfo) => ring.dwAlarmMotionDetectWr.toNat = published % 32
  | some (record, .channel) => ring.dwAlarmMotionDetectWr.toNat = published % 32 ∧
      exists slot, ring.struAlarmMotionDetect[published % 32]? = some slot ∧
        slot.struAlarmDevInfo = record.struAlarmDevInfo
  | some (record, .time) => ring.dwAlarmMotionDetectWr.toNat = published % 32 ∧
      exists slot, ring.struAlarmMotionDetect[published % 32]? = some slot ∧
        slot.struAlarmDevInfo = record.struAlarmDevInfo ∧ slot.byChannel = record.byChannel
  | some (record, .advance) => ring.dwAlarmMotionDetectWr.toNat = published % 32 ∧
      ring.struAlarmMotionDetect[published % 32]? = some record
  | some (_, .wrap) => 0 < published ∧ ring.dwAlarmMotionDetectWr.toNat = (published - 1) % 32 + 1

/-- The invariant of the guarded system. -/
structure Consistent (localtimeR : Int -> Tm) (state : Interleaved) : Prop where
  faithful : state.drain.Faithful localtimeR
  bounded : state.drain.Bounded
  stored : Stored state.drain.ring state.drain.published.length state.producer
  refines : Run FifoOp.step [] state.trace state.drain.waiting

namespace Consistent

variable {localtimeR : Int -> Tm} {state next : Interleaved}

theorem start : Consistent localtimeR Interleaved.start where
  faithful := Drain.Faithful.start
  bounded := Nat.zero_le _
  stored := rfl
  refines := .nil

theorem wr_le (consistent : Consistent localtimeR state) :
    state.drain.ring.dwAlarmMotionDetectWr.toNat ≤ 32 := by
  have stored := consistent.stored
  have bound := Nat.mod_lt state.drain.published.length (show 0 < 32 by decide)
  have bound' := Nat.mod_lt (state.drain.published.length - 1) (show 0 < 32 by decide)
  unfold Stored at stored
  split at stored <;> omega

/-- The count is right in every consistent state but the overtaken one. -/
theorem num_eq_iff (consistent : Consistent localtimeR state) :
    state.drain.ring.hikDevGetAlarmNum.toNat = state.drain.waiting.length ↔ ¬ state.Overtaken := by
  have stored := consistent.stored
  have bounded := consistent.bounded
  have covered := consistent.faithful.covered
  have rdLt := consistent.faithful.rd_lt
  have rdEq := consistent.faithful.rd_eq
  have wrapped : state.Overtaken ↔ state.drain.ring.dwAlarmMotionDetectWr.toNat = 32 ∧
      state.drain.ring.dwAlarmMotionDetectRd.toNat = 0 := by
    rw [Overtaken, ← UInt32.toNat_inj, ← UInt32.toNat_inj]
    rfl
  rw [wrapped, hikDevGetAlarmNum_toNat consistent.wr_le rdLt]
  rw [Drain.waiting_length]
  unfold Drain.Bounded at bounded
  unfold Stored at stored
  split at stored <;> split <;> omega

/-- Writing into the slot of the record in progress is within the array and
disturbs no waiting alarm. -/
theorem writeSlot (consistent : Consistent localtimeR state)
    (wrEq : state.drain.ring.dwAlarmMotionDetectWr.toNat = state.drain.published.length % 32)
    (update : AlarmMotionDetect -> AlarmMotionDetect) :
    exists slots slot,
      state.drain.ring.writeSlot update = .ok { state.drain.ring with struAlarmMotionDetect := slots } ∧
      state.drain.ring.struAlarmMotionDetect[state.drain.published.length % 32]? = some slot ∧
      slots[state.drain.published.length % 32]? = some (update slot) ∧
      Drain.Faithful localtimeR
        { state.drain with ring := { state.drain.ring with struAlarmMotionDetect := slots } } := by
  have wrLt : state.drain.ring.dwAlarmMotionDetectWr.toNat < 32 := by
    rw [wrEq]
    exact Nat.mod_lt _ (by decide)
  have room : state.drain.published.length < state.drain.released + 32 :=
    Nat.lt_succ_of_le consistent.bounded
  have faithful := consistent.faithful
  refine ⟨_, state.drain.ring.struAlarmMotionDetect[state.drain.ring.dwAlarmMotionDetectWr.toNat],
    writeSlot_ok wrLt update, ?_, ?_, faithful.rd_eq, faithful.covered, faithful.inRange,
    faithful.window.set_next room _ wrEq wrLt, faithful.presented_eq, faithful.current⟩
  · rw [← wrEq]
    exact Vector.getElem?_eq_getElem wrLt
  · rw [← wrEq]
    exact Vector.getElem?_set_self wrLt

/-- A store other than the increment keeps the history, the consumer and the
trace, so only the ring has to be looked at. -/
theorem afterQuietStore (consistent : Consistent localtimeR state) {record : AlarmMotionDetect}
    {store : Store} (quiet : store ≠ .advance) {ring : AlarmRing}
    (faithful : Drain.Faithful localtimeR { state.drain with ring := ring })
    (stored : Stored ring state.drain.published.length
      (store.next.map (fun next => (record, next)))) :
    Consistent localtimeR (state.afterStore record store ring) := by
  unfold afterStore
  rw [if_neg quiet, if_neg quiet]
  exact ⟨faithful, consistent.bounded, stored, consistent.refines⟩

/-- Each store is within the array and keeps the invariant; the increment
only while the alarm it publishes is at most the 31st waiting. -/
theorem store (consistent : Consistent localtimeR state) {record : AlarmMotionDetect} {store : Store}
    (inProgress : state.producer = some (record, store)) :
    exists ring, state.drain.ring.store record store = .ok ring ∧
      ((state.afterStore record store ring).drain.Bounded ->
        Consistent localtimeR (state.afterStore record store ring)) := by
  have stored := consistent.stored
  rw [inProgress] at stored
  cases store with
  | devInfo =>
      have wrEq : state.drain.ring.dwAlarmMotionDetectWr.toNat = state.drain.published.length % 32 := stored
      rcases consistent.writeSlot wrEq (fun slot =>
        { slot with struAlarmDevInfo := record.struAlarmDevInfo }) with ⟨slots, slot, written, -, after, faithful⟩
      exact ⟨_, written, fun _ => consistent.afterQuietStore (by decide) faithful
        ⟨wrEq, _, after, rfl⟩⟩
  | channel =>
      rcases stored with ⟨wrEq, old, oldSlot, device⟩
      rcases consistent.writeSlot wrEq (fun slot => { slot with byChannel := record.byChannel }) with
        ⟨slots, slot, written, before, after, faithful⟩
      have sameSlot : old = slot := Option.some.inj (oldSlot.symm.trans before)
      subst sameSlot
      exact ⟨_, written, fun _ => consistent.afterQuietStore (by decide) faithful
        ⟨wrEq, _, after, device, rfl⟩⟩
  | time =>
      rcases stored with ⟨wrEq, old, oldSlot, device, channel⟩
      rcases consistent.writeSlot wrEq (fun slot => { slot with alarmTime := record.alarmTime }) with
        ⟨slots, slot, written, before, after, faithful⟩
      have sameSlot : old = slot := Option.some.inj (oldSlot.symm.trans before)
      subst sameSlot
      have complete : { old with alarmTime := record.alarmTime } = record := by
        rw [device, channel]
      exact ⟨_, written, fun _ => consistent.afterQuietStore (by decide) faithful
        ⟨wrEq, by rw [after, complete]⟩⟩
  | advance =>
      rcases stored with ⟨wrEq, slot⟩
      have wrLt : state.drain.ring.dwAlarmMotionDetectWr.toNat < 32 := by
        rw [wrEq]
        exact Nat.mod_lt _ (by decide)
      have covered := consistent.faithful.covered
      refine ⟨_, rfl, fun bounded => ⟨?_, bounded, ?_, ?_⟩⟩
      · exact consistent.faithful.extend record (consistent.faithful.window.push slot)
      · simp only [afterStore, if_true, Drain.publish, List.length_append, List.length_singleton,
          Store.next, Option.map_some, Stored]
        rw [counter_succ_toNat wrLt (by decide), wrEq]
        exact ⟨Nat.succ_pos _, rfl⟩
      · simp only [afterStore, if_true]
        refine consistent.refines.snoc ?_
        change (state.drain.published ++ [record]).drop state.drain.released = state.drain.waiting ++ [record]
        exact List.drop_append_of_le_length (by omega)
  | wrap =>
      rcases stored with ⟨some_published, wrEq⟩
      rcases store_wrap record consistent.wr_le with ⟨wrapped, written, value⟩
      have faithful := consistent.faithful
      refine ⟨_, written, fun _ => consistent.afterQuietStore (by decide)
        ⟨faithful.rd_eq, faithful.covered, faithful.inRange, faithful.window, faithful.presented_eq,
          faithful.current⟩ ?_⟩
      simp only [Store.next, Option.map_none, Stored]
      omega

/-- What a consumer call observes is what the queue would have shown. -/
theorem observes (consistent : Consistent localtimeR state) {drain : Drain}
    (onTime : state.drain.pass = .head -> ¬ state.Overtaken)
    (consumed : state.drain.consume localtimeR = .ok drain) :
    Run FifoOp.step state.drain.waiting (observed state.drain) drain.waiting := by
  have inRange := consistent.faithful.inRange
  have covered := consistent.faithful.covered
  have reads : forall i : UInt32, i.toNat < state.drain.pass.snapshot ->
      exists slot, state.drain.ring.readSlot i = .ok slot ∧
        state.drain.waiting[i.toNat]? = some slot := by
    intro i below
    rcases consistent.faithful.readSlot consistent.bounded below with ⟨slot, listed, found⟩
    exact ⟨slot, found, (state.drain.waiting_getElem? i.toNat).trans listed⟩
  have once : forall op after, FifoOp.step state.drain.waiting op after ->
      Run FifoOp.step state.drain.waiting [op] after := by
    intro op after stepped
    exact Run.snoc .nil stepped
  unfold observed
  rcases Drain.consume_cases consumed with ⟨here, -, rfl⟩ | ⟨here, -, rfl⟩ |
    ⟨uiAlarmNum, i, slot, here, found, rfl⟩ | ⟨uiAlarmNum, i, read, slot, here, found, rfl⟩ |
    ⟨uiAlarmNum, here, rfl⟩
  · rw [here]
    exact once _ _ ⟨consistent.num_eq_iff.mpr (onTime here), rfl⟩
  · rw [here]
    exact once _ _ ⟨consistent.num_eq_iff.mpr (onTime here), rfl⟩
  · rw [here] at inRange reads ⊢
    rcases reads i inRange with ⟨shown, found', listed⟩
    simp only [found']
    exact once _ _ ⟨listed, rfl⟩
  · rw [here] at inRange reads ⊢
    rcases reads i inRange with ⟨shown, found', listed⟩
    simp only [found']
    exact once _ _ ⟨listed, rfl⟩
  · rw [here] at covered ⊢
    refine once _ _ ⟨?_, ?_⟩
    · simp only [Pass.snapshot] at covered
      rw [Drain.waiting_length]
      omega
    · simp only [Drain.waiting, List.drop_drop]

/-- Each consumer call is within the array and keeps the invariant, unless it
takes the count in the overtaken state. -/
theorem consume (consistent : Consistent localtimeR state)
    (onTime : state.drain.pass = .head -> ¬ state.Overtaken) :
    exists drain, state.drain.consume localtimeR = .ok drain ∧
      (drain.Bounded -> Consistent localtimeR
        { state with drain := drain, trace := state.trace ++ observed state.drain }) := by
  have counts : state.drain.pass = .head -> state.drain.ring.hikDevGetAlarmNum.toNat =
      state.drain.published.length - state.drain.released := by
    intro here
    rw [← Drain.waiting_length]
    exact consistent.num_eq_iff.mpr (onTime here)
  rcases consistent.faithful.consume consistent.bounded counts with ⟨drain, consumed, faithful⟩
  have frame := Drain.consume_frame consumed
  refine ⟨drain, consumed, fun bounded => ⟨faithful, bounded, ?_,
    consistent.refines.append (consistent.observes onTime consumed)⟩⟩
  have stored := consistent.stored
  unfold Stored at stored ⊢
  rw [frame.1, frame.2.2.1, frame.2.2.2]
  exact stored

theorem step {event : Event} (consistent : Consistent localtimeR state)
    (stepped : guardedStep localtimeR state event next) : Consistent localtimeR next := by
  rcases stepped with ⟨stepped, bounded, onTime⟩
  cases event with
  | enter call =>
      rcases enter_cases stepped with ⟨idle, rfl⟩
      have stored := consistent.stored
      rw [idle] at stored
      refine ⟨consistent.faithful, bounded, ?_, consistent.refines⟩
      cases call.record <;> exact stored
  | store =>
      rcases store_cases stepped with ⟨record, pending, ring, inProgress, written, rfl⟩
      rcases consistent.store inProgress with ⟨again, writtenAgain, keeps⟩
      cases written.symm.trans writtenAgain
      exact keeps bounded
  | consume =>
      rcases consume_cases stepped with ⟨drain, consumed, rfl⟩
      rcases consistent.consume (onTime rfl) with ⟨again, consumedAgain, keeps⟩
      cases consumed.symm.trans consumedAgain
      exact keeps bounded

theorem of_run {events : List Event}
    (run : Run (guardedStep localtimeR) Interleaved.start events state) : Consistent localtimeR state :=
  run.invariant (Consistent localtimeR) Consistent.start (fun _ _ _ held stepped => held.step stepped)

end Consistent

/-! ## The history -/

/-- The record of a callback that has not reached its increment. -/
def unpublished : Option (AlarmMotionDetect × Store) -> List AlarmMotionDetect
  | none => []
  | some (_, .wrap) => []
  | some (record, _) => [record]

/-- The history in the state is the history of the run. -/
structure Recorded (events : List Event) (state : Interleaved) : Prop where
  entered : state.drain.published ++ unpublished state.producer = events.filterMap Event.record
  arrived : FifoOp.arrived state.trace = state.drain.published
  taken : FifoOp.taken state.trace = state.drain.released

/-- A consumer call observes no arrival, and takes out what it releases. -/
theorem observed_effect {localtimeR : Int -> Tm} {before after : Drain}
    (consumed : before.consume localtimeR = .ok after) :
    FifoOp.arrived (observed before) = [] ∧
      before.released + FifoOp.taken (observed before) = after.released := by
  unfold observed
  rcases Drain.consume_cases consumed with ⟨here, -, rfl⟩ | ⟨here, -, rfl⟩ |
    ⟨_, _, slot, here, found, rfl⟩ | ⟨_, _, _, slot, here, found, rfl⟩ | ⟨_, here, rfl⟩ <;>
    simp [FifoOp.arrived, FifoOp.taken, Except.toOption, *]

namespace Recorded

variable {localtimeR : Int -> Tm} {state next : Interleaved} {events : List Event}

theorem enter {call : AlarmCallback} (recorded : Recorded events state)
    (stepped : step localtimeR state (.enter call) next) :
    Recorded (events ++ [.enter call]) next := by
  rcases enter_cases stepped with ⟨idle, rfl⟩
  refine ⟨?_, recorded.arrived, recorded.taken⟩
  have entered := recorded.entered
  rw [idle] at entered
  simp only [unpublished, List.append_nil] at entered
  simp only [List.filterMap_append, ← entered]
  cases accepted : call.record <;> simp [Event.record, accepted, unpublished]

theorem store (recorded : Recorded events state) (stepped : step localtimeR state .store next) :
    Recorded (events ++ [.store]) next := by
  rcases store_cases stepped with ⟨record, pending, ring, inProgress, -, rfl⟩
  have entered := recorded.entered
  have arrived := recorded.arrived
  have taken := recorded.taken
  rw [inProgress] at entered
  cases pending <;>
    constructor <;>
    simp_all [afterStore, Drain.publish, Store.next, unpublished, Event.record, FifoOp.arrived,
      FifoOp.taken, List.filterMap_append]

theorem consume (recorded : Recorded events state) (stepped : step localtimeR state .consume next) :
    Recorded (events ++ [.consume]) next := by
  rcases consume_cases stepped with ⟨drain, consumed, rfl⟩
  have published := (Drain.consume_frame consumed).1
  rcases observed_effect consumed with ⟨nothing, moved⟩
  refine ⟨?_, ?_, ?_⟩
  · simp only [List.filterMap_append, published, recorded.entered]
    simp [Event.record]
  · rw [FifoOp.arrived_append, recorded.arrived, nothing, List.append_nil, published]
  · rw [FifoOp.taken_append, recorded.taken, moved]

theorem of_run (run : Run (step localtimeR) start events state) : Recorded events state :=
  run.invariant_history Recorded ⟨rfl, rfl, rfl⟩ (by
    intro events before event after held stepped
    cases event with
    | enter call => exact held.enter stepped
    | store => exact held.store stepped
    | consume => exact held.consume stepped)

end Recorded

/-! ## Refinement -/

/-- The record carries the device and the lowest flagged channel of the call. -/
def Carries (call : AlarmCallback) (record : AlarmMotionDetect) : Prop :=
  record.struAlarmDevInfo = call.pAlarmer ∧ record.alarmTime = call.now ∧
    exists i : Fin 64, call.alarmInfo.byChannel.get i ≠ 0 ∧
      (forall j : Fin 64, j < i -> call.alarmInfo.byChannel.get j = 0) ∧
      record.byChannel.toNat = i.val + 1

/-- The ring behaves as a first-in first-out queue, after the events of a run
and in the state they lead to. -/
structure ActsAsFifo (localtimeR : Int -> Tm) (events : List Event) (state : Interleaved) : Prop where
  /-- Every count, reading and release so far is one the queue would show. -/
  observations : Run FifoOp.step [] state.trace state.drain.waiting
  /-- A count taken now is the number of waiting alarms, outside the one
  moment in which the write index has not wrapped yet. -/
  count : state.drain.ring.hikDevGetAlarmNum.toNat = state.drain.waiting.length ↔ ¬ state.Overtaken
  /-- The readings at the indices of the pass are those of the waiting alarms. -/
  readings : forall i : UInt32, i.toNat < state.drain.pass.snapshot ->
    exists record, state.drain.waiting[i.toNat]? = some record ∧
      state.drain.ring.hikDevGetAlarmDateTime localtimeR i = .ok (record.dateTime localtimeR) ∧
      state.drain.ring.hikDevGetAlarmIp i [] = .ok record.ip
  /-- The alarms were published in the order in which the accepted callbacks
  were entered; at most the last one is still on its way. -/
  arrivals : state.drain.published ++ unpublished state.producer = events.filterMap Event.record
  /-- Each published record comes from an accepted callback. -/
  sources : forall record, record ∈ state.drain.published ->
    exists call, Event.enter call ∈ events ∧ call.Accepted ∧ Carries call record
  /-- Releases take the oldest alarms, none skipped and none twice. -/
  releases : FifoOp.arrived state.trace = state.drain.published ∧
    FifoOp.taken state.trace = state.drain.released ∧
    state.drain.released ≤ state.drain.published.length ∧
    state.drain.waiting = state.drain.published.drop state.drain.released
  /-- What has been released had been shown to the consumer before, and the
  consumer is shown each alarm once, in order. -/
  shown : state.drain.released ≤ state.drain.presented.length ∧
    state.drain.presented =
      (state.drain.published.take state.drain.presented.length).map (Drain.shown localtimeR)
  /-- A callback that is not accepted changes nothing. -/
  rejects : forall call next, ¬ call.Accepted -> step localtimeR state (.enter call) next -> next = state
  /-- No store and no consumer call leaves the array. -/
  inArray : (forall record store, state.producer = some (record, store) ->
      exists ring, state.drain.ring.store record store = .ok ring) ∧
    exists drain, state.drain.consume localtimeR = .ok drain

theorem source_of_entered {events : List Event} {record : AlarmMotionDetect}
    (member : record ∈ events.filterMap Event.record) :
    exists call, Event.enter call ∈ events ∧ call.Accepted ∧ Carries call record := by
  rcases List.mem_filterMap.mp member with ⟨event, scheduled, taken⟩
  cases event with
  | enter call => exact ⟨call, scheduled, call.accepted_iff.mpr ⟨record, taken⟩, AlarmCallback.record_spec taken⟩
  | store => cases taken
  | consume => cases taken

/-- While at most 31 alarms wait and no count falls between the increment and
the wrap of an index that the consumer has overtaken, the ring refines a
first-in first-out queue in every state of every run. -/
theorem ring_refines_fifo (localtimeR : Int -> Tm) {events : List Event} {state : Interleaved}
    (run : Run (guardedStep localtimeR) start events state) : ActsAsFifo localtimeR events state := by
  have consistent := Consistent.of_run run
  have recorded := Recorded.of_run (run.weaken (fun _ _ _ stepped => stepped.1))
  have presented := consistent.faithful.presented_eq
  have presentedLength : state.drain.presented.length =
      state.drain.released + state.drain.pass.finished := by
    rw [presented, List.length_map, List.length_take, Nat.min_eq_left consistent.faithful.finished_le]
  exact {
    observations := consistent.refines
    count := consistent.num_eq_iff
    readings := by
      intro i below
      rcases consistent.faithful.readSlot consistent.bounded below with ⟨record, listed, found⟩
      exact ⟨record, (state.drain.waiting_getElem? i.toNat).trans listed,
        hikDevGetAlarmDateTime_ok localtimeR found, hikDevGetAlarmIp_ok found⟩
    arrivals := recorded.entered
    sources := by
      intro record member
      apply source_of_entered
      rw [← recorded.entered]
      exact List.mem_append_left _ member
    releases := by
      have conserved := FifoOp.conservation consistent.refines
      rw [recorded.arrived, recorded.taken] at conserved
      exact ⟨recorded.arrived, recorded.taken, conserved.1, conserved.2⟩
    shown := by
      refine ⟨by omega, ?_⟩
      rw [presentedLength]
      exact presented
    rejects := by
      intro call next rejected stepped
      have none_written : call.record = none := by
        cases accepted : call.record with
        | none => rfl
        | some record => exact absurd (call.accepted_iff.mpr ⟨record, accepted⟩) rejected
      rcases enter_cases stepped with ⟨idle, rfl⟩
      rw [none_written, Option.map_none, ← idle]
    inArray := by
      refine ⟨?_, ?_⟩
      · intro record store inProgress
        rcases consistent.store inProgress with ⟨ring, written, -⟩
        exact ⟨ring, written⟩
      · by_cases here : state.drain.pass = .head
        · exact ⟨_, by rw [Drain.consume, here]⟩
        · rcases consistent.consume (fun head => absurd head here) with ⟨drain, consumed, -⟩
          exact ⟨drain, consumed⟩ }

/-- A callback entered and run to its end. -/
def wholeCall : List Event := .enter Drain.motionCall :: List.replicate 5 .store

/-- Thirty alarms and a pass over them.  A second pass counts the next two while
the callback of the later one stands between its increment and its wrap.  A third
pass counts a single alarm and is cut between its readings. -/
def cutAtTheEnd : List Event :=
  (List.replicate 30 wholeCall).flatten ++ List.replicate 62 .consume ++
    wholeCall ++ (.enter Drain.motionCall :: List.replicate 4 .store) ++ List.replicate 3 .consume ++
    .store :: List.replicate 3 .consume ++
    wholeCall ++ List.replicate 2 .consume

/-- The last pass reads the one alarm that waits. -/
theorem cutAtTheEnd_fifo :
    exists state, Run (guardedStep firstDayUtc) start cutAtTheEnd state ∧
      ActsAsFifo firstDayUtc cutAtTheEnd state ∧ state.drain.pass.snapshot = 1 ∧
      state.drain.waiting.length = 1 ∧ state.drain.released = 32 := by
  have viewed : (cutAtTheEnd.foldlM (checked (advance firstDayUtc) .notScheduled (fun before _ after =>
        decide after.drain.Bounded && !(before.drain.ring.dwAlarmMotionDetectWr == 32 &&
          before.drain.ring.dwAlarmMotionDetectRd == 0))) start).map
      (fun state => (state.drain.pass.snapshot, state.drain.waiting.length, state.drain.released)) =
      .ok (1, 1, 32) := by
    decide +kernel
  rcases exists_of_map_eq_ok viewed with ⟨state, executed, parts⟩
  simp only [Prod.mk.injEq] at parts
  have run : Run (guardedStep firstDayUtc) start cutAtTheEnd state := by
    refine (Run.of_checked executed).weaken ?_
    intro before event after stepped
    rcases stepped with ⟨stepped, passed⟩
    simp only [Bool.and_eq_true, decide_eq_true_eq, Bool.not_eq_true', Bool.and_eq_false_iff] at passed
    refine ⟨stepped, passed.1, ?_⟩
    intro _ _ overtaken
    rcases passed.2 with wr | rd
    · exact absurd overtaken.1 (beq_eq_false_iff_ne.mp wr)
    · exact absurd overtaken.2 (beq_eq_false_iff_ne.mp rd)
  exact ⟨state, run, ring_refines_fifo firstDayUtc run, parts⟩

/-- Thirty-one alarms are handled.  The callback of the thirty-second stops
after its increment, while `main` handles that alarm as well. -/
def overtaking : List Event :=
  (List.replicate 31 wholeCall).flatten ++ List.replicate 64 .consume ++
    (.enter Drain.motionCall :: List.replicate 4 .store) ++ List.replicate 4 .consume

/-- Nothing waits and the count is 32. -/
theorem overtaken_count :
    exists state, Run (Guarded (step firstDayUtc) (fun _ _ after => after.drain.Bounded)) start
        overtaking state ∧
      state.drain.waiting = [] ∧ state.drain.ring.hikDevGetAlarmNum = 32 := by
  have viewed : (overtaking.foldlM
      (checked (advance firstDayUtc) .notScheduled (fun _ _ after => decide after.drain.Bounded)) start).map
      (fun state => (state.drain.waiting, state.drain.ring.hikDevGetAlarmNum)) = .ok ([], 32) := by
    decide +kernel
  rcases exists_of_map_eq_ok viewed with ⟨state, executed, parts⟩
  simp only [Prod.mk.injEq] at parts
  refine ⟨state, (Run.of_checked executed).weaken ?_, parts⟩
  intro before event after stepped
  exact ⟨stepped.1, of_decide_eq_true stepped.2⟩

end Interleaved

end HikDev
end MotionDetectAlarm
