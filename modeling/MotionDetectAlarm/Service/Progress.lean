import MotionDetectAlarm.Foundation.Progress
import MotionDetectAlarm.Service.Notification

namespace MotionDetectAlarm
namespace Service

open Foundation HikDev DataBase SerialPort

/-!
# The loop comes round

A pass takes its number once, so callbacks cannot make it longer, and the phone
loop goes through a list that nothing changes.  The work of a pass is therefore
known when it starts: it is bounded by the number of alarms taken and the number
of entries in the longest list of numbers.

Two bounds follow.  After the termination signal `main` finishes the pass that
it is in and returns 0, whatever the callbacks and the driver do meanwhile.  And
with at most 31 alarms waiting an alarm is announced and released before the
second pass from its arrival on has ended.
-/

namespace MainLoop

/-! ## Work -/

/-- The steps that one alarm takes at most, with its two readings. -/
def alarmWork (entries : Nat) : Nat :=
  2 * entries + 4

/-- The ring calls of a pass, with the work of the alarms that it still reads. -/
def passWork (entries : Nat) : HikDev.Pass -> Nat
  | .head => 0
  | .dateTime uiAlarmNum i => (uiAlarmNum.toNat - i.toNat) * alarmWork entries + 1
  | .ip uiAlarmNum i _ => (uiAlarmNum.toNat - i.toNat) * alarmWork entries
  | .release _ => 1

/-- The steps that the alarm at hand still takes. -/
def taskWork (entries : Nat) : Task -> Nat
  | .ring => 0
  | .lookup _ _ => 2 * entries + 2
  | .phones job j => 2 * (job.vstrPhone.length - j.toNat) + 1
  | .flush job j => 2 * (job.vstrPhone.length - j.toNat)
  | .exited _ => 0

/-- The steps of `main` to the head of its loop. -/
def work (entries : Nat) (main : MainLoop) : Nat :=
  passWork entries main.drain.pass + taskWork entries main.task

/-- The work of the longest pass. -/
def passBound (entries : Nat) : Nat :=
  31 * alarmWork entries + 1

/-- The steps of `main`. -/
def Event.ofMain : Event -> Bool
  | .main _ => true
  | _ => false

/-! ## Steps -/

section Steps

variable {localtimeR : Int -> Tm} {main after : MainLoop}

/-- At the head `main` tests `ServiceRun`; elsewhere in a pass it makes a ring
call. -/
theorem next_ring {outcome : WriteOutcome} (here : main.task = .ring) (moved : main.next localtimeR outcome = .ok after) :
    (main.drain.pass = .head ∧ main.serviceRun = false ∧ after = { main with task := .exited 0 }) ∨
      (¬ (main.drain.pass = .head ∧ main.serviceRun = false) ∧ main.ringCall localtimeR = .ok after) := by
  rw [next, here] at moved
  by_cases stopped : main.drain.pass = .head ∧ main.serviceRun = false
  · rw [if_pos stopped] at moved
    exact Or.inl ⟨stopped.1, stopped.2, (Except.ok.inj moved).symm⟩
  · rw [if_neg stopped] at moved
    exact Or.inr ⟨stopped, moved⟩

/-- The steps of the environment leave the position of `main` alone. -/
theorem step_other {event : Event} (stepped : step localtimeR main event after) (other : event.ofMain = false) :
    after.drain.pass = main.drain.pass ∧ after.drain.released = main.drain.released ∧ after.task = main.task := by
  cases event with
  | callback call =>
      rcases exists_of_map_eq_ok stepped with ⟨drain, called, rfl⟩
      have frame := Drain.callback_frame called
      exact ⟨frame.2.2.1, frame.2.1, rfl⟩
  | main outcome => cases other
  | transmit number =>
      cases stepped
      exact ⟨rfl, rfl, rfl⟩
  | sigterm =>
      cases stepped
      exact ⟨rfl, rfl, rfl⟩

/-- Once `ServiceRun` is cleared it stays cleared, and only the signal clears it. -/
theorem step_serviceRun {event : Event} (stepped : step localtimeR main event after) :
    after.serviceRun = main.serviceRun ∨ event = .sigterm ∧ after.serviceRun = false := by
  cases event with
  | callback call =>
      rcases exists_of_map_eq_ok stepped with ⟨drain, -, rfl⟩
      exact Or.inl rfl
  | main outcome =>
      rcases next_cases stepped with ⟨-, rfl⟩ | ⟨-, called⟩ | ⟨_, _, -, looked⟩ | ⟨job, j, -, rounded⟩ |
        ⟨_, _, -, rfl⟩ | ⟨_, -, rfl⟩
      · exact Or.inl rfl
      · rcases ringCall_cases called with ⟨drain, -, ⟨-, rfl⟩ | ⟨_, _, -, rfl⟩⟩
        · exact Or.inl rfl
        · exact Or.inl rfl
      · rcases lookup_cases looked with ⟨_, _, rfl, -⟩
        exact Or.inl rfl
      · rcases phoneRound_cases rounded with ⟨-, rfl⟩ | ⟨_, _, -, -, ⟨_, _, -, rfl⟩ | ⟨_, -, rfl⟩⟩
        · exact Or.inl rfl
        · exact Or.inl rfl
        · exact Or.inl rfl
      · exact Or.inl rfl
      · exact Or.inl rfl
  | transmit number =>
      cases stepped
      exact Or.inl rfl
  | sigterm =>
      cases stepped
      exact Or.inr ⟨rfl, rfl⟩

/-- A ring call inside a pass takes one step off, and the one that reads an
address takes the work of an alarm. -/
theorem consume_work {drain next : Drain} (entries : Nat) (inRange : drain.pass.InRange) (busy : drain.pass ≠ .head)
    (consumed : drain.consume localtimeR = .ok next) :
    (next.presented = drain.presented ∧ passWork entries next.pass + 1 ≤ passWork entries drain.pass) ∨
      (next.presented ≠ drain.presented ∧
        passWork entries next.pass + alarmWork entries ≤ passWork entries drain.pass + 1) := by
  rcases Drain.consume_cases consumed with ⟨here, -, -⟩ | ⟨here, -, -⟩ | ⟨uiAlarmNum, i, slot, here, -, rfl⟩ |
    ⟨uiAlarmNum, i, read, slot, here, -, rfl⟩ | ⟨uiAlarmNum, here, rfl⟩
  · exact absurd here busy
  · exact absurd here busy
  · rw [here]
    exact Or.inl ⟨rfl, Nat.le_refl _⟩
  · rw [here] at inRange ⊢
    refine Or.inr ⟨fun same => absurd (congrArg List.length same) (by simp), ?_⟩
    have below : i.toNat < uiAlarmNum.toNat := inRange
    have moved : (i + 1).toNat = i.toNat + 1 := counter_succ_toNat below uiAlarmNum.toNat_lt
    have first : (uiAlarmNum.toNat - i.toNat) * alarmWork entries =
        (uiAlarmNum.toNat - (i.toNat + 1)) * alarmWork entries + alarmWork entries := by
      rw [← Nat.succ_mul]
      congr 1
      omega
    by_cases more : i + 1 < uiAlarmNum
    · simp only [if_pos more, passWork, moved, first]
      omega
    · simp only [if_neg more, passWork, first]
      omega
  · rw [here]
    exact Or.inl ⟨rfl, Nat.le_refl _⟩

/-- A step of `main` inside a pass does not change how far the pass will get. -/
theorem next_released {outcome : WriteOutcome} (inRange : main.drain.pass.InRange)
    (busy : main.drain.pass ≠ .head ∨ main.task ≠ .ring) (moved : main.next localtimeR outcome = .ok after) :
    after.drain.released + after.drain.pass.snapshot = main.drain.released + main.drain.pass.snapshot := by
  by_cases here : main.task = .ring
  · have inside : main.drain.pass ≠ .head := busy.resolve_right (fun elsewhere => elsewhere here)
    rcases next_ring here moved with ⟨head, -, -⟩ | ⟨-, called⟩
    · exact absurd head inside
    · rcases ringCall_cases called with ⟨drain, consumed, other⟩
      have same : after.drain = drain := by
        rcases other with ⟨-, rfl⟩ | ⟨_, _, -, rfl⟩ <;> rfl
      rw [same]
      rcases Drain.consume_cases consumed with ⟨head, -, -⟩ | ⟨head, -, -⟩ | ⟨_, _, _, reading, -, rfl⟩ |
        ⟨uiAlarmNum, i, _, _, reading, -, rfl⟩ | ⟨_, releasing, rfl⟩
      · exact absurd head inside
      · exact absurd head inside
      · rw [reading]
        rfl
      · rw [reading] at inRange ⊢
        exact congrArg (main.drain.released + ·) (Drain.advance_spec inRange).1
      · rw [releasing]
        rfl
  · rcases next_cases moved with ⟨ring, -⟩ | ⟨ring, -⟩ | ⟨_, _, -, looked⟩ | ⟨_, _, -, rounded⟩ | ⟨_, _, -, rfl⟩ |
      ⟨_, -, rfl⟩
    · exact absurd ring here
    · exact absurd ring here
    · rcases lookup_cases looked with ⟨_, _, rfl, -⟩
      rfl
    · rcases phoneRound_cases rounded with ⟨-, rfl⟩ | ⟨_, _, -, -, ⟨_, _, -, rfl⟩ | ⟨_, -, rfl⟩⟩ <;> rfl
    · rfl
    · rfl

/-- The calls made only grow. -/
theorem step_calls {event : Event} (stepped : step localtimeR main event after) : main.calls <+: after.calls := by
  cases event with
  | callback call =>
      rcases exists_of_map_eq_ok stepped with ⟨drain, -, rfl⟩
      exact List.prefix_refl _
  | main outcome =>
      rcases next_cases stepped with ⟨-, rfl⟩ | ⟨-, called⟩ | ⟨_, _, -, looked⟩ | ⟨job, j, -, rounded⟩ |
        ⟨_, _, -, rfl⟩ | ⟨_, -, rfl⟩
      · exact List.prefix_refl _
      · rcases ringCall_cases called with ⟨drain, -, ⟨-, rfl⟩ | ⟨_, _, -, rfl⟩⟩ <;> exact List.prefix_refl _
      · rcases lookup_cases looked with ⟨_, _, rfl, -⟩
        exact List.prefix_refl _
      · rcases phoneRound_cases rounded with ⟨-, rfl⟩ | ⟨_, _, -, -, ⟨_, _, -, rfl⟩ | ⟨_, -, rfl⟩⟩
        · exact List.prefix_refl _
        · exact List.prefix_append _ _
        · exact List.prefix_append _ _
      · exact List.prefix_refl _
      · exact List.prefix_refl _
  | transmit number =>
      cases stepped
      exact List.prefix_refl _
  | sigterm =>
      cases stepped
      exact List.prefix_refl _

end Steps

/-! ## What the bounds rest on -/

/-- The calls are those of the readings, the ring counts, and a program that has
returned did so at the head of its loop with `ServiceRun` cleared. -/
structure Ready (rows : List CameraRow) (main : MainLoop) : Prop where
  announced : Announced rows main
  counted : Drain.Counted main.drain
  returned : forall code, main.task = .exited code -> main.drain.pass = .head ∧ main.serviceRun = false

section Ready

variable {localtimeR : Int -> Tm} {rows : List CameraRow} {entries : Nat} {main after : MainLoop} {event : Event}

theorem Ready.start {dataBase : DataBaseOperate} (held : dataBase.Holds rows) (isnormal : Int32) :
    Ready rows (MainLoop.start dataBase isnormal) where
  announced := Announced.start held isnormal
  counted := Drain.Counted.start
  returned := fun _ same => nomatch same

theorem Ready.step (ready : Ready rows main) (stepped : MainLoop.step localtimeR main event after) : Ready rows after := by
  refine ⟨ready.announced.step stepped, ?_, ?_⟩
  · rcases step_drain stepped with same | ⟨drainEvent, moved⟩
    · exact same ▸ ready.counted
    · exact ready.counted.step moved
  · intro code ended
    cases other : event.ofMain with
    | false =>
        rcases step_other stepped other with ⟨pass, -, task⟩
        rcases ready.returned code (task.symm.trans ended) with ⟨head, cleared⟩
        refine ⟨pass.trans head, ?_⟩
        rcases step_serviceRun stepped with same | ⟨-, now⟩
        · exact same.trans cleared
        · exact now
    | true =>
        cases event with
        | callback call => cases other
        | transmit number => cases other
        | sigterm => cases other
        | main outcome =>
            by_cases here : main.task = .ring
            · rcases next_ring here stepped with ⟨head, cleared, rfl⟩ | ⟨-, called⟩
              · exact ⟨head, cleared⟩
              · rcases ringCall_cases called with ⟨drain, -, ⟨-, rfl⟩ | ⟨_, strAlarmIp, -, rfl⟩⟩
                · cases here.symm.trans ended
                · cases strAlarmIp with
                  | nil => cases ended
                  | cons byte rest => cases ended
            · rcases next_cases stepped with ⟨ring, -⟩ | ⟨ring, -⟩ | ⟨_, _, -, looked⟩ | ⟨_, _, -, rounded⟩ |
                ⟨_, _, -, rfl⟩ | ⟨_, -, rfl⟩
              · exact absurd ring here
              · exact absurd ring here
              · rcases lookup_held ready.announced.held looked with ⟨-, rfl⟩ | ⟨_, _, -, -, rfl⟩ <;> cases ended
              · rcases phoneRound_cases rounded with ⟨-, rfl⟩ | ⟨_, _, -, -, ⟨_, _, -, rfl⟩ | ⟨_, -, rfl⟩⟩ <;> cases ended
              · cases ended
              · exact ready.returned code ended

/-- No list of numbers in the table has more entries than this. -/
def Numbered (entries : Nat) (rows : List CameraRow) : Prop :=
  forall row, row ∈ rows -> ((row .phonenums).splitOn 0x2C).length ≤ entries

instance (entries : Nat) (rows : List CameraRow) : Decidable (Numbered entries rows) :=
  inferInstanceAs (Decidable (forall row, row ∈ rows -> _))

/-- Without work `main` is at the head of its loop, or has returned there. -/
theorem Ready.at_head (ready : Ready rows main) (done : main.work entries = 0) :
    main.drain.pass = .head ∧ (main.task = .ring ∨ exists code, main.task = .exited code) := by
  have inRange := ready.counted.inRange
  have progress := ready.announced.progress
  have alarm : 0 < alarmWork entries := Nat.succ_pos _
  rcases Nat.add_eq_zero_iff.mp done with ⟨pass, task⟩
  constructor
  · cases here : main.drain.pass with
    | head => rfl
    | dateTime uiAlarmNum i =>
        rw [here] at pass
        cases pass
    | ip uiAlarmNum i read =>
        rw [here] at pass inRange
        have below : i.toNat < uiAlarmNum.toNat := inRange
        rcases Nat.mul_eq_zero.mp pass with none_left | no_work
        · omega
        · omega
    | release uiAlarmNum =>
        rw [here] at pass
        cases pass
  · cases here : main.task with
    | ring => exact Or.inl rfl
    | lookup strDataTime strAlarmIp =>
        rw [here] at task
        cases task
    | phones job j =>
        rw [here] at task
        cases task
    | flush job j =>
        rw [here] at task progress
        rcases progress with ⟨_, _, -, -, inList, -⟩
        have some_left : 2 * (job.vstrPhone.length - j.toNat) = 0 := task
        omega
    | exited code => exact Or.inr ⟨code, rfl⟩

/-- A step of `main` takes some of the work. -/
theorem Ready.next_work (ready : Ready rows main) (numbered : Numbered entries rows) (countable : entries < 2 ^ 32)
    {outcome : WriteOutcome} (moved : main.next localtimeR outcome = .ok after) (some_work : 0 < main.work entries) :
    after.work entries < main.work entries := by
  have sourced := ready.announced.sourced
  have progress := ready.announced.progress
  by_cases here : main.task = .ring
  · have busy : main.drain.pass ≠ .head := by
      intro head
      rw [work, head, here] at some_work
      exact absurd some_work (Nat.lt_irrefl 0)
    rcases next_ring here moved with ⟨head, -, -⟩ | ⟨-, called⟩
    · exact absurd head busy
    · rcases ringCall_cases called with ⟨drain, consumed, other⟩
      have part := consume_work entries ready.counted.inRange busy consumed
      rw [work, work, here]
      rcases other with ⟨same, rfl⟩ | ⟨read, strAlarmIp, entered, rfl⟩
      · rcases part with ⟨-, less⟩ | ⟨changed, -⟩
        · change passWork entries drain.pass + taskWork entries main.task < _ + 0
          rw [here]
          exact less
        · exact absurd same changed
      · rcases part with ⟨same, -⟩ | ⟨-, less⟩
        · rw [same] at entered
          exact absurd (congrArg List.length entered) (by simp)
        · have alarm : alarmWork entries = 2 * entries + 4 := rfl
          have task : taskWork entries (if strAlarmIp.isEmpty then .ring else .lookup (dataTimeText read) strAlarmIp) ≤
              2 * entries + 2 := by
            split
            · exact Nat.zero_le _
            · exact Nat.le_refl _
          change passWork entries drain.pass + taskWork entries (if strAlarmIp.isEmpty then _ else _) < _ + 0
          omega
  · rcases next_cases moved with ⟨ring, -⟩ | ⟨ring, -⟩ | ⟨_, _, looking, looked⟩ | ⟨job, j, calling, rounded⟩ |
      ⟨job, j, flushing, rfl⟩ | ⟨code, ended, rfl⟩
    · exact absurd ring here
    · exact absurd ring here
    · rw [work, work, looking]
      rcases lookup_held ready.announced.held looked with ⟨-, rfl⟩ | ⟨first, last, -, at_end, rfl⟩
      · exact Nat.add_lt_add_left (Nat.succ_pos _) _
      · have source : last ∈ rows := List.mem_of_mem_filter (List.mem_of_getLast? at_end)
        have listed := numbered last source
        refine Nat.add_lt_add_left ?_ _
        change 2 * (((last .phonenums).splitOn 0x2C).length - 0) + 1 < 2 * entries + 2
        omega
    · rw [calling] at sourced
      rcases sourced with ⟨row, source, numbers⟩
      have listed := numbered row source
      rw [← numbers] at listed
      rw [work, work, calling]
      rcases phoneRound_cases rounded with ⟨-, rfl⟩ | ⟨strPhoneNum, buf, found, -, written⟩
      · exact Nat.add_lt_add_left (Nat.succ_pos _) _
      · have inList := (List.getElem?_eq_some_iff.mp found).1
        have moved_on : (j + 1).toNat = j.toNat + 1 := counter_succ_toNat inList (by omega)
        rcases written with ⟨port, code, -, rfl⟩ | ⟨port, -, rfl⟩
        · refine Nat.add_lt_add_left ?_ _
          change 2 * (job.vstrPhone.length - (j + 1).toNat) + 1 < 2 * (job.vstrPhone.length - j.toNat) + 1
          omega
        · exact Nat.add_lt_add_left (Nat.lt_succ_self _) _
    · rw [flushing] at progress sourced
      rcases progress with ⟨_, _, -, -, inList, -⟩
      rcases sourced with ⟨row, source, numbers⟩
      have listed := numbered row source
      rw [← numbers] at listed
      have moved_on : (j + 1).toNat = j.toNat + 1 := counter_succ_toNat inList (by omega)
      rw [work, work, flushing]
      refine Nat.add_lt_add_left ?_ _
      change 2 * (job.vstrPhone.length - (j + 1).toNat) + 1 < 2 * (job.vstrPhone.length - j.toNat)
      omega
    · have head := (ready.returned code ended).1
      rw [work, head, ended] at some_work
      exact absurd some_work (Nat.lt_irrefl 0)

/-- No pass is longer than the longest one. -/
theorem Ready.work_le (ready : Ready rows main) (numbered : Numbered entries rows) :
    main.work entries ≤ passBound entries + 2 * entries + 2 := by
  have small := ready.counted.small
  have sourced := ready.announced.sourced
  have pass : passWork entries main.drain.pass ≤ passBound entries := by
    cases here : main.drain.pass with
    | head => exact Nat.zero_le _
    | dateTime uiAlarmNum i =>
        rw [here] at small
        have few : uiAlarmNum.toNat - i.toNat ≤ 31 := by
          change uiAlarmNum.toNat < 32 at small
          omega
        exact Nat.succ_le_succ (Nat.mul_le_mul_right _ few)
    | ip uiAlarmNum i read =>
        rw [here] at small
        have few : uiAlarmNum.toNat - i.toNat ≤ 31 := by
          change uiAlarmNum.toNat < 32 at small
          omega
        exact Nat.le_succ_of_le (Nat.mul_le_mul_right _ few)
    | release uiAlarmNum => exact Nat.succ_le_succ (Nat.zero_le _)
  have task : taskWork entries main.task ≤ 2 * entries + 2 := by
    cases here : main.task with
    | ring => exact Nat.zero_le _
    | lookup strDataTime strAlarmIp => exact Nat.le_refl _
    | phones job j =>
        rw [here] at sourced
        rcases sourced with ⟨row, source, numbers⟩
        have listed := numbered row source
        rw [← numbers] at listed
        change 2 * (job.vstrPhone.length - j.toNat) + 1 ≤ _
        omega
    | flush job j =>
        rw [here] at sourced
        rcases sourced with ⟨row, source, numbers⟩
        have listed := numbered row source
        rw [← numbers] at listed
        change 2 * (job.vstrPhone.length - j.toNat) ≤ _
        omega
    | exited code => exact Nat.zero_le _
  rw [work]
  omega

end Ready

/-! ## The termination signal -/

section Signal

variable {localtimeR : Int -> Tm} {rows : List CameraRow} {entries : Nat}

/-- The steps to the return, with the one that tests `ServiceRun`. -/
def stopWork (entries : Nat) (main : MainLoop) : Nat :=
  if main.task = .exited 0 then 0 else main.work entries + 1

/-- With `ServiceRun` cleared every step of `main` leads to its return. -/
theorem countdown_stop (numbered : Numbered entries rows) (countable : entries < 2 ^ 32) :
    Countdown (step localtimeR) (fun main => Ready rows main ∧ main.serviceRun = false) Event.ofMain
      (stopWork entries) where
  keeps := by
    rintro before label after ⟨ready, cleared⟩ stepped
    refine ⟨ready.step stepped, ?_⟩
    rcases step_serviceRun stepped with same | ⟨-, now⟩
    · exact same.trans cleared
    · exact now
  lowers := by
    rintro before label after ⟨ready, cleared⟩ stepped ofMain some_work
    have running : before.task ≠ .exited 0 := by
      intro ended
      rw [stopWork, if_pos ended] at some_work
      exact Nat.lt_irrefl 0 some_work
    have most : stopWork entries after ≤ after.work entries + 1 := by
      rw [stopWork]
      split
      · exact Nat.zero_le _
      · exact Nat.le_refl _
    have now : stopWork entries before = before.work entries + 1 := if_neg running
    rw [now]
    cases label with
    | callback call => cases ofMain
    | transmit number => cases ofMain
    | sigterm => cases ofMain
    | main outcome =>
        rcases Nat.eq_zero_or_pos (before.work entries) with done | left
        · rcases ready.at_head done with ⟨head, here | ⟨code, ended⟩⟩
          · rcases next_ring here stepped with ⟨-, -, rfl⟩ | ⟨other, -⟩
            · rw [stopWork, if_pos rfl]
              exact Nat.succ_pos _
            · exact absurd ⟨head, cleared⟩ other
          · have progress := ready.announced.progress
            rw [ended] at progress
            rw [progress.1] at ended
            exact absurd ended running
        · have less := ready.next_work numbered countable stepped left
          omega
  bounds := by
    rintro before label after - stepped other
    rcases step_other stepped other with ⟨pass, -, task⟩
    rw [stopWork, stopWork, work, work, pass, task]

/-- A program that has returned stays so. -/
theorem step_exited {main after : MainLoop} {event : Event} {code : Int} (ended : main.task = .exited code)
    (stepped : step localtimeR main event after) : after.task = .exited code := by
  cases event with
  | main outcome =>
      have moved : main.next localtimeR outcome = .ok main := by rw [next, ended]
      cases moved.symm.trans stepped
      exact ended
  | callback call => exact (step_other stepped rfl).2.2.trans ended
  | transmit number => exact (step_other stepped rfl).2.2.trans ended
  | sigterm => exact (step_other stepped rfl).2.2.trans ended

theorem cleared_of_run {dataBase : DataBaseOperate} {isnormal : Int32} {events : List Event} {main : MainLoop}
    (run : Run (step localtimeR) (start dataBase isnormal) events main) (signalled : Event.sigterm ∈ events) :
    main.serviceRun = false := by
  refine run.invariant_history (fun events main => Event.sigterm ∈ events -> main.serviceRun = false)
    (fun nowhere => absurd nowhere List.not_mem_nil) ?_ signalled
  intro events before event after cleared stepped inEvents
  rcases step_serviceRun stepped with same | ⟨-, now⟩
  · rcases List.mem_append.mp inEvents with earlier | last
    · exact same.trans (cleared earlier)
    · cases List.mem_singleton.mp last
      cases stepped
      rfl
  · exact now

/-- After the termination signal `main` returns 0 once it has been given the
steps of a pass, and no alarm that it had taken up is broken off. -/
theorem returns_after_signal {session : MysqlSession} {table : CText} {tables : ResultSet} {dataBase : DataBaseOperate}
    {isnormal : Int32} {events later : List Event} {main : MainLoop}
    (stored : session.storeResult = some tables)
    (loaded : DataBaseOperate.empty.getCameraInfoFromDB (some session) (some table) = .ok (true, dataBase))
    (numbered : Numbered entries tables.loaded) (countable : entries < 2 ^ 32)
    (run : Run (step localtimeR) (start dataBase isnormal) (events ++ .sigterm :: later) main)
    (enough : passBound entries + 2 * entries + 3 ≤ later.countP Event.ofMain) :
    main.task = .exited 0 ∧ main.drain.pass = .head ∧
      main.calls = main.drain.presented.flatMap (announce tables.loaded) := by
  have initial := Ready.start (holds_of_load stored loaded) isnormal
  have ready := run.invariant (Ready tables.loaded) initial (fun _ _ _ ready stepped => ready.step stepped)
  rw [List.append_cons] at run
  rcases run.split with ⟨signalled, before, rest⟩
  have there := before.invariant (Ready tables.loaded) initial (fun _ _ _ ready stepped => ready.step stepped)
  have cleared := cleared_of_run before (by simp)
  have work := there.work_le numbered
  have most : stopWork entries signalled ≤ later.countP Event.ofMain := by
    rw [stopWork]
    split
    · exact Nat.zero_le _
    · omega
  rcases (countdown_stop numbered countable).passes ⟨there, cleared⟩ rest most with
    ⟨-, _, returned, -, -, back, done, -⟩
  have ended : main.task = .exited 0 := by
    refine back.invariant (fun main : MainLoop => main.task = .exited 0) ?_
      (fun _ _ _ ended stepped => step_exited ended stepped)
    by_contra running
    rw [stopWork, if_neg running] at done
    cases done
  have progress := ready.announced.progress
  rw [ended] at progress
  exact ⟨ended, (ready.returned 0 ended).1, progress.2⟩

/-- The signal comes when the alarm has been counted. -/
def lobbyStop : List Event := [.callback lobbyCall, .main .full] ++ .sigterm :: List.replicate 256 (.main .full)

theorem lobby_returns :
    exists main, Run (step firstDayUtc) (start (afterLoad lobby) uartTrue) lobbyStop main ∧ main.task = .exited 0 ∧
      main.calls = main.drain.presented.flatMap (announce lobby.loaded) ∧
      main.calls.map PackCall.strPhoneNum = [ascii "13800000003", ascii "13800000004"] := by
  have viewed : (lobbyStop.foldlM (advance firstDayUtc) (start (afterLoad lobby) uartTrue)).map
      (fun main => main.calls.map PackCall.strPhoneNum) = .ok [ascii "13800000003", ascii "13800000004"] := by
    decide +kernel
  rcases exists_of_map_eq_ok viewed with ⟨main, executed, phones⟩
  have run := Run.of_foldlM executed
  rcases returns_after_signal rfl lobby_loaded (show Numbered 2 lobby.loaded by decide) (by decide) run (by decide +kernel)
    with ⟨ended, -, calls⟩
  exact ⟨main, run, ended, calls, phones⟩

end Signal

/-! ## Every alarm in time -/

section Response

variable {localtimeR : Int -> Tm} {rows : List CameraRow} {entries : Nat}

/-- The steps until the alarm with this number has been released: those of the
pass that takes it, after those of the pass before. -/
def owed (entries number : Nat) (main : MainLoop) : Nat :=
  if number < main.drain.released + main.drain.pass.snapshot then main.work entries
  else main.work entries + 1 + passBound entries

/-- The steps of a service that has not been told to stop. -/
def runningStep (localtimeR : Int -> Tm) : MainLoop -> Event -> MainLoop -> Prop :=
  Guarded (boundedStep localtimeR) (fun before _ _ => before.serviceRun = true)

theorem countdown_release (numbered : Numbered entries rows) (countable : entries < 2 ^ 32) (number : Nat) :
    Countdown (runningStep localtimeR)
      (fun main => Ready rows main ∧ main.drain.Bounded ∧ number < main.drain.published.length) Event.ofMain
      (owed entries number) where
  keeps := by
    rintro before label after ⟨ready, -, arrived⟩ stepped
    refine ⟨ready.step stepped.1.1, stepped.1.2, ?_⟩
    rw [step_published stepped.1.1, List.length_append]
    omega
  lowers := by
    rintro before label after ⟨ready, bounded, arrived⟩ ⟨⟨stepped, -⟩, running⟩ ofMain some_owed
    cases label with
    | callback call => cases ofMain
    | transmit number => cases ofMain
    | sigterm => cases ofMain
    | main outcome =>
        rcases Nat.eq_zero_or_pos (before.work entries) with done | left
        · rcases ready.at_head done with ⟨head, here | ⟨code, ended⟩⟩
          · have uncovered : ¬ number < before.drain.released + before.drain.pass.snapshot := by
              intro covered
              rw [owed, if_pos covered, done] at some_owed
              exact Nat.lt_irrefl 0 some_owed
            have now : owed entries number before = 0 + 1 + passBound entries := by
              rw [owed, if_neg uncovered, done]
            rw [head] at uncovered
            change ¬ number < before.drain.released + 0 at uncovered
            have count := ready.counted.num_eq
            have room : before.drain.published.length ≤ before.drain.released + 31 := bounded
            rcases next_ring here stepped with ⟨-, cleared, -⟩ | ⟨-, called⟩
            · cases running.symm.trans cleared
            · rcases ringCall_cases called with ⟨drain, consumed, other⟩
              have moved : after.drain = drain := by
                rcases other with ⟨-, rfl⟩ | ⟨_, _, -, rfl⟩ <;> rfl
              rcases Drain.consume_cases consumed with ⟨-, nothing, -⟩ | ⟨-, -, rfl⟩ | ⟨_, _, _, elsewhere, -, -⟩ |
                ⟨_, _, _, _, elsewhere, -, -⟩ | ⟨_, elsewhere, -⟩
              · rw [nothing] at count
                have zero : (0 : UInt32).toNat = 0 := rfl
                omega
              · have ring : after.task = .ring := by
                  rcases other with ⟨-, rfl⟩ | ⟨_, _, entered, -⟩
                  · exact here
                  · exact absurd (congrArg List.length entered) (by simp)
                have few : before.drain.ring.hikDevGetAlarmNum.toNat ≤ 31 := by omega
                have covered : number < after.drain.released + after.drain.pass.snapshot := by
                  rw [moved]
                  change number < before.drain.released + before.drain.ring.hikDevGetAlarmNum.toNat
                  omega
                have later : owed entries number after ≤ passBound entries := by
                  rw [owed, if_pos covered, work, moved, ring]
                  exact Nat.succ_le_succ (Nat.mul_le_mul_right _ few)
                omega
              · cases head.symm.trans elsewhere
              · cases head.symm.trans elsewhere
              · cases head.symm.trans elsewhere
          · cases running.symm.trans (ready.returned code ended).2
        · have less := ready.next_work numbered countable stepped left
          have busy : before.drain.pass ≠ .head ∨ before.task ≠ .ring := by
            by_contra idle
            rw [not_or, not_not, not_not] at idle
            rw [work, idle.1, idle.2] at left
            exact Nat.lt_irrefl 0 left
          have same := next_released ready.counted.inRange busy stepped
          simp only [owed, same]
          split
          · exact less
          · omega
  bounds := by
    rintro before label after - ⟨⟨stepped, -⟩, -⟩ other
    rcases step_other stepped other with ⟨pass, released, task⟩
    rw [owed, owed, work, work, pass, released, task]

/-- At the head of the loop the calls are those of the released alarms. -/
theorem calls_at_head {tables : ResultSet} {dataBase : DataBaseOperate} {isnormal : Int32} {events : List Event}
    {main : MainLoop} (held : dataBase.Holds tables.loaded)
    (run : Run (boundedStep localtimeR) (start dataBase isnormal) events main) (head : main.drain.pass = .head)
    (here : main.task = .ring ∨ exists code, main.task = .exited code) :
    main.calls = ((arrivals events).take main.drain.released).flatMap (notifications localtimeR tables) := by
  have steps := run.weaken (fun _ _ _ stepped => stepped.1)
  have progress := (Announced.of_run held steps).progress
  have presented := (drain_of_run run).2.1.presented_eq
  have calls : main.calls = main.drain.presented.flatMap (announce tables.loaded) := by
    rcases here with ring | ⟨code, ended⟩
    · rw [ring] at progress
      exact progress
    · rw [ended] at progress
      exact progress.2
  simp only [head, HikDev.Pass.finished, Nat.add_zero, published_of_run steps] at presented
  rw [calls, presented, List.flatMap_map]
  congr 1
  funext alarm
  exact (notifications_eq localtimeR tables alarm).symm

/-- With at most 31 alarms waiting and no signal, every alarm that has arrived is
announced, after all earlier ones, by the time that `main` has been given the
steps of two passes. -/
theorem announced_in_two_passes {session : MysqlSession} {table : CText} {tables : ResultSet}
    {dataBase : DataBaseOperate} {isnormal : Int32} {events later : List Event} {main : MainLoop}
    (stored : session.storeResult = some tables)
    (loaded : DataBaseOperate.empty.getCameraInfoFromDB (some session) (some table) = .ok (true, dataBase))
    (numbered : Numbered entries tables.loaded) (countable : entries < 2 ^ 32)
    (run : Run (boundedStep localtimeR) (start dataBase isnormal) (events ++ later) main)
    (running : main.serviceRun = true)
    (enough : 2 * passBound entries + 2 * entries + 3 ≤ later.countP Event.ofMain) :
    (arrivals events).flatMap (notifications localtimeR tables) <+: main.calls := by
  have held := holds_of_load stored loaded
  rcases run.split with ⟨middle, before, rest⟩
  have steps := before.weaken (fun _ _ _ stepped => stepped.1)
  have ready := steps.invariant (Ready tables.loaded) (Ready.start held isnormal)
    (fun _ _ _ ready stepped => ready.step stepped)
  have published := published_of_run steps
  rcases Nat.eq_zero_or_pos (arrivals events).length with none_arrived | some_arrived
  · rw [List.length_eq_zero_iff.mp none_arrived]
    exact List.nil_prefix
  have arrived : (arrivals events).length - 1 < middle.drain.published.length := by
    rw [published]
    omega
  have most : owed entries ((arrivals events).length - 1) middle ≤ later.countP Event.ofMain := by
    have work := ready.work_le numbered
    rw [owed]
    split <;> omega
  have lasting : Run (runningStep localtimeR) middle later main := by
    refine rest.of_lasting ?_ running
    intro before label after stepped kept
    rcases step_serviceRun stepped.1 with same | ⟨-, cleared⟩
    · exact same.symm.trans kept
    · cases kept.symm.trans cleared
  have countdown : Countdown (runningStep localtimeR)
      (fun main => Ready tables.loaded main ∧ main.drain.Bounded ∧
        (arrivals events).length - 1 < main.drain.published.length) Event.ofMain
      (owed entries ((arrivals events).length - 1)) := countdown_release numbered countable _
  rcases countdown.passes ⟨ready, (drain_of_run before).2.2, arrived⟩ lasting most with
    ⟨front, back, released, -, onward, remaining, done, -⟩
  -- nothing is owed, so the pass that took the alarm is over
  have there := countdown.holds ⟨ready, (drain_of_run before).2.2, arrived⟩ onward
  rw [owed] at done
  split at done
  · rename_i covered
    rcases there.1.at_head done with ⟨head, here⟩
    rw [head] at covered
    change (arrivals events).length - 1 < released.drain.released + 0 at covered
    have reached := before.append (onward.weaken (fun _ _ _ stepped => stepped.1))
    have calls := calls_at_head held reached head here
    have all : (arrivals events).length ≤ released.drain.released := by omega
    rw [arrivals_append, List.take_append, List.take_of_length_le all, List.flatMap_append] at calls
    have made : (arrivals events).flatMap (notifications localtimeR tables) <+: released.calls :=
      calls ▸ List.prefix_append _ _
    refine remaining.invariant (fun main : MainLoop =>
      (arrivals events).flatMap (notifications localtimeR tables) <+: main.calls) made ?_
    intro _ _ _ kept stepped
    exact kept.trans (step_calls stepped.1.1)
  · omega

/-- One alarm, and the steps of two passes. -/
def lobbyPasses : List Event := [.callback lobbyCall] ++ List.replicate 505 (.main .full)

theorem lobby_announced :
    exists main, Run (boundedStep firstDayUtc) (start (afterLoad lobby) uartTrue) lobbyPasses main ∧
      (arrivals [.callback lobbyCall]).flatMap (notifications firstDayUtc lobby) <+: main.calls ∧
      main.calls.map PackCall.strPhoneNum = [ascii "13800000003", ascii "13800000004"] := by
  have viewed : (lobbyPasses.foldlM (checked (advance firstDayUtc) .diverges
      (fun _ _ after => decide after.drain.Bounded)) (start (afterLoad lobby) uartTrue)).map
      (fun main => (main.serviceRun, main.calls.map PackCall.strPhoneNum)) =
      .ok (true, [ascii "13800000003", ascii "13800000004"]) := by
    decide +kernel
  rcases exists_of_map_eq_ok viewed with ⟨main, executed, ends⟩
  simp only [Prod.mk.injEq] at ends
  have run : Run (boundedStep firstDayUtc) (start (afterLoad lobby) uartTrue) lobbyPasses main := by
    refine (Run.of_checked executed).weaken ?_
    intro before event after stepped
    exact ⟨stepped.1, of_decide_eq_true stepped.2⟩
  exact ⟨main, run, announced_in_two_passes rfl lobby_loaded (show Numbered 2 lobby.loaded by decide) (by decide) run
    ends.1 (by decide +kernel), ends.2⟩

end Response

end MainLoop

end Service
end MotionDetectAlarm
