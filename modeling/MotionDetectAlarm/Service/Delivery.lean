import MotionDetectAlarm.Service.Notification

namespace MotionDetectAlarm
namespace Service

open Foundation HikDev DataBase SerialPort

/-!
# What becomes of accepted commands

The driver takes every command in full here, so `writeBuffer` has no reason of
its own to flush.  It flushes all the same when it is given nothing to write,
which `main` does for an empty entry among the numbers: the packer returns an
empty message, the write returns zero, and zero counts as a failure.  Whatever
the driver has not transmitted by then is thrown away, the accepted commands
of earlier rounds and alarms included.

The port with its accepted commands is an outlet.  Every step is one of the
outlet's operations, and the state at the end of a run tells whether the round
of an empty entry has ever ended with something in the queue.
-/

/-- The round of the phone loop that a task belongs to. -/
def Task.round : Task -> Option (Job × UInt32)
  | .phones job j => some (job, j)
  | .flush job j => some (job, j)
  | _ => none

namespace MainLoop

/-- Every write that is not empty is taken in full. -/
def fullStep (localtimeR : Int -> Tm) : MainLoop -> Event -> MainLoop -> Prop :=
  Guarded (step localtimeR) (fun _ event _ => forall outcome, event = .main outcome -> outcome = .full)

/-- The port with the commands for which `writeBuffer` returned `UART_TRUE`. -/
def outlet (main : MainLoop) : Outlet UInt8 :=
  main.msgModuleCom.outlet main.commands

/-- A flush, if it is one, finds nothing in the queue. -/
def Harmless (before : MainLoop) (event : Event) : Prop :=
  forall job j outcome, before.task = .flush job j -> event = .main outcome -> before.msgModuleCom.queue = []

section Steps

variable {localtimeR : Int -> Tm} {main after : MainLoop}

/-- A round of the phone loop hands over one whole command, or nothing. -/
theorem phoneRound_outlet {job : Job} {j : UInt32} (rounded : main.phoneRound job j .full = .ok after) :
    after.outlet = main.outlet ∨ exists command, after.outlet = main.outlet.accept command := by
  rcases phoneRound_cases rounded with ⟨-, rfl⟩ | ⟨strPhoneNum, buf, -, -, written⟩
  · exact Or.inl rfl
  · rcases main.msgModuleCom.writeBuffer_full buf with ⟨-, closed⟩ | ⟨-, -, taken⟩ | ⟨-, -, nothing⟩
    · rcases written with ⟨port, code, result, rfl⟩ | ⟨port, result, -⟩
      · cases closed.symm.trans result
        exact Or.inl rfl
      · cases closed.symm.trans result
    · rcases written with ⟨port, code, result, rfl⟩ | ⟨port, result, -⟩
      · cases taken.symm.trans result
        refine Or.inr ⟨buf, ?_⟩
        simp only [outlet, Port.outlet, Outlet.accept, if_true, List.flatten_append, List.flatten_cons,
          List.flatten_nil, List.append_nil]
      · cases taken.symm.trans result
    · rcases written with ⟨port, code, result, -⟩ | ⟨port, result, rfl⟩
      · cases nothing.symm.trans result
      · cases nothing.symm.trans result
        exact Or.inl rfl

/-- Everything a step can do to the outlet. -/
theorem fullStep_outlet {event : Event} (stepped : fullStep localtimeR main event after) :
    after.outlet = main.outlet ∨ (exists command, after.outlet = main.outlet.accept command) ∨
      (exists number, after.outlet = main.outlet.send number) ∨
      (exists job j outcome, main.task = .flush job j ∧ event = .main outcome ∧
        after.outlet = main.outlet.discard) := by
  rcases stepped with ⟨stepped, full⟩
  cases event with
  | callback call =>
      rcases exists_of_map_eq_ok stepped with ⟨drain, -, rfl⟩
      exact Or.inl rfl
  | main outcome =>
      cases full outcome rfl
      rcases next_cases stepped with ⟨-, rfl⟩ | ⟨-, called⟩ | ⟨_, _, -, looked⟩ | ⟨job, j, -, rounded⟩ |
        ⟨job, j, here, rfl⟩ | ⟨_, -, rfl⟩
      · exact Or.inl rfl
      · rcases ringCall_cases called with ⟨drain, -, ⟨-, rfl⟩ | ⟨_, _, -, rfl⟩⟩
        · exact Or.inl rfl
        · exact Or.inl rfl
      · rcases lookup_cases looked with ⟨_, _, rfl, -⟩
        exact Or.inl rfl
      · rcases phoneRound_outlet rounded with same | accepted
        · exact Or.inl same
        · exact Or.inr (Or.inl accepted)
      · exact Or.inr (Or.inr (Or.inr ⟨job, j, .full, here, rfl, Port.outlet_tcflush _ _⟩))
      · exact Or.inl rfl
  | transmit number =>
      cases stepped
      exact Or.inr (Or.inr (Or.inl ⟨number, Port.outlet_transmit _ _ number⟩))
  | sigterm =>
      cases stepped
      exact Or.inl rfl

/-- A step whose flush is harmless keeps everything accepted. -/
theorem fullStep_kept {event : Event} (stepped : fullStep localtimeR main event after)
    (harmless : main.Harmless event) (kept : main.outlet.Kept) : after.outlet.Kept := by
  rcases fullStep_outlet stepped with same | ⟨command, accepted⟩ | ⟨number, sent⟩ |
    ⟨job, j, outcome, here, flushed, discarded⟩
  · exact same ▸ kept
  · exact accepted ▸ kept.accept command
  · exact sent ▸ kept.send number
  · exact discarded ▸ kept.discard (harmless job j outcome here flushed)

/-- A step from a kept outlet is harmless or leaves it short. -/
theorem fullStep_harmless_or_short {event : Event} (stepped : fullStep localtimeR main event after)
    (kept : main.outlet.Kept) : main.Harmless event ∨ after.outlet.Short := by
  by_cases nothing : main.msgModuleCom.queue = []
  · exact Or.inl (fun _ _ _ _ _ => nothing)
  · by_cases flushing : exists job j outcome, main.task = .flush job j ∧ event = .main outcome
    · refine Or.inr ?_
      rcases flushing with ⟨job, j, outcome, here, rfl⟩
      rw [next_flush here stepped.1]
      exact kept.discard_short nothing
    · refine Or.inl ?_
      intro job j outcome here event_eq
      exact absurd ⟨job, j, outcome, here, event_eq⟩ flushing

/-- What is missing stays missing. -/
theorem fullStep_short {event : Event} (stepped : fullStep localtimeR main event after)
    (short : main.outlet.Short) : after.outlet.Short := by
  rcases fullStep_outlet stepped with same | ⟨command, accepted⟩ | ⟨number, sent⟩ | ⟨_, _, _, -, -, discarded⟩
  · exact same ▸ short
  · exact accepted ▸ short.accept command
  · exact sent ▸ short.send number
  · exact discarded ▸ short.discard

end Steps

/-! ## When the flush is reached -/

/-- The address at hand is not empty, and a flush stands at an empty entry. -/
def Addressed : Task -> Prop
  | .lookup _ strAlarmIp => strAlarmIp ≠ []
  | .phones job _ => job.strAlarmIp ≠ []
  | .flush job j => job.strAlarmIp ≠ [] ∧ job.vstrPhone[j.toNat]? = some []
  | _ => True

theorem fullStep_addressed {localtimeR : Int -> Tm} {main after : MainLoop} {event : Event}
    (stepped : fullStep localtimeR main event after) (addressed : Addressed main.task) : Addressed after.task := by
  rcases stepped with ⟨stepped, full⟩
  cases event with
  | callback call =>
      rcases exists_of_map_eq_ok stepped with ⟨drain, -, rfl⟩
      exact addressed
  | main outcome =>
      cases full outcome rfl
      rcases next_cases stepped with ⟨-, rfl⟩ | ⟨-, called⟩ | ⟨_, _, here, looked⟩ | ⟨job, j, here, rounded⟩ |
        ⟨job, j, here, rfl⟩ | ⟨_, -, rfl⟩
      · trivial
      · rcases ringCall_cases called with ⟨drain, -, ⟨-, rfl⟩ | ⟨read, strAlarmIp, -, rfl⟩⟩
        · exact addressed
        · cases strAlarmIp with
          | nil => trivial
          | cons byte rest => exact List.cons_ne_nil byte rest
      · rw [here] at addressed
        rcases lookup_cases looked with ⟨_, _, rfl, rfl | rfl | ⟨_, _, rfl⟩⟩
        · trivial
        · trivial
        · exact addressed
      · rw [here] at addressed
        rcases phoneRound_cases rounded with ⟨-, rfl⟩ | ⟨strPhoneNum, buf, listed, packed, written⟩
        · trivial
        · rcases written with ⟨port, code, -, rfl⟩ | ⟨port, result, rfl⟩
          · exact addressed
          · -- a full write leads to the flush only when there was nothing to write
            refine ⟨addressed, ?_⟩
            rcases main.msgModuleCom.writeBuffer_full buf with ⟨-, closed⟩ | ⟨-, -, taken⟩ | ⟨-, nothing, -⟩
            · cases closed.symm.trans result
            · cases taken.symm.trans result
            · rw [nothing] at packed
              rcases packMsgToAlarm_eq_nil packed with blank | blank
              · exact absurd blank addressed
              · rw [listed, blank]
      · rw [here] at addressed
        exact addressed.1
      · exact addressed
  | transmit number =>
      cases stepped
      exact addressed
  | sigterm =>
      cases stepped
      exact addressed

/-- Numbers without an empty entry do not lead to the flush. -/
theorem Addressed.not_flush {rows : List CameraRow} {task : Task} (addressed : Addressed task)
    (sourced : task.Sourced rows) (entries : forall row, row ∈ rows -> [] ∉ (row .phonenums).splitOn 0x2C)
    (job : Job) (j : UInt32) : task ≠ .flush job j := by
  intro here
  rw [here] at addressed sourced
  rcases sourced with ⟨row, inRows, numbers⟩
  exact entries row inRows (numbers ▸ List.mem_of_getElem? addressed.2)

/-- The address at hand is not empty, a flush stands at an empty entry, and a
closed port has nothing in its queue. -/
structure Writing (main : MainLoop) : Prop where
  addressed : Addressed main.task
  closed : main.msgModuleCom.isnormal = uartFalse -> main.msgModuleCom.queue = []

section Writing

variable {localtimeR : Int -> Tm} {main after : MainLoop} {event : Event}

theorem start_writing (dataBase : DataBaseOperate) (isnormal : Int32) : Writing (start dataBase isnormal) where
  addressed := trivial
  closed := fun _ => rfl

/-- A step leaves the flag of the port alone, and a closed port accepts nothing. -/
theorem fullStep_closed (stepped : fullStep localtimeR main event after)
    (closed : main.msgModuleCom.isnormal = uartFalse -> main.msgModuleCom.queue = []) :
    after.msgModuleCom.isnormal = uartFalse -> after.msgModuleCom.queue = [] := by
  rcases stepped with ⟨stepped, full⟩
  cases event with
  | callback call =>
      rcases exists_of_map_eq_ok stepped with ⟨drain, -, rfl⟩
      exact closed
  | main outcome =>
      cases full outcome rfl
      rcases next_cases stepped with ⟨-, rfl⟩ | ⟨-, called⟩ | ⟨_, _, -, looked⟩ | ⟨job, j, -, rounded⟩ |
        ⟨job, j, -, rfl⟩ | ⟨_, -, rfl⟩
      · exact closed
      · rcases ringCall_cases called with ⟨drain, -, ⟨-, rfl⟩ | ⟨_, _, -, rfl⟩⟩
        · exact closed
        · exact closed
      · rcases lookup_cases looked with ⟨_, _, rfl, -⟩
        exact closed
      · rcases phoneRound_cases rounded with ⟨-, rfl⟩ | ⟨strPhoneNum, buf, -, -, written⟩
        · exact closed
        · rcases main.msgModuleCom.writeBuffer_full buf with ⟨-, refused⟩ | ⟨opened, -, taken⟩ | ⟨-, -, nothing⟩
          · rcases written with ⟨port, code, result, rfl⟩ | ⟨port, result, rfl⟩
            · cases refused.symm.trans result
              exact closed
            · cases refused.symm.trans result
          · rcases written with ⟨port, code, result, rfl⟩ | ⟨port, result, rfl⟩
            · cases taken.symm.trans result
              exact fun shut => absurd shut opened
            · cases taken.symm.trans result
          · rcases written with ⟨port, code, result, rfl⟩ | ⟨port, result, rfl⟩
            · cases nothing.symm.trans result
            · cases nothing.symm.trans result
              exact closed
      · exact fun _ => rfl
      · exact closed
  | transmit number =>
      cases stepped
      intro shut
      change main.msgModuleCom.queue.drop number = []
      rw [closed shut, List.drop_nil]
  | sigterm =>
      cases stepped
      exact closed

theorem Writing.step (writing : Writing main) (stepped : fullStep localtimeR main event after) : Writing after where
  addressed := fullStep_addressed stepped writing.addressed
  closed := fullStep_closed stepped writing.closed

/-- The step ends a round of the phone loop whose entry is empty. -/
def LeavesEmptyEntry (before after : MainLoop) : Prop :=
  exists job j, before.task.round = some (job, j) ∧ job.vstrPhone[j.toNat]? = some [] ∧
    after.task.round ≠ some (job, j)

/-- A flush ends the round of an empty entry. -/
theorem Writing.leaves_of_flush (writing : Writing main) {job : Job} {j : UInt32} {outcome : WriteOutcome}
    (here : main.task = .flush job j) (stepped : fullStep localtimeR main (.main outcome) after) :
    LeavesEmptyEntry main after := by
  have addressed := writing.addressed
  rw [here] at addressed
  refine ⟨job, j, by rw [here, Task.round], addressed.2, ?_⟩
  rw [next_flush here stepped.1, Task.round]
  intro same
  have counter : j + 1 = j := (Prod.mk.inj (Option.some.inj same)).2
  have moved := congrArg UInt32.toNat counter
  simp only [UInt32.toNat_add, UInt32.reduceToNat] at moved
  omega

/-- The round of an empty entry on an open port ends with the flush. -/
theorem Writing.flush_of_leaves (writing : Writing main) (stepped : fullStep localtimeR main event after)
    (leaves : LeavesEmptyEntry main after) :
    main.msgModuleCom.queue = [] ∨ exists job j outcome, main.task = .flush job j ∧ event = .main outcome := by
  rcases leaves with ⟨job, j, inRound, blank, left⟩
  rcases stepped with ⟨stepped, full⟩
  cases event with
  | callback call =>
      rcases exists_of_map_eq_ok stepped with ⟨drain, -, rfl⟩
      exact absurd inRound left
  | transmit number =>
      cases stepped
      exact absurd inRound left
  | sigterm =>
      cases stepped
      exact absurd inRound left
  | main outcome =>
      cases full outcome rfl
      cases here : main.task with
      | flush job j => exact Or.inr ⟨job, j, .full, rfl, rfl⟩
      | phones job' j' =>
          rw [here] at inRound
          cases inRound
          have rounded : main.phoneRound job j .full = .ok after := by
            change main.next localtimeR .full = .ok after at stepped
            rwa [next, here] at stepped
          rcases phoneRound_cases rounded with ⟨past, -⟩ | ⟨strPhoneNum, buf, listed, packed, written⟩
          · cases blank.symm.trans past
          · cases listed.symm.trans blank
            rw [Job.packMsg, packMsgToAlarm_without (Or.inr rfl)] at packed
            have nothing : buf = [] := (Except.ok.inj packed).symm
            rcases main.msgModuleCom.writeBuffer_full buf with ⟨shut, -⟩ | ⟨-, some_bytes, -⟩ | ⟨-, -, flushing⟩
            · exact Or.inl (writing.closed shut)
            · exact absurd nothing some_bytes
            · rcases written with ⟨port, code, result, rfl⟩ | ⟨port, result, rfl⟩
              · cases flushing.symm.trans result
              · exact absurd rfl left
      | ring =>
          rw [here] at inRound
          cases inRound
      | lookup strDataTime strAlarmIp =>
          rw [here] at inRound
          cases inRound
      | exited code =>
          rw [here] at inRound
          cases inRound

/-- A step is harmless exactly when it does not end the round of an empty entry
with something in the queue. -/
theorem Writing.harmless_iff (writing : Writing main) (stepped : fullStep localtimeR main event after) :
    main.Harmless event ↔ (LeavesEmptyEntry main after -> main.msgModuleCom.queue = []) := by
  constructor
  · intro harmless leaves
    rcases writing.flush_of_leaves stepped leaves with nothing | ⟨job, j, outcome, here, moved⟩
    · exact nothing
    · exact harmless job j outcome here moved
  · intro sent job j outcome here moved
    subst moved
    exact sent (writing.leaves_of_flush here stepped)

end Writing

/-! ## What is kept -/

/-- The steps of a run in which no round of an empty entry ends while accepted
bytes wait to be transmitted. -/
def sentStep (localtimeR : Int -> Tm) : MainLoop -> Event -> MainLoop -> Prop :=
  Guarded (fullStep localtimeR) (fun before _ after =>
    LeavesEmptyEntry before after -> before.msgModuleCom.queue = [])

theorem start_kept (dataBase : DataBaseOperate) (isnormal : Int32) : (start dataBase isnormal).outlet.Kept := rfl

section Runs

variable {localtimeR : Int -> Tm} {dataBase : DataBaseOperate} {isnormal : Int32} {events : List Event}
  {main : MainLoop}

theorem Writing.of_run (run : Run (fullStep localtimeR) (start dataBase isnormal) events main) : Writing main :=
  run.invariant Writing (start_writing dataBase isnormal) (fun _ _ _ writing stepped => writing.step stepped)

/-- A run ends its empty rounds with nothing unsent and keeps everything, or it
leaves the outlet short. -/
theorem sent_or_short (run : Run (fullStep localtimeR) (start dataBase isnormal) events main) :
    (Run (sentStep localtimeR) (start dataBase isnormal) events main ∧ main.outlet.Kept) ∨ main.outlet.Short := by
  induction run with
  | nil => exact Or.inl ⟨.nil, start_kept dataBase isnormal⟩
  | snoc before stepped ih =>
      rcases ih with ⟨sent, kept⟩ | short
      · rcases fullStep_harmless_or_short stepped kept with harmless | short
        · exact Or.inl ⟨sent.snoc ⟨stepped, ((Writing.of_run before).harmless_iff stepped).mp harmless⟩,
            fullStep_kept stepped harmless kept⟩
        · exact Or.inr short
      · exact Or.inr (fullStep_short stepped short)

/-- A table without an empty entry never leads to the flush. -/
theorem not_flush_of_entries {rows : List CameraRow} (held : dataBase.Holds rows)
    (entries : forall row, row ∈ rows -> [] ∉ (row .phonenums).splitOn 0x2C)
    (run : Run (fullStep localtimeR) (start dataBase isnormal) events main) (job : Job) (j : UInt32) :
    main.task ≠ .flush job j := by
  have announced := (run.weaken (fun _ _ _ stepped => stepped.1)).invariant (Announced rows)
    (Announced.start held isnormal) (fun _ _ _ announced stepped => announced.step stepped)
  exact (Writing.of_run run).addressed.not_flush announced.sourced entries job j

/-- In a run with full writes, every accepted command has been transmitted or
still waits exactly when each round of an empty entry has ended with nothing
unsent.  The flush stands at an empty entry always, and a table without one
keeps every command. -/
theorem commands_kept_iff (run : Run (fullStep localtimeR) (start dataBase isnormal) events main) :
    (main.outlet.Kept ↔ Run (sentStep localtimeR) (start dataBase isnormal) events main) ∧
      (forall job j, main.task = .flush job j -> job.vstrPhone[j.toNat]? = some []) ∧
      (forall rows, dataBase.Holds rows -> (forall row, row ∈ rows -> [] ∉ (row .phonenums).splitOn 0x2C) ->
        main.outlet.Kept) := by
  refine ⟨⟨?_, ?_⟩, ?_, ?_⟩
  · intro kept
    rcases sent_or_short run with ⟨sent, -⟩ | short
    · exact sent
    · exact absurd kept short.not_kept
  · intro sent
    have both := sent.invariant (fun main => Writing main ∧ main.outlet.Kept)
      ⟨start_writing dataBase isnormal, start_kept dataBase isnormal⟩
      (fun _ _ _ held stepped => ⟨held.1.step stepped.1,
        fullStep_kept stepped.1 ((held.1.harmless_iff stepped.1).mpr stepped.2) held.2⟩)
    exact both.2
  · intro job j here
    have addressed := (Writing.of_run run).addressed
    rw [here] at addressed
    exact addressed.2
  · intro rows held entries
    induction run with
    | nil => exact start_kept dataBase isnormal
    | snoc before stepped ih =>
        exact fullStep_kept stepped
          (fun job j _ here _ => absurd here (not_flush_of_entries held entries before job j)) ih

end Runs

/-- The camera in the lobby, with numbers that end with a comma. -/
def trailing : ResultSet :=
  cameraTable [(lobbyAddress, lobbyName, ⟨ascii "13800000003,", by decide⟩)]

/-- The alarm is read, its command is taken in full, and the empty entry has
led to the flush. -/
def beforeFlush : List Event := .callback lobbyCall :: List.replicate 6 (.main .full)

def flushUnsent : List Event := beforeFlush ++ [.main .full]

def flushSent : List Event := beforeFlush ++ [.transmit 512, .main .full]

/-- The driver takes every step of a schedule in full. -/
def allFull (_ : MainLoop) (event : Event) (_ : MainLoop) : Bool :=
  match event with
  | .main outcome => outcome = .full
  | _ => true

theorem fullStep_of_checked {localtimeR : Int -> Tm} {first : MainLoop} {events : List Event} {last : MainLoop}
    (executed : events.foldlM (checked (advance localtimeR) .diverges allFull) first = .ok last) :
    Run (fullStep localtimeR) first events last := by
  refine (Run.of_checked executed).weaken ?_
  intro before event after stepped
  refine ⟨stepped.1, ?_⟩
  rintro outcome rfl
  exact of_decide_eq_true stepped.2

/-- With nothing transmitted in time, the flush throws an accepted command
away. -/
theorem accepted_command_lost :
    exists main, Run (fullStep firstDayUtc) (start (afterLoad trailing) uartTrue) flushUnsent main ∧
      ¬ main.outlet.Kept := by
  have viewed : (flushUnsent.foldlM (checked (advance firstDayUtc) .diverges allFull)
      (start (afterLoad trailing) uartTrue)).map
      (fun main => (main.msgModuleCom.queue, main.msgModuleCom.transmitted, main.commands.flatten.isEmpty)) =
      .ok ([], [], false) := by
    decide +kernel
  rcases exists_of_map_eq_ok viewed with ⟨main, executed, parts⟩
  simp only [Prod.mk.injEq] at parts
  rcases parts with ⟨queue, transmitted, some_accepted⟩
  refine ⟨main, fullStep_of_checked executed, ?_⟩
  intro kept
  have nothing : main.commands.flatten = [] := by
    change main.msgModuleCom.transmitted ++ main.msgModuleCom.queue = main.commands.flatten at kept
    rw [← kept, queue, transmitted]
    rfl
  rw [nothing] at some_accepted
  cases some_accepted

/-- With everything transmitted in time, the same flush does no harm. -/
theorem transmitted_command_kept :
    exists main, Run (fullStep firstDayUtc) (start (afterLoad trailing) uartTrue) flushSent main ∧
      main.commands ≠ [] ∧ main.outlet.Kept := by
  have viewed : (flushSent.foldlM
      (checked (advance firstDayUtc) .diverges (fun before event after => allFull before event after &&
        (before.msgModuleCom.queue.isEmpty || before.task.round.all (fun round =>
          round.1.vstrPhone[round.2.toNat]? != some [] || after.task.round == some round))))
      (start (afterLoad trailing) uartTrue)).map (fun main => main.commands.isEmpty) = .ok false := by
    decide +kernel
  rcases exists_of_map_eq_ok viewed with ⟨main, executed, some_accepted⟩
  have clean : Run (sentStep firstDayUtc) (start (afterLoad trailing) uartTrue) flushSent main := by
    refine (Run.of_checked executed).weaken ?_
    intro before event after stepped
    rcases stepped with ⟨stepped, passed⟩
    simp only [Bool.and_eq_true, Bool.or_eq_true, List.isEmpty_iff] at passed
    refine ⟨⟨stepped, ?_⟩, ?_⟩
    · rintro outcome rfl
      exact of_decide_eq_true passed.1
    · rintro ⟨job, j, inRound, blank, left⟩
      rcases passed.2 with nothing | elsewhere
      · exact nothing
      · simp [inRound, blank, left] at elsewhere
  have full := clean.weaken (fun _ _ _ stepped => stepped.1)
  refine ⟨main, full, ?_, (commands_kept_iff full).1.mpr clean⟩
  rintro nothing
  rw [nothing] at some_accepted
  cases some_accepted

end MainLoop

end Service
end MotionDetectAlarm
