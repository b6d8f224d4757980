import MotionDetectAlarm.Service.Preemption

namespace MotionDetectAlarm
namespace Service

open Foundation DataBase HikDev SerialPort

/-!
# Atomic callbacks are enough

As long as at most 31 alarms wait, a run of the program cut at its stores does what
a run with atomic callbacks does.  Each callback counts from the increment that
publishes its alarm, and each count from its second reading.  A signal between the
two readings is only seen at the next test of `ServiceRun`, so the atomic run has it
behind the count.

Two moments are excepted: a count that is finished while the write index stands
behind the array and everything has been released, and one whose comparison no
longer holds when the subtraction is made.
-/

namespace Preempted

variable {world : World} {writes : WriteOutcome -> Prop} {runDirectory : RunDirectory} {events : List Event}
  {atomics : List MainLoop.Event} {state after : Preempted} {program : Program}

/-- The program without a signal that has come in the middle of a count. -/
def unsignalled (state : Preempted) : Program :=
  match state.compared with
  | none => state.program
  | some _ => { state.program with main := { state.program.main with serviceRun := true } }

/-- The run with atomic callbacks that a run cut at its stores amounts to. -/
structure Tracks (world : World) (events : List Event) (state : Preempted) (atomics : List MainLoop.Event)
    (program : Program) : Prop where
  same : program = state.unsignalled.withDrain program.main.drain
  history : SameHistory state.program.main.drain program.main.drain
  counting : forall inOrder, state.compared = some inOrder -> state.program.AtHead
  counted : Drain.Counted program.main.drain
  faithful : Drain.Faithful world.localtimeR program.main.drain
  consistent : exists trace, Interleaved.Consistent world.localtimeR { state.shared with trace := trace }
  entered : forall record pending, state.producer = some (record, pending) ->
    exists call : AlarmCallback, call.record = some record
  arrived : MainLoop.arrivals atomics ++ Interleaved.unpublished state.producer = events.filterMap Event.record
  published : MainLoop.arrivals atomics = program.main.drain.published

namespace Tracks

theorem start (world : World) (runDirectory : RunDirectory) :
    Tracks world [] (Preempted.start runDirectory) [] (Program.start runDirectory) where
  same := rfl
  history := ⟨rfl, rfl, rfl, rfl⟩
  counting := nofun
  counted := Drain.Counted.start
  faithful := Drain.Faithful.start
  consistent := ⟨[], Interleaved.Consistent.start⟩
  entered := nofun
  arrived := rfl
  published := rfl

theorem bounded (tracks : Tracks world events state atomics program) : state.program.main.drain.Bounded := by
  rcases tracks.consistent with ⟨trace, consistent⟩
  exact consistent.bounded

theorem arrivals_callback (atomics : List MainLoop.Event) (call : AlarmCallback) :
    MainLoop.arrivals (atomics ++ [.callback call]) = MainLoop.arrivals atomics ++ call.record.toList := by
  rw [MainLoop.arrivals_append]
  cases accepted : call.record with
  | none => simp [MainLoop.arrivals, accepted]
  | some record => simp [MainLoop.arrivals, accepted]

theorem unsignalled_withShared (state : Preempted) (shared : Interleaved) :
    (state.withShared shared).unsignalled = state.unsignalled.withDrain shared.drain := by
  unfold unsignalled withShared
  cases state.compared with
  | none => rfl
  | some inOrder => rfl

/-- Entering a callback changes nothing that the program sees. -/
theorem enter {call : AlarmCallback} (tracks : Tracks world events state atomics program)
    (stepped : step world state (.enter call) after) : Tracks world (events ++ [.enter call]) after atomics program := by
  rcases exists_of_map_eq_ok stepped with ⟨shared, entered, rfl⟩
  rcases Interleaved.enter_cases entered with ⟨idle, rfl⟩
  have quiet : state.producer = none := idle
  rcases tracks.consistent with ⟨trace, consistent⟩
  refine ⟨?_, tracks.history, tracks.counting, tracks.counted, tracks.faithful, ⟨trace, ?_⟩, ?_, ?_, tracks.published⟩
  · rw [unsignalled_withShared]
    exact tracks.same
  · have stored := consistent.stored
    change Interleaved.Stored _ _ state.producer at stored
    rw [quiet] at stored
    refine ⟨consistent.faithful, consistent.bounded, ?_, consistent.refines⟩
    change Interleaved.Stored _ _ (call.record.map (fun record => (record, .devInfo)))
    cases call.record with
    | none => exact stored
    | some record => exact stored
  · intro record pending inProgress
    rcases Option.map_eq_some_iff.mp inProgress with ⟨taken, accepted, here⟩
    cases here
    exact ⟨call, accepted⟩
  · rw [List.filterMap_append, ← tracks.arrived, quiet]
    cases accepted : call.record with
    | none => simp [withShared, Interleaved.unpublished, Event.record, accepted]
    | some record => simp [withShared, Interleaved.unpublished, Event.record, accepted]

/-- A store that publishes is the atomic callback, and every other store is nothing. -/
theorem store (tracks : Tracks world events state atomics program) (stepped : step world state .store after)
    (limit : after.program.main.drain.Bounded) :
    exists more next, Run (Program.permittedStep world (Program.limited writes)) program more next ∧
      Tracks world (events ++ [.store]) after (atomics ++ more) next := by
  rcases exists_of_map_eq_ok stepped with ⟨shared, stored, rfl⟩
  rcases Interleaved.store_cases stored with ⟨record, pending, ring, inProgress, written, rfl⟩
  have here : state.producer = some (record, pending) := inProgress
  rcases tracks.consistent with ⟨trace, consistent⟩
  rcases consistent.store here with ⟨again, writtenAgain, keeps⟩
  cases written.symm.trans writtenAgain
  have consistentAfter := keeps limit
  have unrecorded : (events ++ [Event.store]).filterMap Event.record = events.filterMap Event.record := by
    rw [List.filterMap_append]
    exact List.append_nil _
  have arrived := tracks.arrived
  rw [here] at arrived
  by_cases publishes : pending = .advance
  · subst publishes
    rcases tracks.entered record .advance here with ⟨call, accepted⟩
    rcases Drain.callback_accepted accepted tracks.counted.wr_lt with ⟨moved, called, -⟩
    generalize { program.main.drain.publish record with
      ring := { program.main.drain.ring with
        struAlarmMotionDetect := program.main.drain.ring.struAlarmMotionDetect.set
          program.main.drain.ring.dwAlarmMotionDetectWr.toNat record tracks.counted.wr_lt
        dwAlarmMotionDetectWr := moved } } = drain at called
    rcases Drain.callback_frame called with ⟨published, released, pass, presented⟩
    rw [accepted] at published
    have history : SameHistory (state.shared.afterStore record .advance ring).drain drain := by
      refine ⟨tracks.history.pass.trans pass.symm, ?_, tracks.history.released.trans released.symm,
        tracks.history.presented.trans presented.symm⟩
      rw [published, ← tracks.history.published]
      rfl
    refine ⟨[.callback call], program.withDrain drain,
      .snoc .nil ⟨?_, Program.limited_other rfl (history.bounded limit)⟩, ?_⟩
    · change ((program.main.drain.callback call).map _).map _ = _
      rw [called]
      rfl
    · refine ⟨?_, history, tracks.counting, tracks.counted.callback called,
        tracks.faithful.callback (tracks.history.bounded tracks.bounded) tracks.counted called,
        ⟨_, consistentAfter⟩, ?_, ?_, ?_⟩
      · rw [unsignalled_withShared, tracks.same]
        rfl
      · intro other pending next
        cases next
        exact ⟨call, accepted⟩
      · rw [unrecorded, ← arrived, arrivals_callback, accepted]
        exact List.append_nil _
      · rw [arrivals_callback, accepted, tracks.published]
        exact published.symm
  · have drain : (state.shared.afterStore record pending ring).drain = { state.program.main.drain with ring := ring } :=
      if_neg publishes
    have history : SameHistory (state.shared.afterStore record pending ring).drain program.main.drain := by
      rw [drain]
      exact ⟨tracks.history.pass, tracks.history.published, tracks.history.released, tracks.history.presented⟩
    refine ⟨[], program, .nil, ?_, history, ?_, tracks.counted, tracks.faithful, ⟨_, consistentAfter⟩, ?_, ?_, ?_⟩
    · rw [unsignalled_withShared]
      exact tracks.same
    · intro inOrder counting
      rcases tracks.counting inOrder counting with ⟨stage, task, pass⟩
      exact ⟨stage, task, (congrArg Drain.pass drain).trans pass⟩
    · intro other pending next
      rcases Option.map_eq_some_iff.mp next with ⟨later, -, same⟩
      cases same
      exact tracks.entered record _ here
    · rw [unrecorded, ← arrived, List.append_nil]
      cases pending with
      | advance => exact absurd rfl publishes
      | devInfo => rfl
      | channel => rfl
      | time => rfl
      | wrap => rfl
    · rw [List.append_nil]
      exact tracks.published

theorem filterMap_other {event : Event} (other : event.record = none) :
    (events ++ [event]).filterMap Event.record = events.filterMap Event.record := by
  rw [List.filterMap_append, List.filterMap_cons_none other]
  exact List.append_nil _

theorem arrivals_other {event : MainLoop.Event} (other : MainLoop.arrivals [event] = []) :
    MainLoop.arrivals (atomics ++ [event]) = MainLoop.arrivals atomics := by
  rw [MainLoop.arrivals_append, other, List.append_nil]

/-- A step of `main` that is no part of a count is the same step. -/
theorem next {outcome : WriteOutcome} (tracks : Tracks world events state atomics program) (idle : state.compared = none)
    (elsewhere : ¬ (state.program.AtHead ∧ state.program.main.serviceRun = true)) {moved : Program}
    (ran : state.program.next world outcome = .ok moved) (limit : moved.main.drain.Bounded) (written : writes outcome) :
    exists next, Run (Program.permittedStep world (Program.limited writes)) program [.main outcome] next ∧
      Tracks world (events ++ [.main outcome]) { state with program := moved } (atomics ++ [.main outcome]) next := by
  rcases tracks.consistent with ⟨trace, consistent⟩
  have visible : state.unsignalled = state.program := by rw [unsignalled, idle]
  have same := tracks.same
  rw [visible] at same
  rcases Program.next_same tracks.history consistent.faithful tracks.faithful tracks.bounded elsewhere ran with
    ⟨drain, ranToo, history, rings⟩
  rw [← same] at ranToo
  refine ⟨moved.withDrain drain, .snoc .nil ⟨ranToo, ?_, history.bounded limit⟩, ?_⟩
  · intro other equal
    cases equal
    exact written
  · have kept : Drain.Counted drain ∧ Drain.Faithful world.localtimeR drain ∧
        drain.published = program.main.drain.published ∧
        exists trace, Interleaved.Consistent world.localtimeR
          { drain := moved.main.drain, producer := state.producer, trace := trace } := by
      rcases rings with ⟨unmoved, rfl⟩ | ⟨behind, consumed, consumedToo⟩
      · refine ⟨tracks.counted, tracks.faithful, rfl, trace, ?_⟩
        rw [unmoved]
        exact consistent
      · refine ⟨tracks.counted.consume consumedToo, ?_, (Drain.consume_frame consumedToo).1, ?_⟩
        · rcases tracks.faithful.consume (tracks.history.bounded tracks.bounded)
            (fun head => absurd (tracks.history.pass.trans head) behind) with ⟨next, consumedAgain, faithful⟩
          cases consumedToo.symm.trans consumedAgain
          exact faithful
        · rcases consistent.consume (fun head => absurd head behind) with ⟨next, consumedAgain, keeps⟩
          cases consumed.symm.trans consumedAgain
          exact ⟨_, keeps limit⟩
    rcases kept with ⟨counted, faithful, published, consistentAfter⟩
    refine ⟨?_, history, ?_, counted, faithful, consistentAfter, tracks.entered, ?_, ?_⟩
    · rw [unsignalled, idle]
      rfl
    · intro inOrder counting
      cases idle.symm.trans counting
    · rw [filterMap_other rfl, arrivals_other rfl]
      exact tracks.arrived
    · rw [arrivals_other rfl, tracks.published]
      exact published.symm

/-- The comparison leaves everything for the subtraction to do. -/
theorem compare {outcome : WriteOutcome} (tracks : Tracks world events state atomics program)
    (idle : state.compared = none) (head : state.program.AtHead) (running : state.program.main.serviceRun = true)
    (inOrder : Bool) : Tracks world (events ++ [.main outcome]) { state with compared := some inOrder } atomics program := by
  refine ⟨?_, tracks.history, fun _ _ => head, tracks.counted, tracks.faithful, tracks.consistent, tracks.entered, ?_,
    tracks.published⟩
  · have same := tracks.same
    rw [unsignalled, idle] at same
    rw [same, unsignalled, ← running]
    rfl
  · rw [filterMap_other rfl]
    exact tracks.arrived

/-- A count that is finished in time is the count of the atomic run. -/
theorem count {outcome : WriteOutcome} {inOrder : Bool} (tracks : Tracks world events state atomics program)
    (counting : state.compared = some inOrder) (compared : inOrder = alarmNumTest state.program.main.drain.ring)
    (inRange : ¬ state.shared.Overtaken) (limit : (state.count inOrder).program.main.drain.Bounded)
    (written : writes outcome) :
    exists more next, Run (Program.permittedStep world (Program.limited writes)) program more next ∧
      Tracks world (events ++ [.main outcome]) (state.count inOrder) (atomics ++ more) next := by
  rcases tracks.consistent with ⟨trace, consistent⟩
  rcases tracks.counting inOrder counting with ⟨stage, task, head⟩
  have both := tracks.history
  have same := tracks.same
  rw [unsignalled, counting] at same
  -- both counts are the number of waiting alarms
  have waiting : program.main.drain.ring.hikDevGetAlarmNum.toNat =
      program.main.drain.published.length - program.main.drain.released := by
    have bounded := both.bounded tracks.bounded
    unfold Drain.Bounded at bounded
    rw [tracks.counted.num_eq]
    exact Nat.mod_eq_of_lt (by omega)
  have number : state.program.main.drain.ring.hikDevGetAlarmNum = program.main.drain.ring.hikDevGetAlarmNum := by
    apply UInt32.toNat_inj.mp
    rw [waiting, ← both.published, ← both.released]
    exact (consistent.num_eq_iff.mpr inRange).trans (Drain.waiting_length _)
  have counted : (state.count inOrder).program.main.drain =
      if state.program.main.drain.ring.hikDevGetAlarmNum = 0 then state.program.main.drain
      else { state.program.main.drain with pass := .dateTime state.program.main.drain.ring.hikDevGetAlarmNum 0 } := by
    rw [← alarmNumResult_test, ← compared]
    rfl
  have consumed : state.program.main.drain.consume world.localtimeR = .ok (state.count inOrder).program.main.drain := by
    rw [counted, Drain.consume, head]
  have consumes : exists drain, program.main.drain.consume world.localtimeR = .ok drain := Drain.consume_ok tracks.counted
  rcases consumes with ⟨drain, consumedToo⟩
  have history : SameHistory (state.count inOrder).program.main.drain drain := by
    have result := consumedToo
    rw [Drain.consume, ← both.pass, head] at result
    rw [counted, ← Except.ok.inj result, number]
    split
    · exact both
    · exact ⟨rfl, both.published, both.released, both.presented⟩
  have ran : program.next world outcome = .ok (program.withDrain drain) := by
    have inLoop : program.stage = .loop := by
      rw [same]
      exact stage
    have ring : program.main.task = .ring := by
      rw [same]
      exact task
    have running : program.main.serviceRun = true := by rw [same]; rfl
    have pass : program.main.drain.pass = .head := both.pass.symm.trans head
    rw [Program.next, inLoop]
    dsimp only
    rw [Program.serve, ring]
    dsimp only
    rw [MainLoop.next, ring]
    dsimp only
    rw [if_neg (fun stopped => Bool.noConfusion (stopped.2.symm.trans running)), MainLoop.ringCall, consumedToo, pass]
    rfl
  have mainStep : Run (Program.permittedStep world (Program.limited writes)) program [.main outcome]
      (program.withDrain drain) := by
    refine .snoc .nil ⟨ran, ?_, history.bounded limit⟩
    intro other equal
    cases equal
    exact written
  have kept : Drain.Faithful world.localtimeR drain := by
    rcases tracks.faithful.consume (both.bounded tracks.bounded) (fun _ => waiting) with ⟨next, consumedAgain, faithful⟩
    cases consumedToo.symm.trans consumedAgain
    exact faithful
  rcases consistent.consume (fun _ => inRange) with ⟨next, consumedAgain, keeps⟩
  cases consumed.symm.trans consumedAgain
  -- a signal that has come in the meantime follows
  have reached : exists more, MainLoop.arrivals more = [] ∧
      Run (Program.permittedStep world (Program.limited writes)) program more (state.program.withDrain drain) := by
    cases running : state.program.main.serviceRun with
    | true =>
        refine ⟨[.main outcome], rfl, ?_⟩
        have unchanged : state.program.withDrain drain = program.withDrain drain := by
          rw [same, ← running]
          rfl
        rw [unchanged]
        exact mainStep
    | false =>
        have signalled : Program.step world (program.withDrain drain) .sigterm (state.program.withDrain drain) := by
          rw [same]
          change Except.ok { state.program with
            main := { state.program.main with drain := drain, serviceRun := false } } = _
          rw [← running]
          rfl
        exact ⟨[.main outcome, .sigterm], rfl,
          mainStep.snoc ⟨signalled, Program.limited_other rfl (history.bounded limit)⟩⟩
  rcases reached with ⟨more, none_new, run⟩
  refine ⟨more, _, run, rfl, history, fun other equal => (by cases equal), tracks.counted.consume consumedToo, kept,
    ⟨_, keeps limit⟩, tracks.entered, ?_, ?_⟩
  · rw [filterMap_other rfl, MainLoop.arrivals_append, none_new, List.append_nil]
    exact tracks.arrived
  · rw [MainLoop.arrivals_append, none_new, List.append_nil, tracks.published]
    exact (Drain.consume_frame consumedToo).1.symm

/-- What the driver takes, it takes from the atomic run as well. -/
theorem transmit {number : Nat} (tracks : Tracks world events state atomics program)
    (stepped : step world state (.transmit number) after) :
    exists next, Run (Program.permittedStep world (Program.limited writes)) program [.transmit number] next ∧
      Tracks world (events ++ [.transmit number]) after (atomics ++ [.transmit number]) next := by
  cases stepped
  refine ⟨{ program with main := { program.main with msgModuleCom := program.main.msgModuleCom.transmit number } },
    .snoc .nil ⟨rfl, Program.limited_other rfl (tracks.history.bounded tracks.bounded)⟩, ?_, tracks.history,
    tracks.counting, tracks.counted, tracks.faithful, tracks.consistent, tracks.entered, ?_, ?_⟩
  · rw [tracks.same]
    unfold unsignalled
    cases state.compared with
    | none => rfl
    | some inOrder => rfl
  · rw [filterMap_other rfl, arrivals_other rfl]
    exact tracks.arrived
  · rw [arrivals_other rfl]
    exact tracks.published

/-- A signal in the middle of a count waits for its end. -/
theorem sigterm (tracks : Tracks world events state atomics program) (stepped : step world state .sigterm after) :
    exists more next, Run (Program.permittedStep world (Program.limited writes)) program more next ∧
      Tracks world (events ++ [.sigterm]) after (atomics ++ more) next := by
  cases stepped
  have arrived : MainLoop.arrivals atomics ++ Interleaved.unpublished state.producer =
      (events ++ [Event.sigterm]).filterMap Event.record := by
    rw [filterMap_other rfl]
    exact tracks.arrived
  have same := tracks.same
  cases idle : state.compared with
  | none =>
      refine ⟨[.sigterm], { program with main := { program.main with serviceRun := false } },
        .snoc .nil ⟨rfl, Program.limited_other rfl (tracks.history.bounded tracks.bounded)⟩, ?_, tracks.history, nofun,
        tracks.counted, tracks.faithful, tracks.consistent, tracks.entered, ?_, ?_⟩
      · rw [unsignalled, idle] at same
        rw [same]
        rfl
      · rw [arrivals_other rfl]
        exact arrived
      · rw [arrivals_other rfl]
        exact tracks.published
  | some inOrder =>
      have head := tracks.counting inOrder idle
      refine ⟨[], program, .nil, ?_, tracks.history, fun _ _ => head, tracks.counted, tracks.faithful, tracks.consistent,
        tracks.entered, ?_, ?_⟩
      · rw [unsignalled, idle] at same
        exact same
      · rw [List.append_nil]
        exact arrived
      · rw [List.append_nil]
        exact tracks.published

/-- Every step is a run of the program with atomic callbacks, often an empty one. -/
theorem step {event : Event} (tracks : Tracks world events state atomics program)
    (stepped : onTimeStep world writes state event after) :
    exists more next, Run (Program.permittedStep world (Program.limited writes)) program more next ∧
      Tracks world (events ++ [event]) after (atomics ++ more) next := by
  rcases stepped with ⟨stepped, onTime⟩
  cases event with
  | enter call =>
      refine ⟨[], program, .nil, ?_⟩
      rw [List.append_nil]
      exact tracks.enter stepped
  | store => exact tracks.store stepped onTime.bounded
  | main outcome =>
      have moved := eq_ok_of_mapError_eq_ok stepped
      unfold Preempted.next at moved
      cases idle : state.compared with
      | some inOrder =>
          rw [idle] at moved
          cases moved
          rcases onTime.compared outcome inOrder rfl idle with ⟨compared, inRange⟩
          exact tracks.count idle compared inRange onTime.bounded (onTime.writes outcome rfl)
      | none =>
          rw [idle] at moved
          dsimp only at moved
          split at moved
          · rename_i head
            cases moved
            refine ⟨[], program, .nil, ?_⟩
            rw [List.append_nil]
            exact tracks.compare idle head.1 head.2 _
          · rename_i elsewhere
            rcases exists_of_map_eq_ok moved with ⟨next, ran, rfl⟩
            rcases tracks.next idle elsewhere ran onTime.bounded (onTime.writes outcome rfl) with ⟨atomic, run, tracked⟩
            rw [idle] at tracked
            exact ⟨_, atomic, run, tracked⟩
  | transmit number =>
      rcases tracks.transmit stepped with ⟨next, run, tracked⟩
      exact ⟨_, next, run, tracked⟩
  | sigterm => exact tracks.sigterm stepped

end Tracks

theorem tracked (run : Run (onTimeStep world writes) (start runDirectory) events state) :
    exists atomics program,
      Run (Program.permittedStep world (Program.limited writes)) (Program.start runDirectory) atomics program ∧
        Tracks world events state atomics program :=
  run.simulated (Tracks world) (Tracks.start world runDirectory) (fun _ _ _ _ _ _ tracks stepped => tracks.step stepped)

/-- Everything but the contents of the ring is as in this program, and a signal that
comes during a count is still to come there. -/
structure LooksLike (state : Preempted) (program : Program) : Prop where
  rest : state.program = { program with
    main := { program.main with drain := state.program.main.drain, serviceRun := state.program.main.serviceRun } }
  history : SameHistory state.program.main.drain program.main.drain
  signal : state.compared = none -> program.main.serviceRun = state.program.main.serviceRun

/-- The scheduler may run this event: callbacks do not overlap. -/
def Scheduled (state : Preempted) : Event -> Prop
  | .enter _ => state.producer = none
  | .store => state.producer ≠ none
  | _ => True

namespace Tracks

theorem looksLike (tracks : Tracks world events state atomics program) : state.LooksLike program := by
  refine ⟨?_, tracks.history, ?_⟩
  · rw [tracks.same]
    unfold unsignalled
    cases state.compared with
    | none => rfl
    | some inOrder => rfl
  · intro idle
    rw [tracks.same, unsignalled, idle]
    rfl

/-- Cutting the callbacks at their stores adds no fault. -/
theorem proceeds {event : Event} (tracks : Tracks world events state atomics program) (scheduled : state.Scheduled event)
    (returns : forall outcome, exists next, program.next world outcome = .ok next) :
    exists after, Preempted.step world state event after := by
  rcases tracks.consistent with ⟨trace, consistent⟩
  cases event with
  | enter call =>
      have idle : state.producer = none := scheduled
      refine ⟨state.withShared { state.shared with producer := call.record.map (fun record => (record, .devInfo)) }, ?_⟩
      simp only [Preempted.step, advance, Interleaved.advance, shared, idle]
      rfl
  | store =>
      rcases Option.ne_none_iff_exists'.mp scheduled with ⟨⟨record, pending⟩, here⟩
      rcases consistent.store here with ⟨ring, written, -⟩
      have stored : state.program.main.drain.ring.store record pending = .ok ring := written
      refine ⟨state.withShared (state.shared.afterStore record pending ring), ?_⟩
      simp only [Preempted.step, advance, Interleaved.advance, shared, here, stored]
      rfl
  | main outcome =>
      cases idle : state.compared with
      | some inOrder =>
          refine ⟨state.count inOrder, ?_⟩
          simp only [Preempted.step, advance, Preempted.next, idle]
          rfl
      | none =>
          by_cases head : state.program.AtHead ∧ state.program.main.serviceRun = true
          · refine ⟨{ state with compared := some (alarmNumTest state.program.main.drain.ring) }, ?_⟩
            simp only [Preempted.step, advance, Preempted.next, idle, if_pos head]
            rfl
          · have same := tracks.same
            rw [unsignalled, idle] at same
            have consumes : state.program.main.drain.pass ≠ .head ->
                exists next, state.program.main.drain.consume world.localtimeR = .ok next := by
              intro behind
              rcases consistent.consume (fun here => absurd here behind) with ⟨next, consumed, -⟩
              exact ⟨next, consumed⟩
            rcases Program.next_proceeds consumes head (same ▸ returns outcome) with ⟨moved, ran⟩
            refine ⟨{ state with program := moved }, ?_⟩
            simp only [Preempted.step, advance, Preempted.next, idle, if_neg head, ran]
            rfl
  | transmit number => exact ⟨_, rfl⟩
  | sigterm => exact ⟨_, rfl⟩

end Tracks

/-! ## Whole runs -/

/-- A run of the program cut at its stores does what a run with atomic callbacks
does.  The callbacks that have reached their increment are those of the atomic run,
in the order in which they were entered. -/
theorem runs_as_atomic (run : Run (onTimeStep world writes) (start runDirectory) events state) :
    exists atomics program,
      Run (Program.permittedStep world (Program.limited writes)) (Program.start runDirectory) atomics program ∧
        MainLoop.arrivals atomics ++ Interleaved.unpublished state.producer = events.filterMap Event.record ∧
        state.LooksLike program ∧
        forall event, state.Scheduled event -> (forall outcome, exists next, program.next world outcome = .ok next) ->
          exists after, step world state event after := by
  rcases tracked run with ⟨atomics, program, atomicRun, tracks⟩
  exact ⟨atomics, program, atomicRun, tracks.arrived, tracks.looksLike, fun event scheduled => tracks.proceeds scheduled⟩

/-- The check of a step of `main` for writes that are taken in full. -/
def mainTimely (before : Preempted) (outcome : WriteOutcome) : Bool :=
  decide (outcome = .full) &&
    match before.compared with
    | none => true
    | some inOrder =>
        let ring := before.program.main.drain.ring
        decide (inOrder = alarmNumTest ring ∧
          ¬ (ring.dwAlarmMotionDetectWr = 32 ∧ ring.dwAlarmMotionDetectRd = 0))

/-- The check of `OnTime` for such writes. -/
def timely (before : Preempted) (event : Event) (after : Preempted) : Bool :=
  decide after.program.main.drain.Bounded &&
    match event with
    | .main outcome => before.mainTimely outcome
    | .enter _ | .store | .transmit _ | .sigterm => true

theorem onTime_of_timely {before : Preempted} {event : Event} (passed : timely before event after = true) :
    OnTime (fun outcome => outcome = .full) before event after := by
  rcases (Bool.and_eq_true _ _).mp passed with ⟨bounded, inTime⟩
  refine ⟨of_decide_eq_true bounded, ?_, ?_⟩
  · rintro outcome rfl
    exact of_decide_eq_true ((Bool.and_eq_true _ _).mp inTime).1
  · rintro outcome inOrder rfl counting
    have count := ((Bool.and_eq_true _ _).mp inTime).2
    rw [counting] at count
    have compared := of_decide_eq_true count
    exact compared

/-- An alarm whose stores fall between the last steps of the start, a second one
between the two readings of the first count, and a signal there. -/
def lobbyPreempted : List Event :=
  List.replicate 6 (.main .full) ++
    [.enter MainLoop.lobbyCall, .store, .store, .main .full, .store, .store, .main .full, .store] ++
    [.main .full, .enter MainLoop.lobbyCall, .store, .sigterm, .store, .main .full] ++
    List.replicate 7 (.main .full) ++ [.transmit 300]

theorem lobbyPreempted_run :
    exists state, Run (onTimeStep Program.lobbyWorld (fun outcome => outcome = .full)) (start .missing) lobbyPreempted state ∧
      (completeLines lineFeed state.program.main.msgModuleCom.transmitted).length = 1 := by
  have viewed : (lobbyPreempted.foldlM (checked (advance Program.lobbyWorld) .notScheduled timely) (start .missing)).map
      (fun state => (completeLines lineFeed state.program.main.msgModuleCom.transmitted).length) = .ok 1 := by
    decide +kernel
  rcases exists_of_map_eq_ok viewed with ⟨state, executed, number⟩
  refine ⟨state, (Run.of_checked executed).weaken ?_, number⟩
  intro before event after stepped
  exact ⟨stepped.1, onTime_of_timely stepped.2⟩

theorem lobby_runs_as_atomic :
    exists state atomics program,
      Run (onTimeStep Program.lobbyWorld (fun outcome => outcome = .full)) (start .missing) lobbyPreempted state ∧
      Run (Program.lineStep Program.lobbyWorld) (Program.start .missing) atomics program ∧ state.LooksLike program := by
  rcases lobbyPreempted_run with ⟨state, run, -⟩
  rcases runs_as_atomic run with ⟨atomics, program, atomicRun, -, looksLike, -⟩
  exact ⟨state, atomics, program, run, atomicRun, looksLike⟩

/-- What has been read stays the same when more alarms arrive. -/
theorem readOf_append {localtimeR : Int -> Tm} {tables : ResultSet} {arrived : List AlarmMotionDetect} {main : MainLoop}
    {messages : List (Bytes × List Char)} (of : Program.ReadOf localtimeR tables arrived main messages)
    (covered : main.drain.released ≤ arrived.length) (more : List AlarmMotionDetect) :
    Program.ReadOf localtimeR tables (arrived ++ more) main messages := by
  refine ⟨of.read, ?_, ?_⟩
  · have enough : messages.length ≤ (arrived.flatMap (notifications localtimeR tables)).length := by
      rw [← of.carries.length_eq]
      exact List.length_take_le' _ _
    rw [List.flatMap_append, List.take_append_of_le_length enough]
    exact of.carries
  · rw [List.take_append_of_le_length covered]
    exact of.complete

/-- The modem reads the notifications for the callbacks in the order in which they
were entered, however their stores fall between the steps of `main`. -/
theorem modem_reads_preempted {tables : ResultSet} (answers : world.Answers tables)
    (readable : forall row, row ∈ tables.loaded -> Readable row)
    (run : Run (onTimeStep world (fun outcome => outcome = .full)) (start runDirectory) events state) :
    exists messages,
      Program.ReadOf world.localtimeR tables (events.filterMap Event.record) state.program.main messages := by
  rcases tracked run with ⟨atomics, program, atomicRun, tracks⟩
  rcases Program.wire_of_run answers readable atomicRun with ⟨messages, of⟩
  have covered : program.main.drain.released ≤ (MainLoop.arrivals atomics).length := by
    rw [tracks.published]
    exact Nat.le_trans (Nat.le_add_right _ _) tracks.counted.covered
  have onEntered := readOf_append of covered (Interleaved.unpublished state.producer)
  rw [tracks.arrived] at onEntered
  rcases tracks.looksLike with ⟨rest, history, -⟩
  have port : state.program.main.msgModuleCom = program.main.msgModuleCom :=
    congrArg (fun program => program.main.msgModuleCom) rest
  have task : state.program.main.task = program.main.task := congrArg (fun program => program.main.task) rest
  refine ⟨messages, ?_, onEntered.carries, ?_⟩
  · rw [port]
    exact onEntered.read
  · rw [port, task, history.pass, history.released]
    exact onEntered.complete

theorem lobby_preempted_read :
    exists state messages,
      Run (onTimeStep Program.lobbyWorld (fun outcome => outcome = .full)) (start .missing) lobbyPreempted state ∧
      Program.ReadOf firstDayUtc lobby (lobbyPreempted.filterMap Event.record) state.program.main messages ∧
      messages.length = 1 := by
  rcases lobbyPreempted_run with ⟨state, run, number⟩
  rcases modem_reads_preempted Program.lobbyWorld_answers MainLoop.lobby_readable run with ⟨messages, of⟩
  refine ⟨state, messages, run, of, ?_⟩
  have size := congrArg List.length of.read
  rw [List.length_map, List.length_map, number] at size
  exact size.symm

/-- With texts that fit, every event that the scheduler may run finds both threads
able to go on. -/
theorem scheduled_step_returns {tables : ResultSet} {room : Nat} (within : Program.Within world tables room)
    (run : Run (onTimeStep world writes) (start runDirectory) events state) {event : Event}
    (scheduled : state.Scheduled event) : exists after, step world state event after := by
  rcases tracked run with ⟨atomics, program, atomicRun, tracks⟩
  exact tracks.proceeds scheduled (fun outcome => within.turn (atomicRun.weaken (fun _ _ _ stepped => stepped.1)) outcome)

theorem lobby_scheduled_step_returns :
    exists state,
      Run (onTimeStep Program.lobbyWorld (fun outcome => outcome = .full)) (start .missing) lobbyPreempted state ∧
      exists after, step Program.lobbyWorld state (.main .full) after := by
  rcases lobbyPreempted_run with ⟨state, run, -⟩
  exact ⟨state, run, scheduled_step_returns Program.lobby_within run trivial⟩

end Preempted

end Service
end MotionDetectAlarm
