import MotionDetectAlarm.HikDev.Drain

namespace MotionDetectAlarm
namespace HikDev

open Foundation

/-!
# What an unbounded backlog does to the ring

The producer never looks at the read index.  When it laps the consumer, the
two indices meet again and a full ring is taken for an empty one; a slot that
the consumer is reading can be written under its hands.  The results here say
exactly when that happens, in terms of the indices before the step and of the
number of callbacks that are scheduled.

`HikDevGetAlarmNum` itself reads the write index twice.  A callback that wraps
the index between the two reads makes the branch and the subtraction disagree.
-/

namespace Drain

/-- The number of callbacks among the scheduled ones that are accepted. -/
def arrivals (calls : List AlarmCallback) : Nat :=
  (calls.filterMap AlarmCallback.record).length

theorem arrivals_of_accepted {call : AlarmCallback} (accepted : call.Accepted) :
    arrivals [call] = 1 := by
  rcases call.accepted_iff.mp accepted with ⟨record, written⟩
  simp [arrivals, written]

/-- Run callbacks one after the other. -/
def land (drain : Drain) (calls : List AlarmCallback) : Except Fault Drain :=
  calls.foldlM callback drain

section Steps

variable {localtimeR : Int -> Tm} {drain next : Drain}

/-- In a state whose indices count, a callback runs to its end. -/
theorem callback_ok (counted : Counted drain) (call : AlarmCallback) :
    exists next, drain.callback call = .ok next ∧ Counted next ∧
      next.published.length = drain.published.length + arrivals [call] ∧
      next.released = drain.released ∧ next.pass = drain.pass ∧
      next.ring.dwAlarmMotionDetectRd = drain.ring.dwAlarmMotionDetectRd := by
  have called : exists next, drain.callback call = .ok next ∧
      next.ring.dwAlarmMotionDetectRd = drain.ring.dwAlarmMotionDetectRd := by
    cases accepted : call.record with
    | none => exact ⟨drain, callback_rejected accepted, rfl⟩
    | some record =>
        rcases callback_accepted accepted counted.wr_lt with ⟨moved, stored, -⟩
        exact ⟨_, stored, rfl⟩
  rcases called with ⟨next, called, sameRd⟩
  have frame := callback_frame called
  refine ⟨next, called, counted.callback called, ?_, frame.2.1, frame.2.2.1, sameRd⟩
  rw [frame.1, List.length_append]
  cases accepted : call.record <;> simp [arrivals, accepted]

/-- Any list of callbacks runs to its end and appends the accepted records. -/
theorem land_ok (localtimeR : Int -> Tm) (counted : Counted drain) (calls : List AlarmCallback) :
    exists final, drain.land calls = .ok final ∧ Counted final ∧
      Run (step localtimeR) drain (calls.map .callback) final ∧
      final.published = drain.published ++ calls.filterMap AlarmCallback.record ∧
      final.released = drain.released ∧ final.pass = drain.pass ∧
      final.ring.dwAlarmMotionDetectRd = drain.ring.dwAlarmMotionDetectRd := by
  induction calls using List.reverseRecOn with
  | nil => exact ⟨drain, rfl, counted, .nil, (List.append_nil _).symm, rfl, rfl, rfl⟩
  | append_singleton calls call ih =>
      rcases ih with ⟨middle, landed, kept, run, published, released, pass, rd⟩
      rcases callback_ok kept call with ⟨final, called, keptFinal, -, releasedFinal, passFinal, rdFinal⟩
      refine ⟨final, ?_, keptFinal, ?_, ?_, releasedFinal.trans released, passFinal.trans pass,
        rdFinal.trans rd⟩
      · rw [Drain.land, List.foldlM_append]
        change (Drain.land drain calls >>= fun middle => [call].foldlM Drain.callback middle) = _
        rw [landed]
        simp [bind, Except.bind, pure, Except.pure, called]
      · rw [List.map_append]
        exact .snoc run called
      · rw [(callback_frame called).1, published, List.append_assoc, List.filterMap_append]
        cases accepted : call.record <;> simp [accepted]

theorem landed_length {calls : List AlarmCallback}
    (published : next.published = drain.published ++ calls.filterMap AlarmCallback.record) :
    next.published.length = drain.published.length + arrivals calls := by
  rw [published, List.length_append, arrivals]

end Steps

/-- A motion alarm on the first channel. -/
def motionCall : AlarmCallback where
  lCommand := commAlarmV30
  pAlarmer := AlarmMotionDetect.zeroed.struAlarmDevInfo
  alarmInfo := { dwAlarmType := 3, byChannel := (Vector.replicate 64 0).set 0 1 }
  now := 0

theorem motionCall_accepted : motionCall.Accepted :=
  ⟨rfl, rfl, 0, by decide⟩

theorem arrivals_motionCall (count : Nat) : arrivals (List.replicate count motionCall) = count := by
  rcases motionCall.accepted_iff.mp motionCall_accepted with ⟨record, written⟩
  simp [arrivals, written]

/-! ## The count after an arrival -/

/-- Steps other than the release of a pass. -/
def holdingStep (localtimeR : Int -> Tm) : Drain -> Event -> Drain -> Prop :=
  Guarded (step localtimeR) (fun before event _ =>
    forall uiAlarmNum, before.pass = .release uiAlarmNum -> event ≠ .consume)

/-- Without a release, a run only adds its accepted callbacks to the history. -/
theorem holding_history {localtimeR : Int -> Tm} {drain final : Drain} {events : List Event}
    (run : Run (holdingStep localtimeR) drain events final) :
    final.released = drain.released ∧
      final.published.length = drain.published.length + (events.filterMap Event.record).length := by
  refine run.invariant_history (fun events final => final.released = drain.released ∧
      final.published.length = drain.published.length + (events.filterMap Event.record).length)
    ⟨rfl, rfl⟩ ?_
  intro events before event after held stepped
  rcases stepped with ⟨stepped, holding⟩
  cases event with
  | callback call =>
      have frame := callback_frame stepped
      refine ⟨frame.2.1.trans held.1, ?_⟩
      rw [frame.1, List.length_append, held.2, List.filterMap_append, List.length_append]
      cases accepted : call.record <;> simp [Event.record, accepted, Nat.add_assoc]
  | consume =>
      have frame := consume_frame stepped
      refine ⟨?_, ?_⟩
      · rcases consume_cases stepped with ⟨-, -, rfl⟩ | ⟨-, -, rfl⟩ | ⟨_, _, _, -, -, rfl⟩ |
          ⟨_, _, _, _, -, -, rfl⟩ | ⟨uiAlarmNum, here, -⟩
        · exact held.1
        · exact held.1
        · exact held.1
        · exact held.1
        · exact absurd rfl (holding uiAlarmNum here)
      · rw [frame.1, held.2]
        simp [Event.record]

/-- In every reachable state an accepted callback lowers the count exactly
when it moves the write index onto the read index.  The same coincidence
decides whether any number of arrivals without a release leave a count of
zero. -/
theorem arrival_keeps_count_iff (localtimeR : Int -> Tm) {events : List Event} {drain : Drain}
    (run : Run (step localtimeR) start events drain) :
    (forall call, call.Accepted ->
      exists next, step localtimeR drain (.callback call) next ∧
        (drain.ring.hikDevGetAlarmNum ≤ next.ring.hikDevGetAlarmNum ↔
          (drain.ring.dwAlarmMotionDetectWr.toNat + 1) % 32 ≠ drain.ring.dwAlarmMotionDetectRd.toNat)) ∧
    (forall later final, Run (holdingStep localtimeR) drain later final ->
      1 ≤ (later.filterMap Event.record).length ->
        (final.ring.hikDevGetAlarmNum ≠ 0 ↔
          (drain.ring.dwAlarmMotionDetectWr.toNat + (later.filterMap Event.record).length) % 32 ≠
            drain.ring.dwAlarmMotionDetectRd.toNat)) := by
  have counted := Counted.of_run run
  have covered := counted.covered
  constructor
  · intro call accepted
    rcases callback_ok counted call with ⟨next, called, kept, length, released, -, -⟩
    rw [arrivals_of_accepted accepted] at length
    refine ⟨next, called, ?_⟩
    rw [UInt32.le_iff_toNat_le, counted.num_eq, kept.num_eq, counted.wr_eq, counted.rd_eq, length, released]
    omega
  · intro later final held some_arrival
    have keptCounted : Counted final :=
      held.invariant Counted counted (fun _ _ _ kept stepped => kept.step stepped.1)
    rcases holding_history held with ⟨released, length⟩
    have number := keptCounted.num_eq
    rw [released, length] at number
    rw [Ne, ← UInt32.toNat_inj, number, counted.wr_eq, counted.rd_eq]
    simp only [UInt32.reduceToNat]
    omega

/-- Thirty-one alarms are waiting and the next one makes them invisible. -/
theorem thirtySecond_arrival_hides_all :
    exists drain next,
      Run (step firstDayUtc) start (List.replicate 31 (.callback motionCall)) drain ∧
      motionCall.Accepted ∧ step firstDayUtc drain (.callback motionCall) next ∧
      drain.ring.hikDevGetAlarmNum = 31 ∧ next.ring.hikDevGetAlarmNum = 0 := by
  rcases land_ok firstDayUtc Counted.start (List.replicate 31 motionCall) with
    ⟨drain, -, counted, run, published, released, -, -⟩
  rcases callback_ok counted motionCall with ⟨next, called, kept, lengthNext, releasedNext, -, -⟩
  have length := landed_length published
  rw [arrivals_motionCall] at length
  rw [arrivals_of_accepted motionCall_accepted] at lengthNext
  rw [List.map_replicate] at run
  have none_before : start.published.length = 0 := rfl
  have none_released : start.released = 0 := rfl
  have full : drain.ring.hikDevGetAlarmNum.toNat = 31 := by
    rw [counted.num_eq]
    omega
  have empty : next.ring.hikDevGetAlarmNum.toNat = 0 := by
    rw [kept.num_eq]
    omega
  exact ⟨drain, next, run, motionCall_accepted, called, UInt32.toNat_inj.mp full, UInt32.toNat_inj.mp empty⟩

/-- Three alarms and a pass over them, then two more. -/
def passAndTwo : List Event :=
  List.replicate 3 (.callback motionCall) ++ List.replicate 8 .consume ++ List.replicate 2 (.callback motionCall)

/-- Three alarms while `main` takes the number and makes its first reading. -/
def arrivalsInPass : List Event :=
  [.callback motionCall, .consume, .callback motionCall, .consume, .callback motionCall]

/-- The state between the two, and how far the second gets without a release. -/
theorem passAndTwo_run :
    exists drain final, Run (step firstDayUtc) start passAndTwo drain ∧
      (drain.released, drain.waiting.length) = (3, 2) ∧
      (drain.ring.dwAlarmMotionDetectRd, drain.ring.dwAlarmMotionDetectWr) = (3, 5) ∧
      Run (holdingStep firstDayUtc) drain arrivalsInPass final ∧ final.pass.snapshot = 3 := by
  have viewed : (passAndTwo.foldlM (advance firstDayUtc) start).map (fun drain =>
      ((drain.released, drain.waiting.length),
        (drain.ring.dwAlarmMotionDetectRd, drain.ring.dwAlarmMotionDetectWr),
        (arrivalsInPass.foldlM (checked (advance firstDayUtc) .diverges (fun before _ _ =>
          decide (before.pass = .head ∨ before.pass.finished < before.pass.snapshot))) drain).map
          (fun final => final.pass.snapshot))) = .ok ((3, 2), (3, 5), .ok 3) := by
    decide +kernel
  rcases exists_of_map_eq_ok viewed with ⟨drain, executed, parts⟩
  simp only [Prod.mk.injEq] at parts
  rcases exists_of_map_eq_ok parts.2.2 with ⟨final, ran, snapshot⟩
  refine ⟨drain, final, Run.of_foldlM executed, Prod.ext parts.1.1 parts.1.2, Prod.ext parts.2.1.1 parts.2.1.2,
    (Run.of_checked ran).weaken ?_, snapshot⟩
  intro before event after stepped
  refine ⟨stepped.1, ?_⟩
  intro uiAlarmNum here
  have reading := of_decide_eq_true stepped.2
  rw [here] at reading
  rcases reading with head | below
  · cases head
  · exact absurd below (Nat.lt_irrefl _)

/-- With two alarms waiting behind a full pass the next one keeps the count,
and three of them leave it above zero. -/
theorem arrivals_onto_waiting :
    exists drain next final,
      Run (step firstDayUtc) start passAndTwo drain ∧ (drain.released, drain.waiting.length) = (3, 2) ∧
      step firstDayUtc drain (.callback motionCall) next ∧
      drain.ring.hikDevGetAlarmNum ≤ next.ring.hikDevGetAlarmNum ∧
      Run (holdingStep firstDayUtc) drain arrivalsInPass final ∧ final.pass.snapshot = 3 ∧
      final.ring.hikDevGetAlarmNum ≠ 0 := by
  rcases passAndTwo_run with ⟨drain, final, run, held, indices, holding, snapshot⟩
  rcases arrival_keeps_count_iff firstDayUtc run with ⟨one, many⟩
  rcases one motionCall motionCall_accepted with ⟨next, called, counts⟩
  rcases Prod.mk.inj indices with ⟨rd, wr⟩
  rw [rd, wr] at counts
  have some_left := many arrivalsInPass final holding (by decide)
  rw [rd, wr] at some_left
  exact ⟨drain, next, final, run, held, called, counts.mpr (by decide), holding, snapshot,
    some_left.mpr (by decide)⟩

/-! ## Callbacks during `HikDevGetAlarmNum` -/

/-- The callbacks that land around the four reads of `HikDevGetAlarmNum`. -/
structure CountGaps where
  /-- Before the comparison reads the write index. -/
  beforeTest : List AlarmCallback
  /-- Between the two reads of the comparison. -/
  inTest : List AlarmCallback
  /-- Between the comparison and the first read of the returned expression. -/
  beforeResult : List AlarmCallback
  /-- Between the two reads of the returned expression. -/
  inResult : List AlarmCallback
  /-- After the last read, before the call is over. -/
  afterResult : List AlarmCallback

/-- `HikDevGetAlarmNum`, one read of a shared index at a time. -/
def getAlarmNumDuring (drain : Drain) (gaps : CountGaps) : Except Fault (UInt32 × Drain) := do
  let drain ← drain.land gaps.beforeTest
  let testWr := drain.ring.dwAlarmMotionDetectWr
  let drain ← drain.land gaps.inTest
  let testRd := drain.ring.dwAlarmMotionDetectRd
  let drain ← drain.land gaps.beforeResult
  if testWr ≥ testRd then
    let resultWr := drain.ring.dwAlarmMotionDetectWr
    let drain ← drain.land gaps.inResult
    let resultRd := drain.ring.dwAlarmMotionDetectRd
    let drain ← drain.land gaps.afterResult
    return (resultWr - resultRd, drain)
  else
    let resultRd := drain.ring.dwAlarmMotionDetectRd
    let drain ← drain.land gaps.inResult
    let resultWr := drain.ring.dwAlarmMotionDetectWr
    let drain ← drain.land gaps.afterResult
    return (alarmMotionDetectMax - resultRd + resultWr, drain)

/-- With no callback during the call, the four reads see one state. -/
theorem getAlarmNumDuring_quiet (drain : Drain) :
    drain.getAlarmNumDuring ⟨[], [], [], [], []⟩ = .ok (drain.ring.hikDevGetAlarmNum, drain) := by
  unfold getAlarmNumDuring AlarmRing.hikDevGetAlarmNum
  simp only [land, List.foldlM_nil, pure_bind]
  split <;> rfl

section Distance

variable {wr rd : UInt32} {released published : Nat}

/-- The subtraction of the first branch gives the number of waiting alarms
until the write index wraps, and an enormous one from then on. -/
theorem subtracted_toNat (wrEq : wr.toNat = published % 32) (rdEq : rd.toNat = released % 32)
    (covered : released ≤ published) (bounded : published ≤ released + 31) :
    ((wr - rd).toNat = published - released ∧ rd.toNat + (published - released) < 32) ∨
      (31 < (wr - rd).toNat ∧ 32 ≤ rd.toNat + (published - released)) := by
  have wrLt : wr.toNat < 32 := wrEq ▸ Nat.mod_lt _ (by decide)
  rw [UInt32.toNat_sub]
  rcases slot_of_near covered (show published < released + 32 by omega) with moved | ⟨wrapped, behind⟩
  · rw [← wrEq, ← rdEq] at moved
    exact Or.inl ⟨by omega, by omega⟩
  · rw [← wrEq, ← rdEq] at wrapped behind
    exact Or.inr ⟨by omega, by omega⟩

/-- The sum of the second branch gives the number of waiting alarms once the
write index has wrapped. -/
theorem added_toNat (wrEq : wr.toNat = published % 32) (rdEq : rd.toNat = released % 32)
    (covered : released ≤ published) (bounded : published ≤ released + 31)
    (wraps : 32 ≤ rd.toNat + (published - released)) :
    (alarmMotionDetectMax - rd + wr).toNat = published - released := by
  have wrLt : wr.toNat < 32 := wrEq ▸ Nat.mod_lt _ (by decide)
  have rdLt : rd.toNat < 32 := rdEq ▸ Nat.mod_lt _ (by decide)
  simp only [UInt32.toNat_add, UInt32.toNat_sub, alarmMotionDetectMax, UInt32.reduceToNat]
  rcases slot_of_near covered (show published < released + 32 by omega) with moved | ⟨wrapped, -⟩
  · rw [← wrEq, ← rdEq] at moved
    omega
  · rw [← wrEq, ← rdEq] at wrapped
    omega

end Distance

/-- The returned number lies between the numbers of waiting alarms at the two
ends of the call exactly when the write index does not pass the end of the
array between its two reads on the subtracting branch. -/
theorem count_call_within_iff (localtimeR : Int -> Tm) {events : List Event} {drain : Drain}
    (run : Run (step localtimeR) start events drain) (gaps : CountGaps) :
    exists value final, drain.getAlarmNumDuring gaps = .ok (value, final) ∧
      (final.Bounded ->
        let testWr := (drain.ring.dwAlarmMotionDetectWr.toNat + arrivals gaps.beforeTest) % 32
        ((drain.waiting.length ≤ value.toNat ∧ value.toNat ≤ final.waiting.length ∧ value.toNat ≤ 31) ↔
          ¬ (drain.ring.dwAlarmMotionDetectRd.toNat ≤ testWr ∧
            32 ≤ testWr + arrivals gaps.inTest + arrivals gaps.beforeResult))) := by
  have counted := Counted.of_run run
  have covered := counted.covered
  rcases land_ok localtimeR counted gaps.beforeTest with
    ⟨first, landed₁, counted₁, -, published₁, released₁, -, rd₁⟩
  rcases land_ok localtimeR counted₁ gaps.inTest with
    ⟨second, landed₂, counted₂, -, published₂, released₂, -, rd₂⟩
  rcases land_ok localtimeR counted₂ gaps.beforeResult with
    ⟨third, landed₃, counted₃, -, published₃, released₃, -, rd₃⟩
  rcases land_ok localtimeR counted₃ gaps.inResult with
    ⟨fourth, landed₄, counted₄, -, published₄, released₄, -, rd₄⟩
  rcases land_ok localtimeR counted₄ gaps.afterResult with
    ⟨final, landed₅, -, -, published₅, released₅, -, -⟩
  have length₁ := landed_length published₁
  have length₂ := landed_length published₂
  have length₃ := landed_length published₃
  have length₄ := landed_length published₄
  have length₅ := landed_length published₅
  have releasedFinal : final.released = drain.released := by
    rw [released₅, released₄, released₃, released₂, released₁]
  have testWr : first.ring.dwAlarmMotionDetectWr.toNat =
      (drain.ring.dwAlarmMotionDetectWr.toNat + arrivals gaps.beforeTest) % 32 := by
    rw [counted₁.wr_eq, length₁, counted.wr_eq, Nat.mod_add_mod]
  have resultRd : third.ring.dwAlarmMotionDetectRd = drain.ring.dwAlarmMotionDetectRd := by
    rw [rd₃, rd₂, rd₁]
  have rdEq := counted.rd_eq
  have waitingFirst := fun near : first.published.length < drain.released + 32 =>
    slot_of_near (show drain.released ≤ first.published.length by omega) near
  rw [← counted₁.wr_eq, ← rdEq] at waitingFirst
  simp only [getAlarmNumDuring, landed₁, landed₂, landed₃, landed₄, landed₅, bind, Except.bind, pure, Except.pure]
  by_cases ahead : first.ring.dwAlarmMotionDetectWr ≥ second.ring.dwAlarmMotionDetectRd
  · rw [if_pos ahead]
    refine ⟨_, _, rfl, ?_⟩
    intro bounded
    unfold Bounded at bounded
    have notBehind := UInt32.le_iff_toNat_le.mp ahead
    rw [rd₂, rd₁] at notBehind
    -- the branch was taken with the write index not yet wrapped
    have tested : first.ring.dwAlarmMotionDetectWr.toNat = drain.ring.dwAlarmMotionDetectRd.toNat +
        (first.published.length - drain.released) := by
      rcases waitingFirst (by omega) with moved | ⟨-, behind⟩
      · exact moved
      · exact absurd behind (Nat.not_lt.mpr notBehind)
    have value := subtracted_toNat counted₃.wr_eq rdEq (by omega) (show third.published.length ≤ _ by omega)
    simp only [waiting_length, releasedFinal, rd₄, resultRd, ← testWr]
    omega
  · rw [if_neg ahead]
    refine ⟨_, _, rfl, ?_⟩
    intro bounded
    unfold Bounded at bounded
    have behind := Nat.lt_of_not_le (fun le => ahead (UInt32.le_iff_toNat_le.mpr le))
    rw [rd₂, rd₁] at behind
    have wrapped : first.ring.dwAlarmMotionDetectWr.toNat + 32 = drain.ring.dwAlarmMotionDetectRd.toNat +
        (first.published.length - drain.released) := by
      rcases waitingFirst (by omega) with moved | ⟨wrapped, -⟩
      · omega
      · exact wrapped
    have value := added_toNat counted₄.wr_eq rdEq (by omega) (show fourth.published.length ≤ _ by omega) (by omega)
    simp only [waiting_length, releasedFinal, resultRd, ← testWr, value]
    omega

/-- One alarm handled, then thirty more: the write index is at 31, the read
index at 1. -/
def nearTheEnd : List Event :=
  .callback motionCall :: List.replicate 4 .consume ++ List.replicate 30 (.callback motionCall)

/-- A callback that wraps the write index inside the call turns thirty waiting
alarms into more than four thousand million. -/
theorem wrap_inside_count_call :
    exists drain value final, Run (step firstDayUtc) start nearTheEnd drain ∧
      drain.getAlarmNumDuring ⟨[], [], [motionCall], [], []⟩ = .ok (value, final) ∧
      final.Bounded ∧ final.waiting.length = 31 ∧ value = 4294967295 := by
  have viewed : (nearTheEnd.foldlM (advance firstDayUtc) start).map
      (fun drain => (drain.getAlarmNumDuring ⟨[], [], [motionCall], [], []⟩).map
        (fun result => (result.1, result.2.published.length, result.2.released))) =
      .ok (.ok (4294967295, 32, 1)) := by
    decide +kernel
  rcases exists_of_map_eq_ok viewed with ⟨drain, executed, counted⟩
  rcases exists_of_map_eq_ok counted with ⟨⟨value, final⟩, called, parts⟩
  simp only [Prod.mk.injEq] at parts
  refine ⟨drain, value, final, Run.of_foldlM executed, called, ?_, ?_, parts.1⟩
  · unfold Bounded
    omega
  · rw [waiting_length]
    omega

/-- Callbacks in four of the five gaps. -/
def busyGaps : CountGaps where
  beforeTest := [motionCall]
  inTest := [motionCall]
  beforeResult := []
  inResult := [motionCall, motionCall]
  afterResult := [motionCall]

/-- Two alarms wait before the call and seven after it, and the number lies
between. -/
theorem count_call_over_arrivals :
    exists drain value final,
      Run (step firstDayUtc) start passAndTwo drain ∧ drain.getAlarmNumDuring busyGaps = .ok (value, final) ∧
      drain.waiting.length = 2 ∧ final.waiting.length = 7 ∧ 2 ≤ value.toNat ∧ value.toNat ≤ 7 := by
  have viewed : (passAndTwo.foldlM (advance firstDayUtc) start).map (fun drain =>
      (drain.waiting.length, (drain.ring.dwAlarmMotionDetectRd, drain.ring.dwAlarmMotionDetectWr),
        (drain.getAlarmNumDuring busyGaps).map
          (fun result => (result.2.published.length, result.2.released)))) = .ok (2, (3, 5), .ok (10, 3)) := by
    decide +kernel
  rcases exists_of_map_eq_ok viewed with ⟨drain, executed, parts⟩
  simp only [Prod.mk.injEq] at parts
  rcases parts with ⟨waiting, ⟨rd, wr⟩, counted⟩
  have run : Run (step firstDayUtc) start passAndTwo drain := Run.of_foldlM executed
  rcases count_call_within_iff firstDayUtc run busyGaps with ⟨value, final, called, exact_iff⟩
  rw [called] at counted
  have published : final.published.length = 10 := (Prod.mk.inj (Except.ok.inj counted)).1
  have released : final.released = 3 := (Prod.mk.inj (Except.ok.inj counted)).2
  have seven : final.waiting.length = 7 := by
    rw [waiting_length]
    omega
  have bounded : final.Bounded := by
    unfold Bounded
    omega
  rw [rd, wr] at exact_iff
  have within := (exact_iff bounded).mpr (by decide)
  rw [waiting, seven] at within
  exact ⟨drain, value, final, run, called, waiting, seven, within.1, within.2.1⟩

/-! ## Two readings of one slot -/

/-- The number of the callback that last wrote the slot an accessor reads. -/
def slotWriter (drain : Drain) (uiAlarmIdx : UInt32) : Option Nat :=
  (drain.writer[(drain.ring.slotIdx uiAlarmIdx).toNat]?).join

/-- The last 32 callbacks are the writers of the slots, and the slots hold
their records. -/
structure Attributed (drain : Drain) : Prop where
  writers : Window drain.writer ((List.range drain.published.length).map some)
    (drain.published.length - 32)
  records : Window drain.ring.struAlarmMotionDetect drain.published (drain.published.length - 32)

/-- The most recent number that shares a slot with `number`. -/
def latest (published number : Nat) : Nat :=
  number + 32 * ((published - 1 - number) / 32)

theorem latest_spec {published number : Nat} (below : number < published) :
    latest published number < published ∧ published ≤ latest published number + 32 ∧
      latest published number % 32 = number % 32 := by
  unfold latest
  omega

namespace Attributed

variable {localtimeR : Int -> Tm} {drain next : Drain}

theorem start : Attributed Drain.start where
  writers := Window.nil _ _
  records := Window.nil _ _

theorem callback {call : AlarmCallback} (attributed : Attributed drain) (counted : Counted drain)
    (called : drain.callback call = .ok next) : Attributed next := by
  rcases callback_cases counted.wr_lt called with ⟨-, rfl⟩ | ⟨record, moved, -, -, rfl⟩
  · exact attributed
  · have older : drain.published.length - 32 ≤ (drain.published ++ [record]).length - 32 := by
      simp only [List.length_append, List.length_singleton]
      omega
    have room : drain.published.length < (drain.published ++ [record]).length - 32 + 32 := by
      simp only [List.length_append, List.length_singleton]
      omega
    constructor
    · have wrEq : drain.ring.dwAlarmMotionDetectWr.toNat =
          ((List.range drain.published.length).map some).length % 32 := by
        rw [counted.wr_eq, List.length_map, List.length_range]
      have kept := (attributed.writers.mono older).store
        (by rw [List.length_map, List.length_range]; exact room)
        (some drain.published.length) wrEq counted.wr_lt
      have history : (List.range (drain.published ++ [record]).length).map some =
          (List.range drain.published.length).map some ++ [some drain.published.length] := by
        rw [List.length_append, List.length_singleton, List.range_succ, List.map_append]
        rfl
      have inside : drain.writer.setIfInBounds drain.ring.dwAlarmMotionDetectWr.toNat
          (some drain.published.length) =
          drain.writer.set drain.ring.dwAlarmMotionDetectWr.toNat (some drain.published.length)
            counted.wr_lt := by
        ext j inArray
        rw [Vector.getElem_setIfInBounds, Vector.getElem_set]
      simp only [publish, inside]
      rw [history]
      exact kept
    · exact (attributed.records.mono older).store room record counted.wr_eq counted.wr_lt

theorem consume (attributed : Attributed drain) (consumed : drain.consume localtimeR = .ok next) :
    Attributed next := by
  have frame := consume_frame consumed
  constructor
  · rw [frame.1, frame.2.1]
    exact attributed.writers
  · rw [frame.1, frame.2.2.1]
    exact attributed.records

theorem of_run {events : List Event} (run : Run (Drain.step localtimeR) Drain.start events drain) :
    Attributed drain := by
  have both := run.invariant (fun drain => Counted drain ∧ Attributed drain)
    ⟨Counted.start, Attributed.start⟩ (by
      intro before event after held stepped
      refine ⟨held.1.step stepped, ?_⟩
      cases event with
      | callback call => exact held.2.callback held.1 stepped
      | consume => exact held.2.consume stepped)
  exact both.2

/-- An accessor reads the record of the latest callback on its slot. -/
theorem reads (attributed : Attributed drain) (counted : Counted drain) (i : UInt32)
    (small : i.toNat < 32) (below : drain.released + i.toNat < drain.published.length) :
    drain.slotWriter i = some (latest drain.published.length (drain.released + i.toNat)) ∧
      exists record, drain.published[latest drain.published.length (drain.released + i.toNat)]? =
        some record ∧ drain.ring.readSlot i = .ok record := by
  rcases latest_spec below with ⟨inLog, recent, slot⟩
  have index : (drain.ring.slotIdx i).toNat =
      latest drain.published.length (drain.released + i.toNat) % 32 := by
    rw [slotIdx_toNat counted.rd_lt small, counted.rd_eq, Nat.mod_add_mod, slot]
  have written := attributed.writers (latest drain.published.length (drain.released + i.toNat))
    (by omega) (by rw [List.length_map, List.length_range]; exact inLog)
  have stored := attributed.records (latest drain.published.length (drain.released + i.toNat))
    (by omega) inLog
  constructor
  · rw [slotWriter, index, written]
    simp [inLog]
  · refine ⟨_, List.getElem?_eq_getElem inLog, ?_⟩
    rw [AlarmRing.readSlot, index, stored, List.getElem?_eq_getElem inLog]

end Attributed

/-- Between the two readings of one alarm any number of callbacks may land.
Both readings come from the same callback exactly when these are too few to
bring the write index past the slot that is being read. -/
theorem same_callback_iff (localtimeR : Int -> Tm) {events : List Event} {drain : Drain}
    (run : Run (step localtimeR) start events drain) {uiAlarmNum i : UInt32}
    (here : drain.pass = .dateTime uiAlarmNum i) (calls : List AlarmCallback) :
    exists read between final strAlarmIp,
      step localtimeR drain .consume between ∧ between.pass = .ip uiAlarmNum i read ∧
      Run (step localtimeR) between (calls.map .callback) final ∧
      final.pass = .ip uiAlarmNum i read ∧ final.ring.hikDevGetAlarmIp i [] = .ok strAlarmIp ∧
      ((exists number record, drain.slotWriter i = some number ∧ final.slotWriter i = some number ∧
          final.published[number]? = some record ∧
          read = record.dateTime localtimeR ∧ strAlarmIp = record.ip) ↔
        arrivals calls ≤ (drain.ring.dwAlarmMotionDetectRd.toNat + i.toNat + 32 -
          drain.ring.dwAlarmMotionDetectWr.toNat) % 32) := by
  have counted := Counted.of_run run
  have attributed := Attributed.of_run run
  have covered := counted.covered
  have small := counted.small
  have inRange := counted.inRange
  simp only [here, Pass.snapshot, Pass.InRange] at covered small inRange
  rcases attributed.reads counted i (by omega) (by omega) with ⟨writer, record, listed, found⟩
  let between : Drain := { drain with pass := .ip uiAlarmNum i (record.dateTime localtimeR) }
  have consumed : drain.consume localtimeR = .ok between := by
    rw [consume, here]
    simp only [hikDevGetAlarmDateTime_ok localtimeR found]
    rfl
  have countedBetween := counted.consume consumed
  rcases land_ok localtimeR countedBetween calls with
    ⟨final, -, countedFinal, landed, published, released, pass, rd⟩
  have stepped : step localtimeR drain .consume between := consumed
  have attributedFinal := Attributed.of_run ((run.snoc stepped).append landed)
  have length : final.published.length = drain.published.length + arrivals calls := landed_length published
  have releasedDrain : final.released = drain.released := released
  rcases attributedFinal.reads countedFinal i (by omega) (by omega) with
    ⟨writerFinal, recordFinal, listedFinal, foundFinal⟩
  refine ⟨record.dateTime localtimeR, between, final, recordFinal.ip, consumed, rfl, landed, pass,
    hikDevGetAlarmIp_ok foundFinal, ?_⟩
  have below : drain.released + i.toNat < drain.published.length := by omega
  have belowFinal : final.released + i.toNat < final.published.length := by omega
  have recent := latest_spec below
  have recentFinal := latest_spec belowFinal
  -- the callback number on the slot is unchanged exactly when no later number shares it
  have unchanged : latest final.published.length (final.released + i.toNat) =
        latest drain.published.length (drain.released + i.toNat) ↔
      arrivals calls ≤ (drain.ring.dwAlarmMotionDetectRd.toNat + i.toNat + 32 -
        drain.ring.dwAlarmMotionDetectWr.toNat) % 32 := by
    rw [counted.rd_eq, counted.wr_eq]
    rw [releasedDrain] at recentFinal ⊢
    omega
  rw [← unchanged]
  constructor
  · rintro ⟨number, _, first, second, -⟩
    rw [writer] at first
    rw [writerFinal] at second
    exact Option.some.inj (second.trans first.symm)
  · intro same
    have sameRecord : recordFinal = record := by
      rw [same, published] at listedFinal
      rw [List.getElem?_append_left recent.1] at listedFinal
      exact Option.some.inj (listedFinal.symm.trans listed)
    exact ⟨_, recordFinal, writer, by rw [writerFinal, same], by rw [← same]; exact listedFinal,
      by rw [sameRecord], rfl⟩

/-- `main` has counted one alarm and is about to read it. -/
def aboutToRead : List Event := [.callback motionCall, .consume]

/-- The state that `aboutToRead` leads to. -/
theorem aboutToRead_run :
    exists drain, Run (step firstDayUtc) start aboutToRead drain ∧ drain.pass = .dateTime 1 0 ∧
      drain.ring.dwAlarmMotionDetectRd = 0 ∧ drain.ring.dwAlarmMotionDetectWr = 1 := by
  have viewed : (aboutToRead.foldlM (advance firstDayUtc) start).map
      (fun drain => (drain.pass, drain.ring.dwAlarmMotionDetectRd, drain.ring.dwAlarmMotionDetectWr)) =
      .ok (.dateTime 1 0, 0, 1) := by
    decide
  rcases exists_of_map_eq_ok viewed with ⟨drain, executed, parts⟩
  simp only [Prod.mk.injEq] at parts
  exact ⟨drain, Run.of_foldlM executed, parts⟩

/-- Thirty-two callbacks between the two readings: the date and time are those
of the first alarm, the address that of the thirty-third. -/
theorem readings_of_two_callbacks :
    exists drain between final,
      Run (step firstDayUtc) start aboutToRead drain ∧ drain.pass = .dateTime 1 0 ∧
      step firstDayUtc drain .consume between ∧
      Run (step firstDayUtc) between (List.replicate 32 (.callback motionCall)) final ∧
      drain.slotWriter 0 = some 0 ∧ final.slotWriter 0 = some 32 := by
  have viewed : (aboutToRead.foldlM (advance firstDayUtc) start).map
      (fun drain => (drain.pass, drain.slotWriter 0, (drain.advance firstDayUtc .consume).map
        (fun between => ((List.replicate 32 (.callback motionCall)).foldlM (advance firstDayUtc) between).map
          (fun final => final.slotWriter 0)))) =
      .ok (.dateTime 1 0, some 0, .ok (.ok (some 32))) := by
    decide +kernel
  rcases exists_of_map_eq_ok viewed with ⟨drain, executed, parts⟩
  simp only [Prod.mk.injEq] at parts
  rcases parts with ⟨here, writer, consumed⟩
  rcases exists_of_map_eq_ok consumed with ⟨between, stepped, landed⟩
  rcases exists_of_map_eq_ok landed with ⟨final, ran, writerFinal⟩
  exact ⟨drain, between, final, Run.of_foldlM executed, here, stepped, Run.of_foldlM ran, writer, writerFinal⟩

/-- With a single callback in between, both readings are of one alarm. -/
theorem readings_of_one_callback :
    exists drain between final number, exists record : AlarmMotionDetect,
      Run (step firstDayUtc) start aboutToRead drain ∧
      step firstDayUtc drain .consume between ∧
      Run (step firstDayUtc) between [.callback motionCall] final ∧
      between.pass = .ip 1 0 (record.dateTime firstDayUtc) ∧
      final.ring.hikDevGetAlarmIp 0 [] = .ok record.ip ∧
      drain.slotWriter 0 = some number ∧ final.slotWriter 0 = some number := by
  rcases aboutToRead_run with ⟨drain, run, here, rd, wr⟩
  rcases same_callback_iff firstDayUtc run here [motionCall] with
    ⟨read, between, final, strAlarmIp, stepped, readPass, landed, -, ip, exact_iff⟩
  have few : arrivals [motionCall] ≤ (drain.ring.dwAlarmMotionDetectRd.toNat + (0 : UInt32).toNat + 32 -
      drain.ring.dwAlarmMotionDetectWr.toNat) % 32 := by
    rw [arrivals_of_accepted motionCall_accepted, rd, wr]
    decide
  rcases exact_iff.mpr few with ⟨number, record, writer, writerFinal, -, dated, address⟩
  exact ⟨drain, between, final, number, record, run, stepped, landed, dated ▸ readPass,
    address ▸ ip, writer, writerFinal⟩

end Drain

end HikDev
end MotionDetectAlarm
