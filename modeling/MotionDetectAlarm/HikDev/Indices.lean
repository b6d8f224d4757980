import MotionDetectAlarm.HikDev.Overrun

namespace MotionDetectAlarm
namespace HikDev

open Foundation

/-!
# The indices in every run

However far the producer runs ahead, the two indices stay inside the array and
the number taken at the head of the loop is the true backlog modulo the size of
the ring.  An accessor corrects its index by a single subtraction.  That is
enough because the read index is below the size and because the number taken
for the pass is, even when the backlog is not.  No call of the service loop
faults, so the readings may be wrong after an overrun but are never taken from
outside the array.
-/

/-- An accessor called with this index adds and corrects it without a wrap, and
reads inside the array. -/
structure AlarmRing.IndexValid (ring : AlarmRing) (uiAlarmIdx : UInt32) : Prop where
  added : (uiAlarmIdx + ring.dwAlarmMotionDetectRd).toNat = uiAlarmIdx.toNat + ring.dwAlarmMotionDetectRd.toNat
  corrected : uiAlarmIdx + ring.dwAlarmMotionDetectRd ≥ alarmMotionDetectMax ->
    (uiAlarmIdx + ring.dwAlarmMotionDetectRd - alarmMotionDetectMax).toNat =
      (uiAlarmIdx + ring.dwAlarmMotionDetectRd).toNat - alarmMotionDetectMax.toNat
  inArray : ring.slotIdx uiAlarmIdx < alarmMotionDetectMax
  dateTime : forall localtimeR, exists read, ring.hikDevGetAlarmDateTime localtimeR uiAlarmIdx = .ok read
  ip : forall strAlarmIp, exists out, ring.hikDevGetAlarmIp uiAlarmIdx strAlarmIp = .ok out
  devName : forall strAlarmDevName, exists out, ring.hikDevGetAlarmDevName uiAlarmIdx strAlarmDevName = .ok out

section Ring

variable {ring : AlarmRing} {uiAlarmIdx : UInt32}

theorem slotIdx_lt (rdLt : ring.dwAlarmMotionDetectRd.toNat < 32) (idxLt : uiAlarmIdx.toNat < 32) :
    (ring.slotIdx uiAlarmIdx).toNat < 32 := by
  rw [slotIdx_toNat rdLt idxLt]
  exact Nat.mod_lt _ (by decide)

theorem readSlot_inArray (rdLt : ring.dwAlarmMotionDetectRd.toNat < 32) (idxLt : uiAlarmIdx.toNat < 32) :
    exists slot, ring.readSlot uiAlarmIdx = .ok slot := by
  have inArray := slotIdx_lt rdLt idxLt
  exact ⟨ring.struAlarmMotionDetect[(ring.slotIdx uiAlarmIdx).toNat],
    by rw [AlarmRing.readSlot, Vector.getElem?_eq_getElem inArray]⟩

theorem AlarmRing.IndexValid.of_lt (rdLt : ring.dwAlarmMotionDetectRd.toNat < 32) (idxLt : uiAlarmIdx.toNat < 32) :
    ring.IndexValid uiAlarmIdx := by
  rcases readSlot_inArray rdLt idxLt with ⟨slot, found⟩
  refine ⟨?_, ?_, UInt32.lt_iff_toNat_lt.mpr (slotIdx_lt rdLt idxLt), ?_, ?_, ?_⟩
  · rw [UInt32.toNat_add]
    omega
  · exact UInt32.toNat_sub_of_le _ _
  · intro localtimeR
    exact ⟨_, hikDevGetAlarmDateTime_ok localtimeR found⟩
  · intro strAlarmIp
    exact ⟨_, by rw [AlarmRing.hikDevGetAlarmIp, found]; rfl⟩
  · intro strAlarmDevName
    exact ⟨_, by rw [AlarmRing.hikDevGetAlarmDevName, found]; rfl⟩

end Ring

namespace Drain

variable {localtimeR : Int -> Tm} {drain : Drain}

/-- The index of a call of the current pass is valid. -/
theorem Counted.indexValid (counted : Counted drain) {i : UInt32} (below : i.toNat < drain.pass.snapshot) :
    drain.ring.IndexValid i :=
  .of_lt counted.rd_lt (Nat.lt_trans below counted.small)

/-- In a state whose indices count, the next consumer call returns. -/
theorem consume_ok (counted : Counted drain) : exists next, drain.consume localtimeR = .ok next := by
  have inRange := counted.inRange
  have valid := fun i => counted.indexValid (i := i)
  unfold consume
  cases here : drain.pass with
  | head => exact ⟨_, rfl⟩
  | dateTime uiAlarmNum i =>
      rw [here] at inRange valid
      rcases (valid i inRange).dateTime localtimeR with ⟨read, called⟩
      simp only [called]
      exact ⟨_, rfl⟩
  | ip uiAlarmNum i read =>
      rw [here] at inRange valid
      rcases (valid i inRange).ip [] with ⟨strAlarmIp, called⟩
      simp only [called]
      exact ⟨_, rfl⟩
  | release uiAlarmNum => exact ⟨_, rfl⟩

/-- One event is carried out, and enters its record into the history. -/
theorem advance_ok (localtimeR : Int -> Tm) (counted : Counted drain) (event : Event) :
    exists next, drain.advance localtimeR event = .ok next ∧ Counted next ∧
      next.published = drain.published ++ event.record.toList := by
  cases event with
  | callback call =>
      rcases callback_ok counted call with ⟨next, called, kept, -⟩
      exact ⟨next, called, kept, (callback_frame called).1⟩
  | consume =>
      have called : exists next, drain.consume localtimeR = .ok next := consume_ok counted
      rcases called with ⟨next, consumed⟩
      exact ⟨next, consumed, counted.consume consumed,
        (consume_frame consumed).1.trans (List.append_nil _).symm⟩

/-- Every sequence of events is carried out, and the history holds the accepted
callbacks. -/
theorem run_ok (localtimeR : Int -> Tm) (events : List Event) :
    exists drain, events.foldlM (advance localtimeR) start = .ok drain ∧ Counted drain ∧
      drain.published = events.filterMap Event.record := by
  induction events using List.reverseRecOn with
  | nil => exact ⟨start, rfl, Counted.start, rfl⟩
  | append_singleton events event ih =>
      rcases ih with ⟨middle, reached, counted, published⟩
      rcases advance_ok localtimeR counted event with ⟨drain, advanced, kept, appended⟩
      refine ⟨drain, ?_, kept, ?_⟩
      · rw [List.foldlM_append, reached, ok_bind, List.foldlM_cons, advanced]
        rfl
      · rw [appended, published, List.filterMap_append]
        cases recorded : event.record <;> simp [recorded]

/-- In every run the indices are inside the array, the count is the number of
accepted callbacks less the number released, modulo the size, and the calls of
a pass use valid indices. -/
theorem indices_valid (localtimeR : Int -> Tm) (events : List Event) :
    exists drain, events.foldlM (advance localtimeR) start = .ok drain ∧
      drain.ring.dwAlarmMotionDetectWr < alarmMotionDetectMax ∧
      drain.ring.dwAlarmMotionDetectRd < alarmMotionDetectMax ∧
      drain.released ≤ (events.filterMap Event.record).length ∧
      drain.ring.hikDevGetAlarmNum.toNat = ((events.filterMap Event.record).length - drain.released) % 32 ∧
      forall i : UInt32, i.toNat < drain.pass.snapshot -> drain.ring.IndexValid i := by
  rcases run_ok localtimeR events with ⟨drain, ran, counted, published⟩
  have covered := counted.covered
  have number := counted.num_eq
  rw [published] at covered number
  exact ⟨drain, ran, UInt32.lt_iff_toNat_lt.mpr counted.wr_lt, UInt32.lt_iff_toNat_lt.mpr counted.rd_lt,
    Nat.le_trans (Nat.le_add_right _ _) covered, number, fun i below => counted.indexValid below⟩

end Drain

end HikDev
end MotionDetectAlarm
