import MotionDetectAlarm.SerialPort.LineReader

namespace MotionDetectAlarm
namespace SerialPort

open Foundation

/-!
# The scan of the line buffer

The scan moves the pending bytes to the front of the buffer while it reads
them.  The move overlaps its source: the byte at the counter is written to a
place at or before the counter, so what has not been looked at is never
overwritten.  `Scanning` says so at each value of the counter.

A scan that meets `0x0A` leaves with the line and the bytes behind it pending.
A scan that does not leaves with all bytes at the front.
-/

/-! ## Buffers read back -/

namespace LineBuf

variable {buf : LineBuf} {offset : UInt32}

theorem get_of_drop {i : UInt32} {byte : UInt8} {rest : Bytes} (here : buf.bytes.drop i.toNat = byte :: rest) :
    buf.get i = .ok byte := by
  have found : buf.bytes[i.toNat]? = some byte := by
    rw [← List.head?_drop, here]
    rfl
  rw [get, found]

theorem store_eq (buf : LineBuf) {stored : Bytes} (room : offset.toNat + stored.length ≤ readLineBufSize) :
    exists filled, buf.store offset stored = .ok filled ∧ filled.bytes = overlay buf.bytes offset.toNat stored := by
  rw [← buf.size] at room
  exact ⟨_, dif_pos room, rfl⟩

theorem memset_eq (buf : LineBuf) (inside : offset.toNat ≤ readLineBufSize) :
    exists cleared, buf.memset offset = .ok cleared ∧
      cleared.bytes.take offset.toNat = buf.bytes.take offset.toNat := by
  have room : offset.toNat + (List.replicate (readLineBufSize - offset.toNat) (0 : UInt8)).length ≤
      readLineBufSize := by
    rw [List.length_replicate]
    omega
  rcases store_eq buf room with ⟨cleared, done, bytes⟩
  refine ⟨cleared, done, ?_⟩
  rw [bytes, overlay_take_before (buf.size ▸ inside)]

theorem memcpy_eq (buf source : LineBuf) {number : UInt32} (inside : number.toNat ≤ readLineBufSize) :
    exists copied, buf.memcpy source number = .ok copied ∧
      copied.bytes.take number.toNat = source.bytes.take number.toNat := by
  have length : (source.bytes.take number.toNat).length = number.toNat := by
    rw [List.length_take, source.size, Nat.min_eq_left inside]
  have room : (0 : UInt32).toNat + (source.bytes.take number.toNat).length ≤ readLineBufSize := by
    rw [length, show (0 : UInt32).toNat = 0 from rfl, Nat.zero_add]
    exact inside
  rcases store_eq buf room with ⟨copied, done, bytes⟩
  refine ⟨copied, (if_pos inside).trans done, ?_⟩
  have read := overlay_take (Nat.zero_le buf.bytes.length) (source.bytes.take number.toNat)
  rw [length, Nat.zero_add] at read
  rw [bytes]
  exact read

end LineBuf

/-! ## Scanning -/

/-- The two indices delimit these pending bytes. -/
structure LineReader.Holds (reader : LineReader) (pending : Bytes) : Prop where
  window : (reader.ucReadLineBuf.bytes.take reader.uiReadLineValidSize.toNat).drop reader.uiReadLineIdx.toNat = pending
  start : reader.uiReadLineIdx < reader.uiReadLineValidSize ∨
    reader.uiReadLineIdx = 0 ∧ reader.uiReadLineValidSize = 0
  bounded : reader.uiReadLineValidSize.toNat ≤ readLineBufSize

/-- The pending bytes stand at the front of the buffer. -/
structure LineReader.Fronts (reader : LineReader) (pending : Bytes) : Prop where
  idx : reader.uiReadLineIdx = 0
  validSize : reader.uiReadLineValidSize.toNat = pending.length
  window : reader.ucReadLineBuf.bytes.take pending.length = pending
  bounded : pending.length ≤ readLineBufSize

/-- The scan is at `i`: the bytes it has passed are at the front of the buffer,
and those it still has to look at are where they were. -/
structure Scanning (reader : LineReader) (i : UInt32) (passed todo : Bytes) : Prop where
  position : i.toNat = reader.uiReadLineIdx.toNat + passed.length
  front : reader.ucReadLineBuf.bytes.take passed.length = passed
  back : exists tail, reader.ucReadLineBuf.bytes.drop i.toNat = todo ++ tail
  extent : reader.uiReadLineValidSize.toNat = i.toNat + todo.length
  bounded : reader.uiReadLineValidSize.toNat ≤ readLineBufSize

section Scan

variable {reader : LineReader} {i : UInt32} {passed rest pending : Bytes} {byte : UInt8}

theorem LineReader.Fronts.holds (fronts : reader.Fronts pending) : reader.Holds pending where
  window := by
    rw [fronts.idx, fronts.validSize, fronts.window]
    rfl
  start := by
    rw [fronts.idx]
    rcases Nat.eq_zero_or_pos reader.uiReadLineValidSize.toNat with empty | positive
    · exact Or.inr ⟨rfl, UInt32.toNat_inj.mp empty⟩
    · exact Or.inl (UInt32.lt_iff_toNat_lt.mpr positive)
  bounded := fronts.validSize ▸ fronts.bounded

/-- With bytes left to look at the valid size is not zero. -/
theorem Scanning.positive {todo : Bytes} (scanning : Scanning reader i passed todo) (some_left : todo ≠ []) :
    0 < reader.uiReadLineValidSize := by
  have extent := scanning.extent
  have left := List.length_pos_iff.mpr some_left
  refine UInt32.lt_iff_toNat_lt.mpr ?_
  change 0 < reader.uiReadLineValidSize.toNat
  omega

theorem Scanning.counter (scanning : Scanning reader i passed (byte :: rest)) : (i + 1).toNat = i.toNat + 1 := by
  have extent := scanning.extent
  have bounded := scanning.bounded
  rw [List.length_cons] at extent
  have below : i.toNat < reader.uiReadLineValidSize.toNat := by omega
  exact counter_succ_toNat below reader.uiReadLineValidSize.toNat_lt

/-- The move takes one more byte to the front and leaves those behind it. -/
theorem Scanning.shift (scanning : Scanning reader i passed (byte :: rest)) :
    exists next, reader.shift i = .ok next ∧ next.ucReadLineBuf.get i = .ok byte ∧
      next.isnormal = reader.isnormal ∧ next.uiReadLineValidSize = reader.uiReadLineValidSize ∧
      Scanning next (i + 1) (passed ++ [byte]) rest := by
  have counter := scanning.counter
  rcases scanning with ⟨position, front, ⟨tail, back⟩, extent, bounded⟩
  rw [List.length_cons] at extent
  have here : reader.ucReadLineBuf.get i = .ok byte := LineBuf.get_of_drop back
  have behind : reader.ucReadLineBuf.bytes.drop (i + 1).toNat = rest ++ tail := by
    rw [counter, ← List.drop_drop, back]
    rfl
  unfold LineReader.shift
  by_cases moves : 0 < reader.uiReadLineIdx
  · have positive : 0 < reader.uiReadLineIdx.toNat := UInt32.lt_iff_toNat_lt.mp moves
    have target : (i - reader.uiReadLineIdx).toNat = passed.length := by
      rw [UInt32.toNat_sub_of_le _ _ (UInt32.le_iff_toNat_le.mpr (by omega)), position, Nat.add_sub_cancel_left]
    have inside : passed.length ≤ reader.ucReadLineBuf.bytes.length := by
      rw [reader.ucReadLineBuf.size]
      omega
    have room : (i - reader.uiReadLineIdx).toNat + [byte].length ≤ readLineBufSize := by
      rw [target, List.length_singleton]
      omega
    rcases LineBuf.store_eq reader.ucReadLineBuf room with ⟨moved, stored, bytes⟩
    rw [target] at bytes
    have unmoved : forall place, i.toNat ≤ place ->
        moved.bytes.drop place = reader.ucReadLineBuf.bytes.drop place := by
      intro place after
      rw [bytes, overlay_drop inside (by rw [List.length_singleton]; omega)]
    refine ⟨{ reader with ucReadLineBuf := moved }, ?_, ?_, rfl, rfl, ?_⟩
    · simp only [if_pos moves, here, stored, ok_bind]
      rfl
    · exact LineBuf.get_of_drop ((unmoved _ (Nat.le_refl _)).trans back)
    · refine ⟨?_, ?_, ⟨tail, (unmoved _ (by omega)).trans behind⟩, ?_, bounded⟩
      · rw [counter, position, List.length_append, List.length_singleton, Nat.add_assoc]
      · have read := overlay_take inside [byte]
        rw [front] at read
        rw [List.length_append, bytes]
        exact read
      · change reader.uiReadLineValidSize.toNat = _
        rw [counter]
        omega
  · have still : reader.uiReadLineIdx = 0 := not_not.mp (fun other => moves (UInt32.pos_iff_ne_zero.mpr other))
    refine ⟨reader, if_neg moves, here, rfl, rfl, ?_, ?_, ⟨tail, behind⟩, ?_, bounded⟩
    · rw [counter, position, List.length_append, List.length_singleton, Nat.add_assoc]
    · rw [still, show (0 : UInt32).toNat = 0 from rfl, Nat.zero_add] at position
      rw [position] at back
      rw [List.length_append, List.take_add, front, back]
      rfl
    · rw [counter]
      omega

/-- At the last byte the passed bytes become the pending ones. -/
theorem Scanning.settle (scanning : Scanning reader i passed []) :
    exists settled, reader.settle = .ok settled ∧ settled.isnormal = reader.isnormal ∧ settled.Fronts passed := by
  rcases scanning with ⟨position, front, -, extent, bounded⟩
  rw [List.length_nil, Nat.add_zero] at extent
  have fits : passed.length ≤ readLineBufSize := by omega
  -- Both branches leave a valid size of as many bytes as were passed.
  have settles : forall validSize : UInt32, validSize.toNat = passed.length ->
      exists cleared, reader.ucReadLineBuf.memset validSize = .ok cleared ∧
        cleared.bytes.take passed.length = passed := by
    intro validSize same
    rcases LineBuf.memset_eq reader.ucReadLineBuf (same ▸ fits) with ⟨cleared, done, bytes⟩
    rw [same, front] at bytes
    exact ⟨cleared, done, bytes⟩
  unfold LineReader.settle
  by_cases moved : 0 < reader.uiReadLineIdx
  · have size : (reader.uiReadLineValidSize - reader.uiReadLineIdx).toNat = passed.length := by
      rw [UInt32.toNat_sub_of_le _ _ (UInt32.le_iff_toNat_le.mpr (by omega)), extent, position,
        Nat.add_sub_cancel_left]
    rcases settles _ size with ⟨cleared, done, window⟩
    refine ⟨{ reader with
      ucReadLineBuf := cleared
      uiReadLineValidSize := reader.uiReadLineValidSize - reader.uiReadLineIdx
      uiReadLineIdx := 0 }, ?_, rfl, rfl, size, window, fits⟩
    simp only [if_pos moved, done, ok_bind]
    rfl
  · have still : reader.uiReadLineIdx = 0 := not_not.mp (fun other => moved (UInt32.pos_iff_ne_zero.mpr other))
    have size : reader.uiReadLineValidSize.toNat = passed.length := by
      rw [extent, position, still]
      exact Nat.zero_add _
    rcases settles _ size with ⟨cleared, done, window⟩
    refine ⟨{ reader with ucReadLineBuf := cleared }, ?_, rfl, still, size, window, fits⟩
    simp only [if_neg moved, done, ok_bind]
    rfl

/-- At the end of a line the passed bytes are copied and the others stay
pending. -/
theorem Scanning.cutLine (scanning : Scanning reader (i + 1) passed rest) (readBuf : LineBuf) :
    exists next copied readLen, reader.cutLine readBuf i = .ok (.line next copied readLen) ∧
      next.isnormal = reader.isnormal ∧ copied.bytes.take readLen.toNat = passed ∧ next.Holds rest := by
  rcases scanning with ⟨position, front, ⟨tail, back⟩, extent, bounded⟩
  have readLen : (i + 1 - reader.uiReadLineIdx).toNat = passed.length := by
    rw [UInt32.toNat_sub_of_le _ _ (UInt32.le_iff_toNat_le.mpr (by omega)), position, Nat.add_sub_cancel_left]
  have fits : (i + 1 - reader.uiReadLineIdx).toNat ≤ readLineBufSize := by omega
  rcases LineBuf.memcpy_eq readBuf reader.ucReadLineBuf fits with ⟨copied, done, bytes⟩
  rw [readLen, front] at bytes
  have line : copied.bytes.take (i + 1 - reader.uiReadLineIdx).toNat = passed := by
    rw [readLen, bytes]
  unfold LineReader.cutLine
  simp only [done, ok_bind]
  by_cases ended : reader.uiReadLineValidSize ≤ i + 1
  · have nothing : rest = [] := by
      have le := UInt32.le_iff_toNat_le.mp ended
      exact List.length_eq_zero_iff.mp (by omega)
    rw [if_pos ended, nothing]
    exact ⟨_, copied, _, rfl, rfl, line, rfl, Or.inr ⟨rfl, rfl⟩, Nat.zero_le _⟩
  · rw [if_neg ended]
    refine ⟨_, copied, _, rfl, rfl, line, ?_, Or.inl (UInt32.not_le.mp ended), bounded⟩
    change (reader.ucReadLineBuf.bytes.take reader.uiReadLineValidSize.toNat).drop (i + 1).toNat = rest
    rw [List.drop_take, back, extent, Nat.add_sub_cancel_left, List.take_left]

variable {isNeedReturn : Bool} {readBuf : LineBuf}

theorem Scanning.inside (scanning : Scanning reader i passed (byte :: rest)) : i < reader.uiReadLineValidSize := by
  have extent := scanning.extent
  rw [List.length_cons] at extent
  exact UInt32.lt_iff_toNat_lt.mpr (by omega)

/-- The test for the last byte. -/
theorem Scanning.last_iff (scanning : Scanning reader i passed (byte :: rest)) :
    i = reader.uiReadLineValidSize - 1 ↔ rest = [] := by
  have extent := scanning.extent
  rw [List.length_cons] at extent
  have one : (1 : UInt32).toNat = 1 := rfl
  have size : (reader.uiReadLineValidSize - 1).toNat = i.toNat + rest.length := by
    rw [UInt32.toNat_sub_of_le _ _ (UInt32.le_iff_toNat_le.mpr (by omega)), one, extent]
    omega
  rw [← UInt32.toNat_inj, size]
  constructor
  · exact fun same => List.length_eq_zero_iff.mp (by omega)
  · rintro rfl
    rfl

/-- A round at a byte inside a line goes on. -/
theorem Scanning.round_again (scanning : Scanning reader i passed (byte :: rest)) (other : byte ≠ 0x0A)
    (more : rest ≠ []) :
    exists next, LineReader.scanRound isNeedReturn readBuf (i, reader) = .ok (.again (i + 1, next)) ∧
      next.isnormal = reader.isnormal ∧ Scanning next (i + 1) (passed ++ [byte]) rest := by
  rcases scanning.shift with ⟨next, shifted, read, flag, size, further⟩
  refine ⟨next, ?_, flag, further⟩
  have early : ¬ i = next.uiReadLineValidSize - 1 := fun last => more (scanning.last_iff.mp (size ▸ last))
  simp only [LineReader.scanRound, if_pos scanning.inside, shifted, ok_bind, read, if_pos other, if_neg early]
  rfl

/-- A round at the last byte, in an unfinished line, leaves with all bytes
pending. -/
theorem Scanning.round_last (scanning : Scanning reader i passed [byte]) (other : byte ≠ 0x0A) :
    exists next, LineReader.scanRound isNeedReturn readBuf (i, reader) =
        .ok (.leave (if isNeedReturn = false then .fetch next else .giveUp next)) ∧
      next.isnormal = reader.isnormal ∧ next.Fronts (passed ++ [byte]) := by
  rcases scanning.shift with ⟨next, shifted, read, flag, size, further⟩
  rcases further.settle with ⟨settled, done, sameFlag, fronts⟩
  refine ⟨settled, ?_, sameFlag.trans flag, fronts⟩
  have last : i = next.uiReadLineValidSize - 1 := size ▸ scanning.last_iff.mpr rfl
  simp only [LineReader.scanRound, if_pos scanning.inside, shifted, ok_bind, read, if_pos other, if_pos last, done]
  rfl

/-- A round at the end of a line leaves with it. -/
theorem Scanning.round_line (scanning : Scanning reader i passed (0x0A :: rest)) :
    exists next copied readLen, LineReader.scanRound isNeedReturn readBuf (i, reader) =
        .ok (.leave (.line next copied readLen)) ∧
      next.isnormal = reader.isnormal ∧ copied.bytes.take readLen.toNat = passed ++ [0x0A] ∧ next.Holds rest := by
  rcases scanning.shift with ⟨moved, shifted, read, flag, -, further⟩
  rcases further.cutLine readBuf with ⟨next, copied, readLen, done, sameFlag, line, held⟩
  refine ⟨next, copied, readLen, ?_, sameFlag.trans flag, line, held⟩
  have ended : ¬ (0x0A : UInt8) ≠ 0x0A := fun other => other rfl
  simp only [LineReader.scanRound, if_pos scanning.inside, shifted, ok_bind, read, if_neg ended, done]
  rfl

/-- The rounds up to the end of a line leave with it. -/
theorem Scanning.loop_line {body : Bytes} {fuel : Nat} (scanning : Scanning reader i passed (body ++ 0x0A :: rest))
    (clean : (0x0A : UInt8) ∉ body) (enough : body.length < fuel) :
    exists next copied readLen, loop (LineReader.scanRound isNeedReturn readBuf) fuel (i, reader) =
        .ok (.line next copied readLen) ∧
      next.isnormal = reader.isnormal ∧ copied.bytes.take readLen.toNat = passed ++ body ++ [0x0A] ∧
      next.Holds rest := by
  rcases Nat.exists_eq_succ_of_ne_zero (Nat.ne_of_gt (Nat.zero_lt_of_lt enough)) with ⟨fuel, rfl⟩
  induction body generalizing reader i passed fuel with
  | nil =>
      rcases scanning.round_line with ⟨next, copied, readLen, left, flag, line, held⟩
      exact ⟨next, copied, readLen, loop_leave left fuel, flag, by rw [line, List.append_nil], held⟩
  | cons byte body ih =>
      have enough_left : body.length < fuel := Nat.lt_of_succ_lt_succ enough
      rcases Nat.exists_eq_succ_of_ne_zero (Nat.ne_of_gt (Nat.zero_lt_of_lt enough_left)) with ⟨fuel, rfl⟩
      rw [List.mem_cons, not_or] at clean
      rcases scanning.round_again (Ne.symm clean.1) (by simp) with ⟨moved, again, flag, further⟩
      rcases ih further clean.2 fuel enough_left with ⟨next, copied, readLen, left, sameFlag, line, held⟩
      refine ⟨next, copied, readLen, (loop_again again _).trans left, sameFlag.trans flag, ?_, held⟩
      rw [line, List.append_assoc passed [byte] body]
      rfl

/-- The rounds over an unfinished line leave with all bytes pending. -/
theorem Scanning.loop_clean {todo : Bytes} {fuel : Nat} (scanning : Scanning reader i passed (byte :: todo))
    (clean : (0x0A : UInt8) ∉ byte :: todo) (enough : todo.length < fuel) :
    exists next, loop (LineReader.scanRound isNeedReturn readBuf) fuel (i, reader) =
        .ok (if isNeedReturn = false then .fetch next else .giveUp next) ∧
      next.isnormal = reader.isnormal ∧ next.Fronts (passed ++ byte :: todo) := by
  induction todo generalizing reader i passed byte fuel with
  | nil =>
      rcases Nat.exists_eq_succ_of_ne_zero (Nat.ne_of_gt enough) with ⟨fuel, rfl⟩
      rw [List.mem_singleton] at clean
      rcases scanning.round_last (Ne.symm clean) with ⟨next, left, flag, fronts⟩
      exact ⟨next, loop_leave left fuel, flag, fronts⟩
  | cons other todo ih =>
      rcases Nat.exists_eq_succ_of_ne_zero (Nat.ne_of_gt (Nat.zero_lt_of_lt enough)) with ⟨fuel, rfl⟩
      rw [List.mem_cons, not_or] at clean
      rcases scanning.round_again (Ne.symm clean.1) (List.cons_ne_nil _ _) with ⟨moved, again, flag, further⟩
      rcases ih further clean.2 (Nat.lt_of_succ_lt_succ enough) with ⟨next, left, sameFlag, fronts⟩
      refine ⟨next, (loop_again again fuel).trans left, sameFlag.trans flag, ?_⟩
      rw [List.append_assoc] at fronts
      exact fronts

/-- A scan starts at the first pending byte. -/
theorem LineReader.Holds.scanning (held : reader.Holds pending) : Scanning reader reader.uiReadLineIdx [] pending := by
  have ordered : reader.uiReadLineIdx.toNat ≤ reader.uiReadLineValidSize.toNat := by
    rcases held.start with below | ⟨zero, empty⟩
    · exact Nat.le_of_lt (UInt32.lt_iff_toNat_lt.mp below)
    · rw [zero, empty]
  have inside : reader.uiReadLineValidSize.toNat ≤ reader.ucReadLineBuf.bytes.length :=
    reader.ucReadLineBuf.size ▸ held.bounded
  have length : (reader.ucReadLineBuf.bytes.take reader.uiReadLineValidSize.toNat).length =
      reader.uiReadLineValidSize.toNat := by
    rw [List.length_take, Nat.min_eq_left inside]
  refine ⟨rfl, rfl, ⟨reader.ucReadLineBuf.bytes.drop reader.uiReadLineValidSize.toNat, ?_⟩, ?_, held.bounded⟩
  · rw [← held.window, ← List.drop_append_of_le_length (Nat.le_trans ordered (Nat.le_of_eq length.symm)),
      List.take_append_drop]
  · rw [← held.window, List.length_drop, length]
    omega

/-- A scan of bytes with a line in them finds it. -/
theorem LineReader.Holds.scan_line (held : reader.Holds pending) {line : Bytes}
    (found : firstLine 0x0A pending = some (line, rest)) (isNeedReturn : Bool) (readBuf : LineBuf) :
    exists next copied readLen, reader.scan isNeedReturn readBuf = .ok (.line next copied readLen) ∧
      next.isnormal = reader.isnormal ∧ copied.bytes.take readLen.toNat = line ∧ next.Holds rest := by
  rcases firstLine_some found with ⟨whole, body, ends, clean⟩
  have scanning := held.scanning
  rw [whole, ends, List.append_assoc, List.singleton_append] at scanning
  have extent := scanning.extent
  rw [List.length_append, List.length_cons] at extent
  have positive := scanning.positive (List.append_ne_nil_of_right_ne_nil _ (List.cons_ne_nil _ _))
  rcases scanning.loop_line clean (by omega : body.length < reader.uiReadLineValidSize.toNat + 1) with
    ⟨next, copied, readLen, left, flag, copy, after⟩
  refine ⟨next, copied, readLen, ?_, flag, ?_, after⟩
  · rw [LineReader.scan, if_pos positive]
    exact left
  · rw [copy, ends]
    rfl

/-- A scan of bytes without a line moves them to the front. -/
theorem LineReader.Holds.scan_clean (held : reader.Holds pending) (clean : (0x0A : UInt8) ∉ pending)
    (isNeedReturn : Bool) (readBuf : LineBuf) :
    exists next, reader.scan isNeedReturn readBuf =
        .ok (if isNeedReturn = false ∨ pending = [] then .fetch next else .giveUp next) ∧
      next.isnormal = reader.isnormal ∧ next.Fronts pending := by
  have scanning := held.scanning
  have extent := scanning.extent
  cases pending with
  | nil =>
      have empty : reader.uiReadLineIdx = 0 ∧ reader.uiReadLineValidSize = 0 := by
        refine held.start.resolve_left (fun below => ?_)
        exact Nat.ne_of_gt (UInt32.lt_iff_toNat_lt.mp below) extent
      refine ⟨reader, ?_, rfl, empty.1, by rw [empty.2]; rfl, rfl, Nat.zero_le _⟩
      rw [LineReader.scan, empty.2, if_neg (by decide), if_pos (Or.inr rfl)]
  | cons first others =>
      rw [List.length_cons] at extent
      have positive := scanning.positive (List.cons_ne_nil _ _)
      rcases scanning.loop_clean clean (by omega : others.length < reader.uiReadLineValidSize.toNat + 1) with
        ⟨next, left, flag, fronts⟩
      refine ⟨next, ?_, flag, fronts⟩
      rw [LineReader.scan, if_pos positive]
      simpa using left

end Scan

end SerialPort
end MotionDetectAlarm
