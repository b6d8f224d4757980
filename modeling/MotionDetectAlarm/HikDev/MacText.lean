import Mathlib.Data.List.FinRange
import MotionDetectAlarm.Foundation.Bytes
import MotionDetectAlarm.Foundation.Lines

namespace MotionDetectAlarm
namespace HikDev

open Foundation

/-!
# The printed MAC address

`HikDevMacHexToStr` prints the six bytes of a MAC address into a buffer of the
caller, one `snprintf` for each byte.  The offset moves on by what `snprintf`
returns, which is the length of the whole piece and not what found room.  While
the offset stays within the buffer the pieces add up to the text cut to the
buffer.  Once it is past the end, the room that is left wraps to almost `2 ^ 32`
bytes and the next piece is written behind the buffer.
-/

/-! ## Printing -/

/-- What `%02x` prints of a byte. -/
def format02x (byte : UInt8) : Bytes :=
  [byte / 16, byte % 16].map (fun digit => if digit < 10 then digit + 0x30 else digit + 0x57)

/-- `snprintf` at an offset of a buffer: at most `size - 1` characters and a
NUL, and the length of the text whatever was written. -/
def snprintf (buffer : Bytes) (offset size : Nat) (text : Bytes) : Except Fault (Bytes × Nat) :=
  let written := if size = 0 then [] else text.take (size - 1) ++ [0]
  if offset + written.length ≤ buffer.length then .ok (overlay buffer offset written, text.length)
  else .error .outOfBounds

/-- The buffer holds a text as far as it has room, and a NUL behind it. -/
def Prints (buffer text : Bytes) : Prop :=
  buffer.take (min text.length (buffer.length - 1) + 1) = text.take (buffer.length - 1) ++ [0]

instance (buffer text : Bytes) : Decidable (Prints buffer text) :=
  inferInstanceAs (Decidable (_ = _))

section Print

variable {buffer front piece : Bytes}

/-- Printing behind a text that found room prints both. -/
theorem snprintf_inside (room : front.length < buffer.length) (shown : buffer.take front.length = front)
    (piece : Bytes) :
    exists after, snprintf buffer front.length (buffer.length - front.length) piece = .ok (after, piece.length) ∧
      after.length = buffer.length ∧ Prints after (front ++ piece) := by
  have some_room : buffer.length - front.length ≠ 0 := by omega
  have fits : front.length + (piece.take (buffer.length - front.length - 1) ++ [0]).length ≤ buffer.length := by
    simp only [List.length_append, List.length_take, List.length_singleton]
    omega
  refine ⟨overlay buffer front.length (piece.take (buffer.length - front.length - 1) ++ [0]), ?_,
    overlay_length fits, ?_⟩
  · rw [snprintf, if_neg some_room]
    exact if_pos fits
  · have read := overlay_take (Nat.le_of_lt room) (piece.take (buffer.length - front.length - 1) ++ [0])
    have last : min (front ++ piece).length (buffer.length - 1) + 1 =
        front.length + (piece.take (buffer.length - front.length - 1) ++ [0]).length := by
      simp only [List.length_append, List.length_take, List.length_singleton]
      omega
    have cut : (front ++ piece).take (buffer.length - 1) = front ++ piece.take (buffer.length - front.length - 1) := by
      rw [List.take_append, List.take_of_length_le (by omega), Nat.sub_right_comm]
    rw [Prints, overlay_length fits, last, read, shown, cut, List.append_assoc]

/-- Printing with no room left changes nothing. -/
theorem snprintf_full (offset : Nat) (inside : offset ≤ buffer.length) (piece : Bytes) :
    snprintf buffer offset 0 piece = .ok (buffer, piece.length) := by
  have unchanged : overlay buffer offset [] = buffer := by
    rw [overlay, List.append_nil, List.length_nil, Nat.add_zero, List.take_append_drop]
  rw [snprintf, if_pos rfl, unchanged]
  exact if_pos inside

/-- Printing behind the end leaves the buffer. -/
theorem snprintf_past {offset size : Nat} (past : buffer.length < offset) (some_room : size ≠ 0) (piece : Bytes) :
    snprintf buffer offset size piece = .error .outOfBounds := by
  rw [snprintf, if_neg some_room]
  refine if_neg ?_
  rw [List.length_append, List.length_singleton]
  omega

/-- Printing keeps the size of the buffer and returns the length of its text,
or leaves the buffer. -/
theorem snprintf_cases (buffer : Bytes) (offset size : Nat) (piece : Bytes) :
    (exists after, snprintf buffer offset size piece = .ok (after, piece.length) ∧ after.length = buffer.length) ∨
      snprintf buffer offset size piece = .error .outOfBounds := by
  rw [snprintf]
  by_cases inside : offset + (if size = 0 then [] else piece.take (size - 1) ++ [0]).length ≤ buffer.length
  · exact Or.inl ⟨_, if_pos inside, overlay_length inside⟩
  · exact Or.inr (if_neg inside)

/-- A text that fills the buffer hides what comes after it. -/
theorem Prints.append (prints : Prints buffer front) (full : buffer.length - 1 ≤ front.length) (piece : Bytes) :
    Prints buffer (front ++ piece) := by
  rw [Prints, List.length_append, Nat.min_eq_right (Nat.le_add_right_of_le full), List.take_append_of_le_length full]
  rw [Prints, Nat.min_eq_right full] at prints
  exact prints

theorem Prints.shown (prints : Prints buffer front) (room : front.length < buffer.length) :
    buffer.take front.length = front := by
  have inside : front.length ≤ buffer.length - 1 := by omega
  rw [Prints, Nat.min_eq_left inside, List.take_of_length_le inside] at prints
  have cut := congrArg (List.take front.length) prints
  rwa [List.take_take, Nat.min_eq_left (Nat.le_succ _), List.take_left] at cut

end Print

/-! ## The address -/

/-- The buffer and the offset of the loop. -/
structure MacState where
  sMacStr : Bytes
  offset : UInt32

section Mac

variable (bMacHex : Vector UInt8 6) (dwMacStrLen : UInt32)

/-- What a round prints: a byte, and a dash unless it is the last. -/
def macPiece (i : Fin 6) : Bytes :=
  if i.val < 5 then format02x bMacHex[i] ++ ascii "-" else format02x bMacHex[i]

/-- One round of the loop.  Only the first five move the offset. -/
def macRound (state : MacState) (i : Fin 6) : Except Fault MacState :=
  (snprintf state.sMacStr state.offset.toNat (dwMacStrLen - state.offset).toNat (macPiece bMacHex i)).map
    (fun (sMacStr, retLen) =>
      if i.val < 5 then { sMacStr := sMacStr, offset := state.offset + UInt32.ofNat retLen }
      else { state with sMacStr := sMacStr })

/-- The first rounds of the loop. -/
def macRounds (sMacStr : Bytes) (count : Nat) : Except Fault MacState :=
  ((List.finRange 6).take count).foldlM (macRound bMacHex dwMacStrLen) { sMacStr := sMacStr, offset := 0 }

def hikDevMacHexToStr (sMacStr : Bytes) : Except Fault Bytes :=
  (macRounds bMacHex dwMacStrLen sMacStr 6).map MacState.sMacStr

/-- The text of an address: its bytes with dashes between them. -/
def macText : Bytes :=
  (ascii "-").intercalate (bMacHex.toList.map format02x)

/-- What the first rounds print. -/
def macFront (count : Nat) : Bytes :=
  ((List.finRange 6).take count).flatMap (macPiece bMacHex)

theorem finRange_take_succ : forall i : Fin 6, (List.finRange 6).take (i.val + 1) = (List.finRange 6).take i.val ++ [i] := by
  decide

theorem macRounds_succ (sMacStr : Bytes) (i : Fin 6) :
    macRounds bMacHex dwMacStrLen sMacStr (i.val + 1) =
      (macRounds bMacHex dwMacStrLen sMacStr i.val >>= fun state => macRound bMacHex dwMacStrLen state i) := by
  rw [macRounds, finRange_take_succ, List.foldlM_append]
  simp only [List.foldlM_cons, List.foldlM_nil, bind_pure]
  rfl

theorem macFront_succ (i : Fin 6) : macFront bMacHex (i.val + 1) = macFront bMacHex i.val ++ macPiece bMacHex i := by
  rw [macFront, finRange_take_succ, List.flatMap_append, List.flatMap_singleton]
  rfl

theorem macPiece_length (i : Fin 6) (first : i.val < 5) : (macPiece bMacHex i).length = 3 := by
  rw [macPiece, if_pos first]
  rfl

theorem macFront_length {count : Nat} (first : count ≤ 5) : (macFront bMacHex count).length = 3 * count := by
  induction count with
  | zero => rfl
  | succ count ih =>
      have piece : (macPiece bMacHex ⟨count, by omega⟩).length = 3 := macPiece_length bMacHex _ first
      rw [macFront_succ bMacHex ⟨count, by omega⟩, List.length_append, ih (Nat.le_of_succ_le first), piece]
      omega

/-- The six pieces are the text. -/
theorem macFront_six : macFront bMacHex 6 = macText bMacHex := by
  rcases bMacHex with ⟨⟨bytes⟩, size⟩
  match bytes, size with
  | [_, _, _, _, _, _], _ => rfl

theorem macText_length : (macText bMacHex).length = 17 := by
  rw [← macFront_six]
  rfl

end Mac

/-! ## A run of the loop -/

section Run

variable {bMacHex : Vector UInt8 6} {dwMacStrLen : UInt32} {sMacStr : Bytes}

theorem macRound_first {state : MacState} {i : Fin 6} {after : Bytes} {retLen : Nat}
    (printed : snprintf state.sMacStr state.offset.toNat (dwMacStrLen - state.offset).toNat (macPiece bMacHex i) =
      .ok (after, retLen)) (first : i.val < 5) :
    macRound bMacHex dwMacStrLen state i =
      .ok { sMacStr := after, offset := state.offset + UInt32.ofNat retLen } := by
  rw [macRound, printed]
  exact congrArg Except.ok (if_pos first)

theorem macRound_last {state : MacState} {i : Fin 6} {after : Bytes} {retLen : Nat}
    (printed : snprintf state.sMacStr state.offset.toNat (dwMacStrLen - state.offset).toNat (macPiece bMacHex i) =
      .ok (after, retLen)) (last : ¬ i.val < 5) :
    macRound bMacHex dwMacStrLen state i = .ok { state with sMacStr := after } := by
  rw [macRound, printed]
  exact congrArg Except.ok (if_neg last)

/-- What a round leaves when it returns: the offset has moved by the length of
the piece. -/
theorem macRound_cases (state : MacState) (i : Fin 6) :
    (exists next, macRound bMacHex dwMacStrLen state i = .ok next ∧ next.sMacStr.length = state.sMacStr.length ∧
      (i.val < 5 -> next.offset = state.offset + 3)) ∨
      macRound bMacHex dwMacStrLen state i = .error .outOfBounds := by
  rcases snprintf_cases state.sMacStr state.offset.toNat (dwMacStrLen - state.offset).toNat (macPiece bMacHex i) with
    ⟨after, printed, size⟩ | failed
  · by_cases first : i.val < 5
    · rw [macPiece_length bMacHex i first] at printed
      exact Or.inl ⟨_, macRound_first printed first, size, fun _ => rfl⟩
    · exact Or.inl ⟨_, macRound_last printed first, size, fun early => absurd early first⟩
  · exact Or.inr (by rw [macRound, failed]; rfl)

/-- The first rounds return with the offset behind their pieces, or leave the
buffer. -/
theorem macRounds_cases (count : Nat) (first : count ≤ 5) :
    (exists state, macRounds bMacHex dwMacStrLen sMacStr count = .ok state ∧
      state.sMacStr.length = sMacStr.length ∧ state.offset.toNat = 3 * count) ∨
      macRounds bMacHex dwMacStrLen sMacStr count = .error .outOfBounds := by
  induction count with
  | zero => exact Or.inl ⟨_, rfl, rfl, rfl⟩
  | succ count ih =>
      have step := macRounds_succ bMacHex dwMacStrLen sMacStr ⟨count, by omega⟩
      rcases ih (Nat.le_of_succ_le first) with ⟨state, reached, size, offset⟩ | failed
      · rw [reached, ok_bind] at step
        rcases macRound_cases state ⟨count, by omega⟩ with ⟨next, round, kept, moved⟩ | failed
        · refine Or.inl ⟨next, step.trans round, kept.trans size, ?_⟩
          have three : (3 : UInt32).toNat = 3 := rfl
          rw [moved first, UInt32.toNat_add, offset, three]
          omega
        · exact Or.inr (step.trans failed)
      · rw [failed] at step
        exact Or.inr step

/-- In a buffer of fewer than 15 bytes the last piece, if not an earlier one, is
written behind the end. -/
theorem hikDevMacHexToStr_overruns (size : sMacStr.length = dwMacStrLen.toNat) (small : dwMacStrLen.toNat < 15) :
    hikDevMacHexToStr bMacHex dwMacStrLen sMacStr = .error .outOfBounds := by
  have last := macRounds_succ bMacHex dwMacStrLen sMacStr 5
  have failed : macRounds bMacHex dwMacStrLen sMacStr 6 = .error .outOfBounds := by
    rcases macRounds_cases 5 (Nat.le_refl 5) with ⟨state, reached, kept, offset⟩ | failed
    · have wrapped : (dwMacStrLen - state.offset).toNat ≠ 0 := by
        rw [UInt32.toNat_sub]
        omega
      refine last.trans ?_
      rw [show (5 : Fin 6).val = 5 from rfl, reached, ok_bind, macRound, snprintf_past (by omega) wrapped]
      rfl
    · refine last.trans ?_
      rw [show (5 : Fin 6).val = 5 from rfl, failed]
      rfl
  rw [hikDevMacHexToStr, failed]
  rfl

/-- The buffer holds what the rounds so far have printed, with the offset behind
it. -/
structure MacState.Printed (state : MacState) (size : Nat) (front : Bytes) : Prop where
  length : state.sMacStr.length = size
  offset : state.offset.toNat = front.length
  shown : front.length < size -> state.sMacStr.take front.length = front
  prints : front ≠ [] -> Prints state.sMacStr front

/-- With 15 bytes or more, each of the first five rounds prints its piece. -/
theorem macRounds_printed (size : sMacStr.length = dwMacStrLen.toNat) (enough : 15 ≤ dwMacStrLen.toNat) {count : Nat}
    (first : count ≤ 5) :
    exists state, macRounds bMacHex dwMacStrLen sMacStr count = .ok state ∧
      state.Printed dwMacStrLen.toNat (macFront bMacHex count) := by
  induction count with
  | zero => exact ⟨_, rfl, size, rfl, fun _ => rfl, fun some_text => absurd rfl some_text⟩
  | succ count ih =>
      rcases ih (Nat.le_of_succ_le first) with ⟨state, reached, printed⟩
      have length := macFront_length bMacHex (Nat.le_of_succ_le first)
      have room : (macFront bMacHex count).length < state.sMacStr.length := by
        rw [printed.length]
        omega
      rcases snprintf_inside room (printed.shown (printed.length ▸ room)) (macPiece bMacHex ⟨count, by omega⟩) with
        ⟨after, called, kept, prints⟩
      have remaining : (dwMacStrLen - state.offset).toNat = state.sMacStr.length - (macFront bMacHex count).length := by
        rw [UInt32.toNat_sub_of_le _ _ (UInt32.le_iff_toNat_le.mpr (by rw [printed.offset]; omega)), printed.length,
          printed.offset]
      rw [← remaining, ← printed.offset] at called
      have round := macRound_first called first
      have piece : (macPiece bMacHex ⟨count, by omega⟩).length = 3 := macPiece_length bMacHex _ first
      have front := macFront_succ bMacHex ⟨count, by omega⟩
      simp only at front
      have step := macRounds_succ bMacHex dwMacStrLen sMacStr ⟨count, by omega⟩
      simp only [reached, ok_bind] at step
      refine ⟨_, step.trans round, ?_⟩
      rw [front]
      refine ⟨kept.trans printed.length, ?_, ?_, fun _ => prints⟩
      · have three : (UInt32.ofNat 3).toNat = 3 := rfl
        rw [piece, List.length_append, UInt32.toNat_add, printed.offset, three, piece]
        omega
      · intro inside
        exact prints.shown (by rw [kept, printed.length]; exact inside)

/-- From 15 bytes on, all six rounds print the text. -/
theorem hikDevMacHexToStr_prints (size : sMacStr.length = dwMacStrLen.toNat) (enough : 15 ≤ dwMacStrLen.toNat) :
    exists out, hikDevMacHexToStr bMacHex dwMacStrLen sMacStr = .ok out ∧ out.length = dwMacStrLen.toNat ∧
      Prints out (macText bMacHex) := by
  rcases macRounds_printed size enough (Nat.le_refl 5) with ⟨state, reached, printed⟩
  have length := macFront_length bMacHex (Nat.le_refl 5)
  have some_text : macFront bMacHex 5 ≠ [] := List.length_pos_iff.mp (by omega)
  have prints := printed.prints some_text
  have remaining : (dwMacStrLen - state.offset).toNat = state.sMacStr.length - (macFront bMacHex 5).length := by
    rw [UInt32.toNat_sub_of_le _ _ (UInt32.le_iff_toNat_le.mpr (by rw [printed.offset]; omega)), printed.length,
      printed.offset]
  have last : exists after, snprintf state.sMacStr state.offset.toNat (dwMacStrLen - state.offset).toNat
      (macPiece bMacHex 5) = .ok (after, (macPiece bMacHex 5).length) ∧ after.length = state.sMacStr.length ∧
        Prints after (macFront bMacHex 5 ++ macPiece bMacHex 5) := by
    rw [remaining, printed.offset]
    by_cases room : (macFront bMacHex 5).length < state.sMacStr.length
    · rcases snprintf_inside room (printed.shown (printed.length ▸ room)) (macPiece bMacHex 5) with
        ⟨after, called, kept, both⟩
      exact ⟨after, called, kept, both⟩
    · -- 15 bytes: the first five pieces have filled the buffer
      have none_left : state.sMacStr.length - (macFront bMacHex 5).length = 0 := by omega
      have inside : (macFront bMacHex 5).length ≤ state.sMacStr.length := by
        rw [printed.length]
        omega
      rw [none_left]
      exact ⟨_, snprintf_full _ inside _, rfl, prints.append (by omega) _⟩
  rcases last with ⟨after, called, kept, both⟩
  refine ⟨after, ?_, kept.trans printed.length, ?_⟩
  · have round := macRounds_succ bMacHex dwMacStrLen sMacStr 5
    rw [show (5 : Fin 6).val = 5 from rfl, reached, ok_bind, macRound_last called (Nat.lt_irrefl 5)] at round
    rw [hikDevMacHexToStr, round]
    rfl
  · rw [← macFront_six]
    exact (macFront_succ bMacHex 5).symm ▸ both

end Run

/-- The loop stays inside the buffer, subtracts without a wrap, and leaves the
text cut to the buffer with a NUL behind it, exactly when the buffer has at
least 15 bytes. -/
theorem hikDevMacHexToStr_respects_iff (bMacHex : Vector UInt8 6) {dwMacStrLen : UInt32} {sMacStr : Bytes}
    (size : sMacStr.length = dwMacStrLen.toNat) :
    ((exists out, hikDevMacHexToStr bMacHex dwMacStrLen sMacStr = .ok out ∧
        out.take (min 17 (dwMacStrLen.toNat - 1) + 1) =
          (macText bMacHex).take (min 17 (dwMacStrLen.toNat - 1)) ++ [0]) ∧
      forall count state, count < 6 -> macRounds bMacHex dwMacStrLen sMacStr count = .ok state ->
        state.offset ≤ dwMacStrLen) ↔
      15 ≤ dwMacStrLen := by
  have bound : (15 : UInt32).toNat = 15 := rfl
  rw [UInt32.le_iff_toNat_le, bound]
  constructor
  · rintro ⟨⟨out, returned, -⟩, -⟩
    by_contra small
    cases returned.symm.trans (hikDevMacHexToStr_overruns size (Nat.lt_of_not_le small))
  · intro enough
    rcases hikDevMacHexToStr_prints size enough with ⟨out, returned, length, prints⟩
    refine ⟨⟨out, returned, ?_⟩, ?_⟩
    · have cut : (macText bMacHex).take (dwMacStrLen.toNat - 1) =
          (macText bMacHex).take (min 17 (dwMacStrLen.toNat - 1)) := by
        rw [List.take_eq_take_min, macText_length, Nat.min_comm]
      rw [Prints, length, macText_length] at prints
      exact prints.trans (congrArg (fun text => text ++ [0]) cut)
    · intro count state early reached
      rcases macRounds_cases count (Nat.le_of_lt_succ early) with ⟨other, again, -, offset⟩ | failed
      · cases reached.symm.trans again
        rw [UInt32.le_iff_toNat_le, offset]
        omega
      · cases reached.symm.trans failed

/-- An address that a camera may have. -/
def cameraMac : Vector UInt8 6 := #v[0x44, 0x19, 0xB6, 0x0A, 0x5C, 0xEF]

/-- A buffer of 18 bytes holds the whole text. -/
theorem whole_address_printed :
    ((exists out, hikDevMacHexToStr cameraMac 18 (List.replicate 18 0xFF) = .ok out ∧
        out.take (min 17 ((18 : UInt32).toNat - 1) + 1) =
          (macText cameraMac).take (min 17 ((18 : UInt32).toNat - 1)) ++ [0]) ∧
      forall count state, count < 6 -> macRounds cameraMac 18 (List.replicate 18 0xFF) count = .ok state ->
        state.offset ≤ 18) :=
  (hikDevMacHexToStr_respects_iff cameraMac (by decide)).mpr (by decide)

/-- The buffer of `HikDevOutputAlarmDevInfo` has 13 bytes, and the last piece is
written behind it. -/
theorem caller_buffer_overrun :
    hikDevMacHexToStr cameraMac 13 (List.replicate 13 0xFF) = .error .outOfBounds ∧
      exists state, macRounds cameraMac 13 (List.replicate 13 0xFF) 5 = .ok state ∧ ¬ state.offset ≤ 13 ∧
        (13 - state.offset).toNat = 2 ^ 32 - 2 := by
  have offset : (macRounds cameraMac 13 (List.replicate 13 0xFF) 5).map MacState.offset = .ok 15 := by decide
  rcases exists_of_map_eq_ok offset with ⟨state, reached, moved⟩
  refine ⟨hikDevMacHexToStr_overruns (by decide) (by decide), state, reached, ?_, ?_⟩
  · rw [moved]
    decide
  · rw [moved]
    decide

end HikDev
end MotionDetectAlarm
