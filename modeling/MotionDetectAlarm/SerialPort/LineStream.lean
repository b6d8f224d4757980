import MotionDetectAlarm.SerialPort.LineScan

namespace MotionDetectAlarm
namespace SerialPort

open Foundation

/-!
# The stream of lines

To the pending bytes every call of `readLine` is one call of the abstract
reader of lines: it takes in what the port delivers and takes the first line
off.  A run of calls is then a run of the abstract reader, and what holds of
its lines holds of the lines that are returned, whatever the port does.

The buffer is bounded, and nothing throws away a line that does not fit.  After
256 bytes without `0x0A` the room for a read is zero, `read` returns zero, and
no call ever returns a line again.
-/

/-! ## One call -/

/-- The line that a call returned. -/
def Returned.line (returned : Returned) : Option Bytes :=
  if returned.code = uartTrue then returned.readBuf.map (fun buf => buf.bytes.take returned.readLen.toNat) else none

section Call

variable {reader : LineReader} {pending : Bytes}

theorem LineReader.readBuffer_congr {next : LineReader} (flag : next.isnormal = reader.isnormal) :
    next.readBuffer = reader.readBuffer := by
  funext reading bufLen
  simp only [LineReader.readBuffer, flag]

/-- What `readBuffer` stores is not empty and fits. -/
theorem LineReader.readBuffer_some {reading : Reading} {bufLen : UInt32} {stored : Bytes}
    (read : reader.readBuffer reading bufLen = some stored) : 0 < stored.length ∧ stored.length ≤ bufLen.toNat := by
  unfold LineReader.readBuffer at read
  split at read
  · cases read
  · split at read
    · cases read
    · cases read
    · cases read
    · split at read
      · rename_i positive
        cases read
        exact ⟨positive, List.length_take_le _ _⟩
      · cases read

theorem room_toNat (used : Nat) : (UInt32.ofNat (readLineBufSize - used)).toNat = readLineBufSize - used := by
  rw [UInt32.toNat_ofNat', Nat.mod_eq_of_lt]
  exact Nat.lt_of_le_of_lt (Nat.sub_le _ _) (by decide)

/-- The room behind the pending bytes. -/
theorem LineReader.Fronts.room (fronts : reader.Fronts pending) :
    (UInt32.ofNat readLineBufSize - reader.uiReadLineValidSize).toNat = readLineBufSize - pending.length := by
  have size : (UInt32.ofNat readLineBufSize).toNat = readLineBufSize := rfl
  have le : reader.uiReadLineValidSize ≤ UInt32.ofNat readLineBufSize :=
    UInt32.le_iff_toNat_le.mpr (by rw [size, fronts.validSize]; exact fronts.bounded)
  rw [UInt32.toNat_sub_of_le _ _ le, size, fronts.validSize]

/-- A read stores its bytes behind the pending ones. -/
theorem LineReader.Fronts.filled (fronts : reader.Fronts pending) {stored : Bytes}
    (fits : stored.length ≤ readLineBufSize - pending.length) :
    exists filled, reader.ucReadLineBuf.store reader.uiReadLineValidSize stored = .ok filled ∧
      ({ reader with
        ucReadLineBuf := filled
        uiReadLineValidSize := reader.uiReadLineValidSize + UInt32.ofNat stored.length } : LineReader).Fronts
          (pending ++ stored) := by
  rcases fronts with ⟨idx, validSize, window, bounded⟩
  have inside : pending.length ≤ reader.ucReadLineBuf.bytes.length := reader.ucReadLineBuf.size ▸ bounded
  have room : reader.uiReadLineValidSize.toNat + stored.length ≤ readLineBufSize := by omega
  rcases LineBuf.store_eq reader.ucReadLineBuf room with ⟨filled, done, bytes⟩
  refine ⟨filled, done, idx, ?_, ?_, ?_⟩
  · have small : readLineBufSize < 2 ^ 32 := by decide
    change (reader.uiReadLineValidSize + UInt32.ofNat stored.length).toNat = _
    rw [UInt32.toNat_add, UInt32.toNat_ofNat', validSize, List.length_append]
    omega
  · have read := overlay_take inside stored
    rw [window] at read
    rw [List.length_append]
    change filled.bytes.take _ = _
    rw [bytes, validSize]
    exact read
  · rw [List.length_append]
    omega

theorem LineReader.Holds.length_le (held : reader.Holds pending) : pending.length ≤ readLineBufSize := by
  have extent := held.scanning.extent
  have bounded := held.bounded
  omega

/-- What a call that returned has done to the pending bytes. -/
structure Returned.Takes (returned : Returned) (reader : LineReader) (asked : List UInt32) (line : Option Bytes)
    (next : Bytes) : Prop where
  asked : returned.asked = asked
  flag : returned.reader.isnormal = reader.isnormal
  code : returned.code = if line.isSome then uartTrue else uartFalse
  line : returned.line = line
  held : returned.reader.Holds next

variable (readBuf : LineBuf) (port : Nat -> Reading) {pass : Pass}

/-- A pass with a line in the buffer returns it. -/
theorem passRound_line {line rest : Bytes} (held : pass.reader.Holds pending)
    (found : firstLine 0x0A pending = some (line, rest)) :
    exists returned, passRound readBuf port pass = .ok (.leave returned) ∧
      returned.Takes pass.reader pass.asked (some line) rest := by
  rcases held.scan_line found pass.isNeedReturn readBuf with ⟨next, copied, readLen, scanned, flag, copy, after⟩
  simp only [passRound, scanned, ok_bind]
  refine ⟨_, rfl, rfl, flag, rfl, ?_, after⟩
  rw [Returned.line, if_pos rfl, Option.map_some, copy]

/-- A second pass without a line gives up. -/
theorem passRound_giveUp (held : pass.reader.Holds pending) (clean : (0x0A : UInt8) ∉ pending)
    (some_bytes : pending ≠ []) (second : pass.isNeedReturn = true) :
    exists returned, passRound readBuf port pass = .ok (.leave returned) ∧
      returned.Takes pass.reader pass.asked none pending := by
  rcases held.scan_clean clean pass.isNeedReturn readBuf with ⟨next, scanned, flag, fronts⟩
  rw [if_neg (by simp [second, some_bytes])] at scanned
  simp only [passRound, scanned, ok_bind]
  exact ⟨_, rfl, rfl, flag, rfl, rfl, fronts.holds⟩

/-- A first pass without a line reads. -/
theorem passRound_fetch (held : pass.reader.Holds pending) (clean : (0x0A : UInt8) ∉ pending)
    (first : pass.isNeedReturn = false) :
    match pass.reader.readBuffer (port pass.asked.length) (UInt32.ofNat (readLineBufSize - pending.length)) with
    | none => exists returned, passRound readBuf port pass = .ok (.leave returned) ∧
        returned.Takes pass.reader (pass.asked ++ [UInt32.ofNat (readLineBufSize - pending.length)]) none pending
    | some stored => exists next, passRound readBuf port pass = .ok (.again next) ∧ next.isNeedReturn = true ∧
        next.asked = pass.asked ++ [UInt32.ofNat (readLineBufSize - pending.length)] ∧
        next.reader.isnormal = pass.reader.isnormal ∧ pending ++ stored ≠ [] ∧
        next.reader.Holds (pending ++ stored) := by
  rcases held.scan_clean clean pass.isNeedReturn readBuf with ⟨next, scanned, flag, fronts⟩
  rw [if_pos (Or.inl first)] at scanned
  have bufLen : UInt32.ofNat readLineBufSize - next.uiReadLineValidSize =
      UInt32.ofNat (readLineBufSize - pending.length) := by
    apply UInt32.toNat_inj.mp
    rw [fronts.room, room_toNat]
  rw [← LineReader.readBuffer_congr flag, ← bufLen]
  cases read : next.readBuffer (port pass.asked.length) (UInt32.ofNat readLineBufSize - next.uiReadLineValidSize) with
  | none =>
      simp only [passRound, scanned, ok_bind, read]
      exact ⟨_, rfl, rfl, flag, rfl, rfl, fronts.holds⟩
  | some stored =>
      rcases LineReader.readBuffer_some read with ⟨positive, fits⟩
      rw [fronts.room] at fits
      rcases fronts.filled fits with ⟨filled, done, after⟩
      have some_bytes : pending ++ stored ≠ [] :=
        List.append_ne_nil_of_right_ne_nil _ (List.length_pos_iff.mp positive)
      simp only [passRound, scanned, ok_bind, read, done]
      exact ⟨_, rfl, rfl, rfl, flag, some_bytes, after.holds⟩

/-- The sizes that a call asks the port for: nothing when a line is already there,
and otherwise once for the room behind the pending bytes. -/
def requests (pending : Bytes) : List UInt32 :=
  if (0x0A : UInt8) ∈ pending then [] else [UInt32.ofNat (readLineBufSize - pending.length)]

/-- The bytes that come in during a call. -/
def LineReader.incoming (reader : LineReader) (pending : Bytes) (port : Nat -> Reading) : Bytes :=
  reader.delivered port (requests pending)

theorem incoming_line (present : (0x0A : UInt8) ∈ pending) : reader.incoming pending port = [] := by
  rw [LineReader.incoming, requests, if_pos present]
  rfl

theorem incoming_clean (clean : (0x0A : UInt8) ∉ pending) :
    reader.incoming pending port =
      (reader.readBuffer (port 0) (UInt32.ofNat (readLineBufSize - pending.length))).getD [] := by
  rw [LineReader.incoming, requests, if_neg clean]
  exact List.append_nil _

/-- Every call returns, and to the pending bytes it is one call of the abstract
reader. -/
theorem readLine_takes (held : reader.Holds pending) (readLen : UInt32) :
    exists returned line next, reader.readLine (some readBuf) port readLen = .ok returned ∧
      returned.Takes reader (requests pending) line next ∧
      LineCall.step 0x0A readLineBufSize pending ⟨reader.incoming pending port, line⟩ next := by
  have bounded := held.length_le
  have start : (Pass.mk reader false readLen []).reader.Holds pending := held
  simp only [LineReader.readLine, LineCall.step]
  by_cases present : (0x0A : UInt8) ∈ pending
  · rw [incoming_line port present, List.append_nil, requests, if_pos present]
    cases found : firstLine 0x0A pending with
    | none => exact absurd present (firstLine_none.mp found)
    | some cut =>
        rcases passRound_line readBuf port start found with ⟨returned, left, takes⟩
        exact ⟨returned, _, _, loop_leave left _, takes, bounded, rfl, rfl⟩
  · rw [incoming_clean port present, requests, if_neg present]
    have fetched := passRound_fetch readBuf port start present rfl
    cases read : reader.readBuffer (port 0) (UInt32.ofNat (readLineBufSize - pending.length)) with
    | none =>
        simp only [List.length_nil, List.nil_append, read] at fetched
        rcases fetched with ⟨returned, left, takes⟩
        refine ⟨returned, _, _, loop_leave left _, takes, ?_⟩
        rw [Option.getD_none, List.append_nil, firstLine_none.mpr present]
        exact ⟨bounded, rfl, rfl⟩
    | some stored =>
        simp only [List.length_nil, List.nil_append, read] at fetched
        rcases fetched with ⟨second, again, flagged, asked, flag, some_bytes, after⟩
        rw [loop_again again, Option.getD_some]
        cases found : firstLine 0x0A (pending ++ stored) with
        | some cut =>
            rcases passRound_line readBuf port after found with ⟨returned, left, takes⟩
            rw [asked] at takes
            exact ⟨returned, _, _, loop_leave left _, { takes with flag := takes.flag.trans flag },
              after.length_le, rfl, rfl⟩
        | none =>
            rcases passRound_giveUp readBuf port after (firstLine_none.mp found) some_bytes flagged with
              ⟨returned, left, takes⟩
            rw [asked] at takes
            exact ⟨returned, _, _, loop_leave left _, { takes with flag := takes.flag.trans flag },
              after.length_le, rfl, rfl⟩

end Call

/-! ## Runs of calls -/

/-- The arguments of a call, and what the system answers to its reads. -/
structure ReadLineCall where
  readBuf : Option LineBuf
  readLen : UInt32
  port : Nat -> Reading

/-- The bytes between the two indices. -/
def LineReader.pending (reader : LineReader) : Bytes :=
  (reader.ucReadLineBuf.bytes.take reader.uiReadLineValidSize.toNat).drop reader.uiReadLineIdx.toNat

/-- The reader with a log of what the port has delivered to its calls and what they
have returned.  A call with a null pointer is refused and not logged. -/
structure Traffic where
  reader : LineReader
  log : List (LineCall UInt8)

namespace Traffic

def start (set : Int32) : Traffic where
  reader := .opened set
  log := []

def readLine (traffic : Traffic) (call : ReadLineCall) : Except Fault Traffic := do
  let returned <- traffic.reader.readLine call.readBuf call.port call.readLen
  return {
    reader := returned.reader
    log :=
      if call.readBuf.isNone then traffic.log
      else traffic.log ++ [⟨traffic.reader.delivered call.port returned.asked, returned.line⟩] }

/-- The log is a run of the abstract reader that ends with the pending bytes. -/
structure Follows (set : Int32) (traffic : Traffic) : Prop where
  flag : traffic.reader.isnormal = set
  held : traffic.reader.Holds traffic.reader.pending
  run : Run (LineCall.step 0x0A readLineBufSize) [] traffic.log traffic.reader.pending

variable {set : Int32} {traffic : Traffic}

theorem start_follows (set : Int32) : (start set).Follows set where
  flag := rfl
  held := ⟨rfl, Or.inr ⟨rfl, rfl⟩, Nat.zero_le _⟩
  run := .nil

/-- Every call returns and is followed by the abstract reader. -/
theorem readLine_follows (follows : traffic.Follows set) (call : ReadLineCall) :
    exists after, traffic.readLine call = .ok after ∧ after.Follows set := by
  rcases follows with ⟨flag, held, run⟩
  rcases call with ⟨ptrReadBuf, readLen, port⟩
  cases ptrReadBuf with
  | none => exact ⟨traffic, rfl, flag, held, run⟩
  | some readBuf =>
      rcases readLine_takes readBuf port held readLen with ⟨returned, line, next, done, takes, stepped⟩
      have pending : returned.reader.pending = next := takes.held.window
      refine ⟨{
        reader := returned.reader
        log := traffic.log ++ [⟨traffic.reader.delivered port returned.asked, returned.line⟩] }, ?_, ?_, ?_, ?_⟩
      · simp only [readLine, done, ok_bind]
        rfl
      · exact takes.flag.trans flag
      · rw [pending]
        exact takes.held
      · rw [pending, takes.asked, takes.line]
        exact .snoc run stepped

/-- So is every run of calls. -/
theorem run_follows (follows : traffic.Follows set) (calls : List ReadLineCall) :
    exists after, calls.foldlM readLine traffic = .ok after ∧ after.Follows set := by
  induction calls generalizing traffic with
  | nil => exact ⟨traffic, rfl, follows⟩
  | cons call calls ih =>
      rcases readLine_follows follows call with ⟨middle, called, kept⟩
      rcases ih kept with ⟨after, done, last⟩
      exact ⟨after, by rw [List.foldlM_cons, called, ok_bind, done], last⟩

end Traffic

/-- Whatever the port does and whatever calls are made, every call returns, the
indices stay in order inside the buffer, every returned line is one line of at
most 256 bytes, and the returned lines with the pending bytes behind them are
the bytes that the ports have delivered.  The next call asks its port for bytes
exactly when no line is pending. -/
theorem readLine_stream (set : Int32) (calls : List ReadLineCall) :
    exists traffic, calls.foldlM Traffic.readLine (.start set) = .ok traffic ∧
      traffic.reader.uiReadLineIdx ≤ traffic.reader.uiReadLineValidSize ∧
      traffic.reader.uiReadLineValidSize ≤ 256 ∧
      (forall line, line ∈ LineCall.lines traffic.log -> IsLine 0x0A line ∧ line.length ≤ 256) ∧
      (LineCall.lines traffic.log).flatten ++ traffic.reader.pending = LineCall.received traffic.log ∧
      forall readBuf port readLen, exists returned,
        traffic.reader.readLine (some readBuf) port readLen = .ok returned ∧
          returned.asked = requests traffic.reader.pending := by
  rcases Traffic.run_follows (Traffic.start_follows set) calls with ⟨traffic, done, -, held, run⟩
  rcases LineCall.conservation run with ⟨same, -, lines⟩
  refine ⟨traffic, done, ?_, UInt32.le_iff_toNat_le.mpr held.bounded, lines, same, ?_⟩
  · rcases held.start with below | ⟨zero, empty⟩
    · exact UInt32.le_of_lt below
    · rw [zero, empty]
      exact UInt32.le_refl _
  · intro readBuf port readLen
    rcases readLine_takes readBuf port held readLen with ⟨returned, line, next, called, takes, -⟩
    exact ⟨returned, called, takes.asked⟩

/-- Seven calls: a line that comes in three chunks with a failed `select`, a
failed `read` and a null pointer between them, two lines and the head of a third
in one chunk, and a call that finds the second line in the buffer. -/
def sevenCalls : List ReadLineCall :=
  [⟨some LineBuf.zeroed, 256, fun _ => .arrived [0x41, 0x54]⟩,
    ⟨some LineBuf.zeroed, 256, fun _ => .selectError⟩,
    ⟨some LineBuf.zeroed, 256, fun _ => .arrived [0x0D]⟩,
    ⟨none, 256, fun _ => .arrived [0x7A]⟩,
    ⟨some LineBuf.zeroed, 256, fun _ => .readError⟩,
    ⟨some LineBuf.zeroed, 256, fun _ => .arrived [0x0A, 0x4F, 0x4B, 0x0A, 0x3E]⟩,
    ⟨some LineBuf.zeroed, 256, fun _ => .arrived [0x7A]⟩]

/-- Both lines are returned and the head of the third stays pending.  The null
pointer and the last call ask for no bytes, and none are delivered to them. -/
theorem sevenCalls_lines :
    exists traffic, sevenCalls.foldlM Traffic.readLine (.start uartTrue) = .ok traffic ∧
      LineCall.lines traffic.log = [[0x41, 0x54, 0x0D, 0x0A], [0x4F, 0x4B, 0x0A]] ∧
      traffic.reader.pending = [0x3E] ∧
      LineCall.received traffic.log = [0x41, 0x54, 0x0D, 0x0A, 0x4F, 0x4B, 0x0A, 0x3E] := by
  have viewed : (sevenCalls.foldlM Traffic.readLine (.start uartTrue)).map
      (fun traffic => (LineCall.lines traffic.log, traffic.reader.pending)) =
      .ok ([[0x41, 0x54, 0x0D, 0x0A], [0x4F, 0x4B, 0x0A]], [0x3E]) := by
    decide +kernel
  rcases readLine_stream uartTrue sevenCalls with ⟨traffic, done, -, -, -, same, -⟩
  rw [done] at viewed
  have parts := Except.ok.inj viewed
  simp only [Prod.mk.injEq] at parts
  rw [parts.1, parts.2] at same
  exact ⟨traffic, done, parts.1, parts.2, same.symm⟩

/-! ## A full buffer -/

section Full

variable {reader : LineReader} {pending : Bytes}

/-- A full buffer without a line stays full, and no call returns a line. -/
theorem readLine_stuck (held : reader.Holds pending) (full : pending.length = readLineBufSize)
    (clean : (0x0A : UInt8) ∉ pending) {call : ReadLineCall} {returned : Returned}
    (called : reader.readLine call.readBuf call.port call.readLen = .ok returned) :
    returned.code ≠ uartTrue ∧ returned.reader.Holds pending := by
  rcases call with ⟨ptrReadBuf, readLen, port⟩
  cases ptrReadBuf with
  | none =>
      cases called
      exact ⟨show uartFalse ≠ uartTrue by decide, held⟩
  | some readBuf =>
      rcases readLine_takes readBuf port held readLen with ⟨again, line, next, done, takes, stepped⟩
      cases called.symm.trans done
      rcases LineCall.full_stuck full clean stepped with ⟨nothing, same⟩
      simp only at nothing
      rw [takes.code, nothing, ← same]
      exact ⟨by decide, takes.held⟩

/-- Nor does any later call. -/
theorem run_stuck {traffic later : Traffic} (held : traffic.reader.Holds pending)
    (full : pending.length = readLineBufSize) (clean : (0x0A : UInt8) ∉ pending) {more : List ReadLineCall}
    (reached : more.foldlM Traffic.readLine traffic = .ok later) {call : ReadLineCall} {returned : Returned}
    (called : later.reader.readLine call.readBuf call.port call.readLen = .ok returned) :
    returned.code ≠ uartTrue := by
  have stays : later.reader.Holds pending := by
    refine (Run.of_foldlM reached).invariant (fun state => state.reader.Holds pending) held ?_
    intro before call after stuck stepped
    rcases exists_of_bind_eq_ok stepped with ⟨returned, called, same⟩
    cases same
    exact (readLine_stuck stuck full clean called).2
  exact (readLine_stuck stays full clean called).1

/-- Bytes that fit come in whole on an open port. -/
theorem incoming_arrived (opened : reader.isnormal = uartTrue) (clean : (0x0A : UInt8) ∉ pending) {bytes : Bytes}
    (some_bytes : bytes ≠ []) (fits : bytes.length ≤ readLineBufSize - pending.length) :
    reader.incoming pending (fun _ => .arrived bytes) = bytes := by
  have whole : bytes.take (readLineBufSize - pending.length) = bytes := List.take_of_length_le fits
  have normal : ¬ uartTrue = uartFalse := by decide
  rw [incoming_clean _ clean]
  simp only [LineReader.readBuffer, opened, if_neg normal, room_toNat, whole,
    if_pos (List.length_pos_iff.mpr some_bytes), Option.getD_some]

/-- Bytes without a line that fill the empty buffer stay pending. -/
theorem readLine_fills (bytes : Bytes) (size : bytes.length = readLineBufSize) (clean : (0x0A : UInt8) ∉ bytes) :
    exists traffic,
      (Traffic.start uartTrue).readLine ⟨some LineBuf.zeroed, 0, fun _ => .arrived bytes⟩ = .ok traffic ∧
      traffic.reader.Holds bytes := by
  have empty : (Traffic.start uartTrue).reader.Holds [] := (Traffic.start_follows uartTrue).held
  have some_bytes : bytes ≠ [] := List.length_pos_iff.mp (size ▸ (by decide : 0 < readLineBufSize))
  rcases readLine_takes LineBuf.zeroed (fun _ => .arrived bytes) empty 0 with
    ⟨returned, line, next, done, takes, stepped⟩
  rw [incoming_arrived rfl List.not_mem_nil some_bytes (Nat.le_of_eq size)] at stepped
  rcases stepped with ⟨-, outcome⟩
  rw [List.nil_append, firstLine_none.mpr clean] at outcome
  have pending : next = bytes := outcome.2
  refine ⟨{
    reader := returned.reader
    log := [⟨(Traffic.start uartTrue).reader.delivered (fun _ => .arrived bytes) returned.asked, returned.line⟩] },
    ?_, pending ▸ takes.held⟩
  simp only [Traffic.readLine, done, ok_bind]
  rfl

/-- With a line in the buffer, or room for its end, a line can be returned. -/
theorem readLine_returns_line (opened : reader.isnormal = uartTrue) (held : reader.Holds pending)
    (room : ¬ (pending.length = readLineBufSize ∧ (0x0A : UInt8) ∉ pending)) (readBuf : LineBuf) (readLen : UInt32) :
    exists returned, reader.readLine (some readBuf) (fun _ => .arrived [0x0A]) readLen = .ok returned ∧
      returned.code = uartTrue := by
  rcases readLine_takes readBuf (fun _ => .arrived [0x0A]) held readLen with
    ⟨returned, line, next, done, takes, stepped⟩
  refine ⟨returned, done, ?_⟩
  have ends : (0x0A : UInt8) ∈ pending ++ reader.incoming pending (fun _ => .arrived [0x0A]) := by
    by_cases present : (0x0A : UInt8) ∈ pending
    · exact List.mem_append_left _ present
    · have short : pending.length < readLineBufSize :=
        Nat.lt_of_le_of_ne held.length_le (fun full => room ⟨full, present⟩)
      rw [incoming_arrived opened present (List.cons_ne_nil _ _) (by rw [List.length_singleton]; omega)]
      exact List.mem_append_right _ (List.mem_singleton_self _)
  rcases LineCall.step_returns ends stepped with ⟨found, is_line⟩
  rw [takes.code, show line = some found from is_line]
  rfl

end Full

/-- From the state that a run of calls on an open port has reached, some
further calls can return a line exactly when the bytes received so far do not
end in 256 or more without `0x0A`. -/
theorem readLine_unwedged_iff (calls : List ReadLineCall) :
    exists traffic, calls.foldlM Traffic.readLine (.start uartTrue) = .ok traffic ∧
      ((exists (more : List ReadLineCall) (later : Traffic) (call : ReadLineCall) (returned : Returned),
          more.foldlM Traffic.readLine traffic = .ok later ∧
          later.reader.readLine call.readBuf call.port call.readLen = .ok returned ∧ returned.code = uartTrue) ↔
        (unfinished 0x0A (LineCall.received traffic.log)).length < 256) := by
  rcases Traffic.run_follows (Traffic.start_follows uartTrue) calls with ⟨traffic, done, flag, held, run⟩
  refine ⟨traffic, done, ?_⟩
  refine Iff.trans ?_ (LineCall.full_iff run).symm
  constructor
  · rintro ⟨more, later, call, returned, reached, called, returns⟩ ⟨full, clean⟩
    exact run_stuck held full clean reached called returns
  · intro room
    rcases readLine_returns_line flag held room LineBuf.zeroed 0 with ⟨returned, called, returns⟩
    exact ⟨[], traffic, ⟨some LineBuf.zeroed, 0, fun _ => .arrived [0x0A]⟩, returned, rfl, called, returns⟩

/-- As many bytes as the buffer holds, all the letter A. -/
def longLine : Bytes := List.replicate 256 0x41

def longLineCall : ReadLineCall where
  readBuf := some LineBuf.zeroed
  readLen := 0
  port := fun _ => .arrived longLine

/-- After one read of a line that fills the buffer no call returns a line
again. -/
theorem long_line_wedges :
    exists traffic, [longLineCall].foldlM Traffic.readLine (.start uartTrue) = .ok traffic ∧
      forall (more : List ReadLineCall) (later : Traffic) (call : ReadLineCall) (returned : Returned),
        more.foldlM Traffic.readLine traffic = .ok later ->
        later.reader.readLine call.readBuf call.port call.readLen = .ok returned ->
        returned.code ≠ uartTrue := by
  have clean : (0x0A : UInt8) ∉ longLine := fun member => absurd (List.eq_of_mem_replicate member) (by decide)
  rcases readLine_fills longLine List.length_replicate clean with ⟨traffic, called, held⟩
  refine ⟨traffic, ?_, ?_⟩
  · rw [List.foldlM_cons, longLineCall, called]
    rfl
  · intro more later call returned reached again
    exact run_stuck held List.length_replicate clean reached again

end SerialPort
end MotionDetectAlarm
