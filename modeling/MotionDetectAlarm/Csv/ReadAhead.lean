import MotionDetectAlarm.Csv.AsynchronousReader

namespace MotionDetectAlarm
namespace Csv

open Foundation

/-!
# What the read ahead keeps

The calls return what they would return if the file were read where its bytes
are needed.  The invariant has two parts.  To the caller, the blocks show the
file up to what is unread; what has been read ahead counts as unread until it is
passed on.  The worker and the caller together are at one of a few stages, which
say who uses the third block and what has come into it.
-/

/-! ## The scan -/

section Scan

/-- The scan stops at the end or at a line feed. -/
theorem findLineEnd_stops (buffer : Nat -> UInt8) (left first : Nat) :
    LineReader.findLineEnd buffer left first = first + left ∨
      buffer (LineReader.findLineEnd buffer left first) = newline := by
  induction left generalizing first with
  | zero => exact Or.inl rfl
  | succ left ih =>
      rw [LineReader.findLineEnd]
      by_cases other : buffer first ≠ newline
      · rw [if_pos other]
        rcases ih (first + 1) with whole | stopped
        · exact Or.inl (by omega)
        · exact Or.inr stopped
      · rw [if_neg other]
        exact Or.inr (not_not.mp other)

theorem terminate_beyond (buffer : Nat -> UInt8) {dataBegin lineEnd i : Nat} (beyond : lineEnd < i) :
    LineReader.terminate buffer dataBegin lineEnd i = buffer i := by
  unfold LineReader.terminate
  split
  · rw [Function.update_of_ne (by omega), Function.update_of_ne (by omega)]
  · rw [Function.update_of_ne (by omega)]

/-- The scan has nothing to do with what is unread. -/
theorem cutLine_with (lines : LineReader) (byteSource : Option Bytes) :
    LineReader.cutLine { lines with reader := byteSource } =
      lines.cutLine.map (fun cut => (cut.1, { cut.2 with reader := byteSource })) := by
  unfold LineReader.cutLine
  dsimp only
  split <;> rfl

/-- What the scan leaves alone.  The end of the data moves only when it is
reached. -/
theorem cutLine_keeps {lines after : LineReader} {line : Bytes} (cut : lines.cutLine = .ok (line, after))
    (ordered : lines.dataBegin ≤ lines.dataEnd) (start : lines.dataBegin < blockLen) :
    after.reader = lines.reader ∧ (forall i, 2 * blockLen ≤ i -> after.buffer i = lines.buffer i) ∧
      (after.dataEnd = lines.dataEnd ∨ after.dataBegin = after.dataEnd) := by
  let lineEnd := LineReader.findLineEnd lines.buffer (lines.dataEnd - lines.dataBegin) lines.dataBegin
  have stops := findLineEnd_stops lines.buffer (lines.dataEnd - lines.dataBegin) lines.dataBegin
  rw [Nat.add_sub_cancel' ordered] at stops
  unfold LineReader.cutLine at cut
  by_cases long : blockLen < lineEnd - lines.dataBegin + 1
  · dsimp only at cut
    rw [if_pos long] at cut
    cases cut
  · dsimp only at cut
    rw [if_neg long] at cut
    cases cut
    refine ⟨rfl, ?_, ?_⟩
    · intro i beyond
      exact terminate_beyond lines.buffer (by change lineEnd < i; omega)
    · change (if lines.buffer lineEnd = newline ∧ lineEnd ≠ lines.dataEnd then lines.dataEnd else lines.dataEnd + 1) =
          lines.dataEnd ∨ lineEnd + 1 =
        if lines.buffer lineEnd = newline ∧ lineEnd ≠ lines.dataEnd then lines.dataEnd else lines.dataEnd + 1
      by_cases inside : lines.buffer lineEnd = newline ∧ lineEnd ≠ lines.dataEnd
      · exact Or.inl (if_pos inside)
      · rw [if_neg inside]
        rcases stops with atEnd | stopped
        · exact Or.inr (congrArg (fun last => last + 1) atEnd)
        · by_cases atEnd : lineEnd = lines.dataEnd
          · exact Or.inr (congrArg (fun last => last + 1) atEnd)
          · exact absurd ⟨stopped, atEnd⟩ inside

end Scan

/-! ## What the blocks show -/

/-- The data in the blocks and what is unread make up the rest of the file.  Where
something is unread, the data goes up to the limit. -/
structure LineReader.Shows (lines : LineReader) (limit : Nat) (unread rest : Bytes) : Prop where
  ordered : lines.dataBegin ≤ lines.dataEnd
  bounded : lines.dataEnd ≤ limit
  full : unread ≠ [] -> lines.dataEnd = limit ∧ lines.dataBegin < lines.dataEnd
  window : slice lines.buffer lines.dataBegin lines.dataEnd ++ unread = rest

namespace LineReader

variable {lines other : LineReader} {limit : Nat} {unread rest : Bytes}

theorem Shows.fronts (shows : lines.Shows (2 * blockLen) unread rest) :
    LineReader.Fronts { lines with reader := some unread } rest :=
  ⟨shows.ordered, shows.bounded, shows.full, shows.window⟩

theorem Fronts.shows (fronts : lines.Fronts rest) : lines.Shows (2 * blockLen) lines.unread rest :=
  ⟨fronts.ordered, fronts.bounded, fronts.full, fronts.window⟩

/-- Only the first two blocks are shown. -/
theorem Shows.of_same (shows : lines.Shows limit unread rest) (first : other.dataBegin = lines.dataBegin)
    (last : other.dataEnd = lines.dataEnd) (inside : limit ≤ 2 * blockLen)
    (same : forall i, i < 2 * blockLen -> other.buffer i = lines.buffer i) : other.Shows limit unread rest := by
  have bounded := shows.bounded
  refine ⟨by rw [first, last]; exact shows.ordered, by rw [last]; exact bounded, ?_, ?_⟩
  · rw [first, last]
    exact shows.full
  · rw [first, last, ← shows.window]
    exact congrArg (fun shown => shown ++ unread) (slice_congr (fun i _ below => same i (by omega)))

/-- A line starts in what is shown. -/
theorem Shows.below (shows : lines.Shows limit unread rest) (some_rest : rest ≠ []) :
    lines.dataBegin < lines.dataEnd := by
  rcases Nat.lt_or_eq_of_le shows.ordered with below | same
  · exact below
  · by_cases read : unread = []
    · refine absurd ?_ some_rest
      rw [← shows.window, read, same, slice_self, List.append_nil]
    · exact (shows.full read).2

theorem Shows.empty_iff (shows : lines.Shows limit unread rest) : rest = [] ↔ lines.dataBegin = lines.dataEnd := by
  constructor
  · intro empty
    have nothing := shows.window.trans empty
    by_contra different
    have below := Nat.lt_of_le_of_ne shows.ordered different
    have size := congrArg List.length nothing
    rw [List.length_append, slice_length, List.length_nil] at size
    omega
  · intro same
    by_contra some_rest
    exact absurd same (Nat.ne_of_lt (shows.below some_rest))

/-- The move of the second block into the place of the first. -/
theorem Shows.moved (shows : lines.Shows (2 * blockLen) unread rest) (second : blockLen ≤ lines.dataBegin)
    (some_rest : rest ≠ []) {moved : LineReader} (buffer : moved.buffer = copy lines.buffer 0 blockLen blockLen)
    (first : moved.dataBegin = lines.dataBegin - blockLen) (last : moved.dataEnd = lines.dataEnd - blockLen) :
    moved.Shows blockLen unread rest ∧ moved.dataBegin < blockLen := by
  have bounded := shows.bounded
  have below := shows.below some_rest
  refine ⟨⟨by omega, by omega, ?_, ?_⟩, by omega⟩
  · intro some_unread
    have full := (shows.full some_unread).1
    exact ⟨by omega, by omega⟩
  · rw [buffer, first, last, moved_shown second bounded]
    exact shows.window

/-- What has been read ahead is passed on. -/
theorem Shows.refilled {ahead byteSource : Bytes} (shows : lines.Shows blockLen (ahead ++ byteSource) rest)
    (read : slice lines.buffer (2 * blockLen) (2 * blockLen + ahead.length) = ahead)
    (fits : ahead.length ≤ blockLen) (short : ahead.length < blockLen -> byteSource = []) {refilled : LineReader}
    (buffer : refilled.buffer = copy lines.buffer blockLen (2 * blockLen) blockLen)
    (first : refilled.dataBegin = lines.dataBegin) (last : refilled.dataEnd = lines.dataEnd + ahead.length) :
    refilled.Shows (2 * blockLen) byteSource rest := by
  have positive := blockLen_pos
  have ordered := shows.ordered
  have bounded := shows.bounded
  have full : ahead ≠ [] -> lines.dataEnd = blockLen := by
    intro some_ahead
    exact (shows.full (fun empty => some_ahead (List.append_eq_nil_iff.mp empty).1)).1
  refine ⟨by omega, by omega, ?_, ?_⟩
  · intro some_source
    have whole : ahead.length = blockLen := by
      by_contra other
      exact some_source (short (by omega))
    have edge := full (List.length_pos_iff.mp (by omega))
    exact ⟨by omega, by omega⟩
  · have kept : slice (copy lines.buffer blockLen (2 * blockLen) blockLen) lines.dataBegin lines.dataEnd =
        slice lines.buffer lines.dataBegin lines.dataEnd := by
      apply slice_congr
      intro i _ below
      exact copy_outside (by omega)
    have added : slice (copy lines.buffer blockLen (2 * blockLen) blockLen) lines.dataEnd
        (lines.dataEnd + ahead.length) = ahead := by
      by_cases nothing : ahead = []
      · rw [nothing, List.length_nil, Nat.add_zero, slice_self]
      · rw [full nothing]
        exact (slice_copy (k := 0) (by omega)).trans read
    rw [buffer, first, last, ← slice_append ordered (Nat.le_add_right _ _), kept, added, List.append_assoc]
    exact shows.window

/-- The scan refuses a line as long as a block, and takes a shorter one off the
rest of the file. -/
theorem Shows.scanned (shows : lines.Shows (2 * blockLen) unread rest) (start : lines.dataBegin < blockLen) :
    (blockLen ≤ (firstLineOf rest).length ∧ lines.cutLine = .error (tooLong lines.fileName lines.fileLine)) ∨
    ((firstLineOf rest).length < blockLen ∧
      exists after, lines.cutLine = .ok ((lineText (firstLineOf rest)).text, after) ∧
        after.Shows (2 * blockLen) unread (afterFirstLine rest) ∧ after.fileName = lines.fileName ∧
        after.fileLine = lines.fileLine) := by
  have same : lines.cutLine =
      (LineReader.cutLine { lines with reader := some unread }).map
        (fun cut => (cut.1, { cut.2 with reader := lines.reader })) :=
    cutLine_with { lines with reader := some unread } lines.reader
  rcases Nat.lt_or_ge (firstLineOf rest).length blockLen with short | long
  · rcases cutLine_line shows.fronts start short with ⟨after, cut, next, fileName, fileLine⟩
    have source := (cutLine_keeps cut shows.ordered start).1
    have kept : after.unread = unread := by rw [LineReader.unread, source]; rfl
    refine Or.inr ⟨short, { after with reader := lines.reader }, by rw [same, cut]; rfl, ?_, fileName, fileLine⟩
    have shown := next.shows
    rw [kept] at shown
    exact ⟨shown.ordered, shown.bounded, shown.full, shown.window⟩
  · refine Or.inl ⟨long, ?_⟩
    rw [same, cutLine_long shows.fronts start long]
    rfl

end LineReader

/-! ## What the calls have returned -/

/-- After what the calls have returned, the calls to come return what is to be
returned for the rest of the file. -/
def Told (fileName whole : Bytes) (returned : List Answer) (fileLine : UInt32) (rest : Bytes) : Prop :=
  forall number, answersOf fileName 0 whole (returned.length + number) =
    returned ++ answersOf fileName fileLine rest number

namespace Told

variable {fileName whole rest : Bytes} {returned : List Answer} {fileLine : UInt32}

theorem start : Told fileName whole [] 0 whole := by
  intro number
  rw [List.length_nil, Nat.zero_add, List.nil_append]

theorem here (told : Told fileName whole returned fileLine rest) :
    answersOf fileName 0 whole returned.length = returned :=
  (told 0).trans (List.append_nil returned)

/-- One more answer. -/
theorem more (told : Told fileName whole returned fileLine rest) {answer : Answer} {nextLine : UInt32} {next : Bytes}
    (answered : forall number, answersOf fileName fileLine rest (number + 1) =
      answer :: answersOf fileName nextLine next number) :
    Told fileName whole (returned ++ [answer]) nextLine next := by
  intro number
  have later := told (number + 1)
  rw [answered] at later
  rw [List.length_append, List.length_singleton, Nat.add_assoc, Nat.add_comm 1 number, later, List.append_assoc,
    List.singleton_append]

theorem null (told : Told fileName whole returned fileLine rest) (empty : rest = []) :
    Told fileName whole (returned ++ [.ok none]) fileLine rest :=
  told.more (fun _ => by rw [answersOf, if_pos empty])

theorem line (told : Told fileName whole returned fileLine rest) (some_rest : rest ≠ [])
    (short : (firstLineOf rest).length < blockLen) :
    Told fileName whole (returned ++ [.ok (some (lineText (firstLineOf rest)).text)]) (fileLine + 1)
      (afterFirstLine rest) :=
  told.more (fun _ => by rw [answersOf, if_neg some_rest, if_neg (Nat.not_le.mpr short)])

/-- The exception is the last answer. -/
theorem refused (told : Told fileName whole returned fileLine rest) (some_rest : rest ≠ [])
    (long : blockLen ≤ (firstLineOf rest).length) :
    answersOf fileName 0 whole (returned ++ [(.error (tooLong fileName (fileLine + 1)) : Answer)]).length =
      returned ++ [.error (tooLong fileName (fileLine + 1))] := by
  rw [List.length_append, List.length_singleton, told 1, answersOf, if_neg some_rest, if_pos long]

end Told

namespace Threads

/-- Between two calls. -/
def Between (fileName whole : Bytes) (threads : Threads) (unread : Bytes) : Prop :=
  exists rest, threads.lines.Shows (2 * blockLen) unread rest ∧
    Told fileName whole threads.returned threads.lines.fileLine rest

/-- In a call that will find a line, with data up to the limit. -/
def InCall (fileName whole : Bytes) (limit : Nat) (threads : Threads) (unread : Bytes) : Prop :=
  exists rest fileLine, rest ≠ [] ∧ threads.lines.dataBegin < blockLen ∧ threads.lines.Shows limit unread rest ∧
    threads.lines.fileLine = fileLine + 1 ∧ Told fileName whole threads.returned fileLine rest

/-- What the caller knows where it is. -/
def Place (fileName whole : Bytes) (threads : Threads) (unread : Bytes) : Prop :=
  match threads.caller with
  | .idle => Between fileName whole threads unread
  | .starting false => Between fileName whole threads unread
  | .starting true => InCall fileName whole (2 * blockLen) threads unread
  | .scanning => InCall fileName whole (2 * blockLen) threads unread
  | .finishing => InCall fileName whole blockLen threads unread
  | .awaiting => InCall fileName whole blockLen threads unread
  | .refilling _ => InCall fileName whole blockLen threads unread
  | .terminating => answersOf fileName 0 whole threads.returned.length = threads.returned
  | .signalling => answersOf fileName 0 whole threads.returned.length = threads.returned
  | .joining => answersOf fileName 0 whole threads.returned.length = threads.returned
  | .destroyed => answersOf fileName 0 whole threads.returned.length = threads.returned

end Threads

/-! ## Stages -/

/-- How far a read ahead has come. -/
inductive Stage where
  /-- There is no worker. -/
  | absent
  /-- The third block is free, and nothing has been asked for. -/
  | ready
  /-- A block has been asked for. -/
  | asked
  /-- The worker stores the block. -/
  | reading (stored : Nat)
  /-- The block can be passed on. -/
  | read (number : Nat)
  /-- The file is at its end and the worker has returned. -/
  | spent
  /-- The worker is to return. -/
  | closing
  deriving DecidableEq, Repr

/-- Where the caller can be in a stage. -/
def Stage.admits : Stage -> Caller -> Bool
  | .absent, .idle | .absent, .scanning | .absent, .destroyed => true
  | .ready, .starting _ => true
  | .asked, .idle | .asked, .scanning | .asked, .finishing | .asked, .awaiting | .asked, .terminating => true
  | .reading _, .idle | .reading _, .scanning | .reading _, .finishing | .reading _, .awaiting
  | .reading _, .terminating => true
  | .read _, .idle | .read _, .scanning | .read _, .finishing | .read _, .terminating => true
  | .read number, .refilling passed => passed = number
  | .spent, .idle | .spent, .scanning | .spent, .terminating => true
  | .closing, .signalling | .closing, .joining | .closing, .destroyed => true
  | _, _ => false

theorem admits_reading (stored : Nat) (caller : Caller) :
    (Stage.reading stored).admits caller = Stage.asked.admits caller := by
  cases caller <;> rfl

/-- The worker has not been asked for anything. -/
def Worker.resting : Worker -> Bool
  | .locking | .waiting => true
  | _ => false

/-- Where the worker can be when it is to return. -/
def Caller.stops : Caller -> Worker -> Bool
  | .signalling, .locking | .signalling, .waiting | .signalling, .finished => true
  | .joining, .locking | .joining, .finished => true
  | .destroyed, .finished => true
  | _, _ => false

/-- The third block has been asked for. -/
structure AsynchronousReader.Asked (ahead : AsynchronousReader) : Prop where
  running : ahead.terminationRequested = false
  block : ahead.buffer = 2 * blockLen
  desired : ahead.desiredByteCount = some blockLen
  unknown : ahead.readByteCount = none

namespace Threads

/-- So many bytes of what is unread have come into the third block. -/
def Arrived (threads : Threads) (unread : Bytes) (number : Nat) : Prop :=
  number ≤ blockLen ∧ exists byteSource, threads.lines.reader = some byteSource ∧
    slice threads.lines.buffer (2 * blockLen) (2 * blockLen + number) ++ byteSource = unread

/-- What holds in a stage. -/
def At (threads : Threads) (unread : Bytes) : Stage -> Prop
  | .absent => threads.ahead.worker = .absent ∧ threads.lines.reader = none ∧ unread = []
  | .ready => threads.lines.reader = some unread ∧ threads.ahead.terminationRequested = false ∧
      threads.ahead.desiredByteCount = none ∧ (threads.ahead.worker.resting ∨
        threads.ahead.worker = .finished ∧ unread = [] ∧ threads.lines.dataEnd ≤ blockLen)
  | .asked => threads.lines.reader = some unread ∧ threads.ahead.Asked ∧ threads.ahead.worker = .locking
  | .reading stored => threads.Arrived unread stored ∧ threads.ahead.Asked ∧ threads.ahead.worker = .reading stored
  | .read number => threads.Arrived unread number ∧ (number < blockLen -> threads.lines.reader = some []) ∧
      threads.ahead.terminationRequested = false ∧ threads.ahead.desiredByteCount = none ∧
      threads.ahead.readByteCount = some number ∧
      if number = 0 then threads.ahead.worker = .finished else threads.ahead.worker.resting
  | .spent => threads.lines.reader = some [] ∧ unread = [] ∧ threads.ahead.worker = .finished ∧
      (threads.lines.dataBegin < threads.lines.dataEnd -> threads.lines.dataEnd ≤ blockLen)
  | .closing => threads.lines.reader.isSome ∧ threads.ahead.terminationRequested = true ∧
      threads.caller.stops threads.ahead.worker

/-- What the worker leaves alone; it can wake the caller. -/
structure Same (before after : Threads) : Prop where
  first : after.lines.dataBegin = before.lines.dataBegin
  last : after.lines.dataEnd = before.lines.dataEnd
  fileName : after.lines.fileName = before.lines.fileName
  fileLine : after.lines.fileLine = before.lines.fileLine
  blocks : forall i, i < 2 * blockLen -> after.lines.buffer i = before.lines.buffer i
  returned : after.returned = before.returned
  caller : after.caller = before.caller ∨ before.caller = .awaiting ∧ after.caller = .finishing

section Worker

variable {fileName whole unread : Bytes} {before after : Threads} {stage : Stage}

theorem Same.place (same : Same before after) (place : before.Place fileName whole unread) :
    after.Place fileName whole unread := by
  have between : Between fileName whole before unread -> Between fileName whole after unread := by
    rintro ⟨rest, shows, told⟩
    refine ⟨rest, shows.of_same same.first same.last (Nat.le_refl _) same.blocks, ?_⟩
    rw [same.returned, same.fileLine]
    exact told
  have inCall : forall {limit}, limit ≤ 2 * blockLen -> InCall fileName whole limit before unread ->
      InCall fileName whole limit after unread := by
    rintro limit inside ⟨rest, fileLine, some_rest, start, shows, line, told⟩
    refine ⟨rest, fileLine, some_rest, by rw [same.first]; exact start,
      shows.of_same same.first same.last inside same.blocks, same.fileLine.trans line, ?_⟩
    rw [same.returned]
    exact told
  have one_block : blockLen ≤ 2 * blockLen := Nat.le_mul_of_pos_left _ (by decide)
  rcases same.caller with kept | ⟨asleep, awake⟩
  · unfold Place at place ⊢
    rw [kept, same.returned]
    cases caller : before.caller with
    | idle => rw [caller] at place; exact between place
    | starting called =>
        rw [caller] at place
        cases called with
        | false => exact between place
        | true => exact inCall (Nat.le_refl _) place
    | scanning => rw [caller] at place; exact inCall (Nat.le_refl _) place
    | finishing => rw [caller] at place; exact inCall one_block place
    | awaiting => rw [caller] at place; exact inCall one_block place
    | refilling number => rw [caller] at place; exact inCall one_block place
    | terminating => rw [caller] at place; exact place
    | signalling => rw [caller] at place; exact place
    | joining => rw [caller] at place; exact place
    | destroyed => rw [caller] at place; exact place
  · unfold Place at place ⊢
    rw [asleep] at place
    rw [awake]
    exact inCall one_block place

/-- Only the third block and the worker's own members change. -/
theorem same_of_ahead {ahead : AsynchronousReader} (changed : after = { before with ahead := ahead }) :
    Same before after := by
  subst changed
  exact ⟨rfl, rfl, rfl, rfl, fun _ _ => rfl, rfl, Or.inl rfl⟩

/-- The end of a read passes what has arrived to the caller. -/
theorem finishReading_keeps {stored : Nat} (arrived : before.Arrived unread stored)
    (whole_block : stored < blockLen -> before.lines.reader = some []) (asked : before.ahead.Asked)
    (admitted : (Stage.reading stored).admits before.caller) :
    exists stage, (before.finishReading stored).At unread stage ∧ stage.admits (before.finishReading stored).caller ∧
      Same before (before.finishReading stored) := by
  refine ⟨.read stored, ⟨arrived, whole_block, asked.running, rfl, rfl, ?_⟩, ?_, ?_⟩
  · by_cases nothing : stored = 0
    · rw [if_pos nothing]
      exact if_pos nothing
    · rw [if_neg nothing]
      exact congrArg Worker.resting (if_neg nothing)
  · change (Stage.read stored).admits before.caller.notify
    revert admitted
    cases before.caller <;> simp [Stage.admits, Caller.notify]
  · refine ⟨rfl, rfl, rfl, rfl, fun _ _ => rfl, rfl, ?_⟩
    change before.caller.notify = _ ∨ _ ∧ before.caller.notify = _
    unfold Caller.notify
    by_cases asleep : before.caller = .awaiting
    · rw [if_pos asleep]
      exact Or.inr ⟨asleep, rfl⟩
    · rw [if_neg asleep]
      exact Or.inl rfl

/-- A resting worker that has been asked for nothing goes to sleep. -/
theorem resting_waits (resting : before.ahead.worker.resting) (running : before.ahead.terminationRequested = false)
    (unasked : before.ahead.desiredByteCount = none) (stepped : before.stepWorker = some after) :
    after = { before with ahead := { before.ahead with worker := .waiting } } := by
  cases worker : before.ahead.worker with
  | locking =>
      rw [stepWorker, worker] at stepped
      dsimp only at stepped
      rw [if_neg (by rw [running]; decide), if_pos unasked] at stepped
      exact (Option.some.inj stepped).symm
  | waiting => rw [stepWorker, worker] at stepped; cases stepped
  | absent => rw [worker] at resting; cases resting
  | reading stored => rw [worker] at resting; cases resting
  | finished => rw [worker] at resting; cases resting

/-- A reading worker stores a byte, or ends its read. -/
theorem reading_keeps {stored : Nat} (here : before.At unread (.reading stored))
    (admitted : (Stage.reading stored).admits before.caller) (stepped : before.stepWorker = some after) :
    exists next, after.At unread next ∧ next.admits after.caller ∧ Same before after := by
  rcases here with ⟨arrived, asked, worker⟩
  rcases arrived with ⟨fits, byteSource, source, shown⟩
  rw [stepWorker, worker] at stepped
  dsimp only at stepped
  rw [source] at stepped
  cases byteSource with
  | nil =>
      cases stepped
      exact finishReading_keeps ⟨fits, [], source, shown⟩ (fun _ => source) asked admitted
  | cons byte byteSource =>
      dsimp only at stepped
      have limit : before.ahead.desiredByteCount.getD 0 = blockLen := by rw [asked.desired]; rfl
      by_cases more : stored < blockLen
      · rw [if_pos (by rw [limit]; exact more)] at stepped
        cases stepped
        refine ⟨.reading (stored + 1), ⟨⟨more, byteSource, rfl, ?_⟩, ⟨asked.running, asked.block, asked.desired,
          asked.unknown⟩, rfl⟩, ?_, ⟨rfl, rfl, rfl, rfl, ?_, rfl, Or.inl rfl⟩⟩
        · change slice (Function.update before.lines.buffer (before.ahead.buffer + stored) byte) (2 * blockLen)
            (2 * blockLen + (stored + 1)) ++ byteSource = unread
          rw [asked.block, ← Nat.add_assoc, slice_succ (Nat.le_add_right _ _),
            slice_update (Or.inr (Nat.le_refl _)), Function.update_self, ← shown, List.append_assoc,
            List.singleton_append]
        · rw [admits_reading] at admitted ⊢
          exact admitted
        · intro i below
          change Function.update before.lines.buffer (before.ahead.buffer + stored) byte i = before.lines.buffer i
          rw [asked.block]
          exact Function.update_of_ne (by omega) _ _
      · rw [if_neg (by rw [limit]; exact more)] at stepped
        cases stepped
        exact finishReading_keeps ⟨fits, byte :: byteSource, source, shown⟩ (fun less => absurd less more) asked
          admitted

/-- A step of the worker goes on to the next stage, or stays in its stage. -/
theorem stepWorker_keeps (here : before.At unread stage) (admitted : stage.admits before.caller)
    (stepped : before.stepWorker = some after) :
    exists next, after.At unread next ∧ next.admits after.caller ∧ Same before after := by
  cases stage with
  | absent =>
      rw [stepWorker, here.1] at stepped
      cases stepped
  | ready =>
      rcases here with ⟨source, running, unasked, resting | ⟨finished, empty⟩⟩
      · rcases resting_waits resting running unasked stepped with rfl
        exact ⟨.ready, ⟨source, running, unasked, Or.inl rfl⟩, admitted, same_of_ahead rfl⟩
      · rw [stepWorker, finished] at stepped
        cases stepped
  | asked =>
      rcases here with ⟨source, asked, worker⟩
      rw [stepWorker, worker] at stepped
      dsimp only at stepped
      rw [if_neg (by rw [asked.running]; decide), if_neg (by rw [asked.desired]; exact Option.some_ne_none _)] at stepped
      cases stepped
      refine ⟨.reading 0, ⟨⟨Nat.zero_le _, unread, source, ?_⟩, ⟨asked.running, asked.block, asked.desired,
        asked.unknown⟩, rfl⟩, ?_, same_of_ahead rfl⟩
      · rw [Nat.add_zero, slice_self, List.nil_append]
      · rw [admits_reading]
        exact admitted
  | reading stored => exact reading_keeps here admitted stepped
  | read number =>
      rcases here with ⟨arrived, whole_block, running, unasked, count, resting⟩
      by_cases nothing : number = 0
      · rw [if_pos nothing] at resting
        rw [stepWorker, resting] at stepped
        cases stepped
      · rw [if_neg nothing] at resting
        rcases resting_waits resting running unasked stepped with rfl
        refine ⟨.read number, ⟨arrived, whole_block, running, unasked, count, ?_⟩, admitted, same_of_ahead rfl⟩
        rw [if_neg nothing]
        rfl
  | spent =>
      rw [stepWorker, here.2.2.1] at stepped
      cases stepped
  | closing =>
      rcases here with ⟨source, requested, stops⟩
      cases worker : before.ahead.worker with
      | locking =>
          rw [stepWorker, worker] at stepped
          dsimp only at stepped
          rw [if_pos requested] at stepped
          cases stepped
          refine ⟨.closing, ⟨source, requested, ?_⟩, admitted, same_of_ahead rfl⟩
          rw [worker] at stops
          revert stops
          cases before.caller <;> simp [Caller.stops]
      | waiting => rw [stepWorker, worker] at stepped; cases stepped
      | finished => rw [stepWorker, worker] at stepped; cases stepped
      | absent => rw [stepWorker, worker] at stepped; cases stepped
      | reading stored =>
          rw [worker] at stops
          revert stops
          cases before.caller <;> simp [Caller.stops]

end Worker

/-! ## The caller -/

theorem notify_worker (ahead : AsynchronousReader) :
    ahead.notify.worker = if ahead.worker = .waiting then .locking else ahead.worker := by
  unfold AsynchronousReader.notify
  split <;> rfl

theorem admits_scanning (stage : Stage) : stage.admits .scanning = stage.admits .idle := by
  cases stage <;> rfl

/-- The stages in which the program can call. -/
theorem of_admits_idle {stage : Stage} (admitted : stage.admits .idle) :
    stage ≠ .closing ∧ stage ≠ .ready ∧
      if stage = .absent then stage.admits .destroyed else stage.admits .terminating := by
  cases stage <;> simp_all [Stage.admits]

section Caller

variable {fileName whole unread : Bytes} {before after : Threads} {stage : Stage}

/-- There is a worker but where the file did not fill two blocks. -/
theorem At.worker (here : before.At unread stage) :
    stage = .absent ∧ before.lines.reader = none ∧ unread = [] ∨
      stage ≠ .absent ∧ before.lines.reader.isSome := by
  cases stage with
  | absent => exact Or.inl ⟨rfl, here.2⟩
  | ready => exact Or.inr ⟨nofun, by rw [here.1]; rfl⟩
  | asked => exact Or.inr ⟨nofun, by rw [here.1]; rfl⟩
  | reading stored =>
      rcases here.1 with ⟨-, byteSource, source, -⟩
      exact Or.inr ⟨nofun, by rw [source]; rfl⟩
  | read number =>
      rcases here.1 with ⟨-, byteSource, source, -⟩
      exact Or.inr ⟨nofun, by rw [source]; rfl⟩
  | spent => exact Or.inr ⟨nofun, by rw [here.1]; rfl⟩
  | closing => exact Or.inr ⟨nofun, here.1⟩

/-- The caller may work on the first two blocks in any stage in which it can be
between two calls. -/
theorem At.of_blocks (here : before.At unread stage) (admitted : stage.admits .idle)
    (ahead : after.ahead = before.ahead) (reader : after.lines.reader = before.lines.reader)
    (third : forall i, 2 * blockLen ≤ i -> after.lines.buffer i = before.lines.buffer i)
    (last : stage = .spent -> after.lines.dataBegin < after.lines.dataEnd -> after.lines.dataEnd ≤ blockLen) :
    after.At unread stage := by
  have arrived : forall {number}, before.Arrived unread number -> after.Arrived unread number := by
    rintro number ⟨fits, byteSource, source, shown⟩
    refine ⟨fits, byteSource, reader.trans source, ?_⟩
    rw [← shown]
    exact congrArg (fun block => block ++ byteSource) (slice_congr (fun i beyond _ => third i beyond))
  cases stage with
  | absent => exact ⟨by rw [ahead]; exact here.1, reader.trans here.2.1, here.2.2⟩
  | ready => cases admitted
  | asked => exact ⟨reader.trans here.1, by rw [ahead]; exact here.2.1, by rw [ahead]; exact here.2.2⟩
  | reading stored => exact ⟨arrived here.1, by rw [ahead]; exact here.2.1, by rw [ahead]; exact here.2.2⟩
  | read number =>
      refine ⟨arrived here.1, fun less => reader.trans (here.2.1 less), ?_⟩
      rw [ahead]
      exact here.2.2
  | spent => exact ⟨reader.trans here.1, here.2.1, by rw [ahead]; exact here.2.2.1, last rfl⟩
  | closing => cases admitted

/-- The reader is given up between two calls or by an exception. -/
theorem destroy_keeps (here : before.At unread stage) (admitted : stage.admits .idle)
    (told : answersOf fileName 0 whole before.returned.length = before.returned) :
    before.destroy.At unread stage ∧ stage.admits before.destroy.caller ∧
      before.destroy.Place fileName whole unread := by
  have spent : stage = .spent -> before.lines.dataBegin < before.lines.dataEnd -> before.lines.dataEnd ≤ blockLen := by
    rintro rfl
    exact here.2.2.2
  have next := (of_admits_idle admitted).2.2
  refine ⟨here.of_blocks admitted rfl rfl (fun _ _ => rfl) spent, ?_⟩
  rcases here.worker with ⟨absent, none_read, -⟩ | ⟨present, some_reader⟩
  · have place : before.destroy.caller = .destroyed := by
      exact if_neg (by rw [none_read]; decide)
    rw [if_pos absent] at next
    refine ⟨by rw [place]; exact next, ?_⟩
    rw [Place, place]
    exact told
  · have place : before.destroy.caller = .terminating := if_pos some_reader
    rw [if_neg present] at next
    refine ⟨by rw [place]; exact next, ?_⟩
    rw [Place, place]
    exact told

/-- Where the threads and the program stand, with what the calls have returned. -/
def Sound (fileName whole : Bytes) (threads : Threads) : Prop :=
  threads.lines.fileName = fileName ∧
    exists unread stage, threads.At unread stage ∧ stage.admits threads.caller ∧
      threads.Place fileName whole unread

/-- A call returns a null pointer at the end of the file, or goes on to the scan
or to what has been read ahead. -/
theorem nextLine_keeps (here : before.At unread stage) (admitted : stage.admits .idle)
    (between : Between fileName whole before unread) (idle : before.caller = .idle) :
    before.nextLine.At unread stage ∧ stage.admits before.nextLine.caller ∧
      before.nextLine.Place fileName whole unread := by
  rcases between with ⟨rest, shows, told⟩
  have spent : stage = .spent -> before.lines.dataBegin < before.lines.dataEnd -> before.lines.dataEnd ≤ blockLen := by
    rintro rfl
    exact here.2.2.2
  rw [nextLine]
  by_cases atEnd : before.lines.dataBegin = before.lines.dataEnd
  · rw [if_pos atEnd]
    refine ⟨here.of_blocks admitted rfl rfl (fun _ _ => rfl) spent, ?_, ?_⟩
    · change stage.admits before.caller
      rw [idle]
      exact admitted
    · have place : Between fileName whole { before with returned := before.returned ++ [.ok none] } unread :=
        ⟨rest, shows, told.null (shows.empty_iff.mpr atEnd)⟩
      rw [Place]
      dsimp only
      rw [idle]
      exact place
  · have some_rest : rest ≠ [] := fun empty => atEnd (shows.empty_iff.mp empty)
    have below := shows.below some_rest
    rw [if_neg atEnd]
    dsimp only
    by_cases second : blockLen ≤ before.lines.dataBegin
    · rw [if_pos second]
      have third : forall i, 2 * blockLen ≤ i ->
          copy before.lines.buffer 0 blockLen blockLen i = before.lines.buffer i := by
        intro i beyond
        exact copy_outside (by omega)
      let moved : LineReader :=
        { before.lines with
          fileLine := before.lines.fileLine + 1
          buffer := copy before.lines.buffer 0 blockLen blockLen
          dataBegin := before.lines.dataBegin - blockLen
          dataEnd := before.lines.dataEnd - blockLen }
      have shown_moved : moved.Shows blockLen unread rest ∧ moved.dataBegin < blockLen :=
        shows.moved second some_rest rfl rfl rfl
      rcases shown_moved with ⟨shown, start⟩
      have not_spent : stage ≠ .spent := fun atEnd => absurd (spent atEnd below) (by omega)
      refine ⟨here.of_blocks admitted rfl rfl third (fun atEnd => absurd atEnd not_spent), ?_⟩
      rcases here.worker with ⟨absent, none_read, read⟩ | ⟨present, some_reader⟩
      · rw [if_neg (by rw [none_read]; decide)]
        refine ⟨by rw [admits_scanning]; exact admitted, ?_⟩
        have one_block : blockLen ≤ 2 * blockLen := Nat.le_mul_of_pos_left _ (by decide)
        have whole_blocks : moved.Shows (2 * blockLen) unread rest :=
          ⟨shown.ordered, Nat.le_trans shown.bounded one_block, fun some_unread => absurd read some_unread,
            shown.window⟩
        exact ⟨rest, before.lines.fileLine, some_rest, start, whole_blocks, rfl, told⟩
      · rw [if_pos some_reader]
        refine ⟨?_, ?_⟩
        · have finishing : stage.admits .finishing := by cases stage <;> simp_all [Stage.admits]
          exact finishing
        · exact ⟨rest, before.lines.fileLine, some_rest, start, shown, rfl, told⟩
    · rw [if_neg second]
      refine ⟨here.of_blocks admitted rfl rfl (fun _ _ => rfl) spent, by rw [admits_scanning]; exact admitted, ?_⟩
      exact ⟨rest, before.lines.fileLine, some_rest, Nat.lt_of_not_le second,
        shows.of_same rfl rfl (Nat.le_refl _) (fun _ _ => rfl), rfl, told⟩

/-- The scan returns the line or gives the reader up. -/
theorem scan_keeps (here : before.At unread stage) (admitted : stage.admits .idle)
    (called : InCall before.lines.fileName whole (2 * blockLen) before unread) :
    before.scan.At unread stage ∧ stage.admits before.scan.caller ∧
      before.scan.Place before.lines.fileName whole unread ∧ before.scan.lines.fileName = before.lines.fileName := by
  rcases called with ⟨rest, fileLine, some_rest, start, shows, line, told⟩
  rw [scan]
  rcases shows.scanned start with ⟨long, refused⟩ | ⟨short, after, cut, shown, fileName, fileLine_kept⟩
  · rw [refused]
    dsimp only
    let refused : Threads :=
      { before with returned := before.returned ++ [.error (tooLong before.lines.fileName before.lines.fileLine)] }
    have told_all : answersOf before.lines.fileName 0 whole refused.returned.length = refused.returned := by
      change answersOf before.lines.fileName 0 whole (before.returned ++ [(.error (tooLong before.lines.fileName
        before.lines.fileLine) : Answer)]).length = _ ++ _
      rw [line]
      exact told.refused some_rest long
    have spent : stage = .spent -> before.lines.dataBegin < before.lines.dataEnd ->
        before.lines.dataEnd ≤ blockLen := by
      rintro rfl
      exact here.2.2.2
    have there : refused.At unread stage := here.of_blocks admitted rfl rfl (fun _ _ => rfl) spent
    rcases destroy_keeps there admitted told_all with ⟨kept, next, place⟩
    exact ⟨kept, next, place, rfl⟩
  · rw [cut]
    dsimp only
    rcases cutLine_keeps cut shows.ordered start with ⟨reader, third, last⟩
    refine ⟨here.of_blocks admitted rfl reader third ?_, admitted, ?_, fileName⟩
    · rintro rfl below
      rcases last with same | atEnd
      · change after.dataEnd ≤ blockLen
        rw [same]
        exact here.2.2.2 (shows.below some_rest)
      · exact absurd atEnd (Nat.ne_of_lt below)
    · refine ⟨afterFirstLine rest, shown, ?_⟩
      change Told before.lines.fileName whole (before.returned ++ _) after.fileLine (afterFirstLine rest)
      rw [fileLine_kept, line]
      exact told.line some_rest short

/-- What has been read ahead is passed on, and the third block is free. -/
theorem refill_keeps {number : Nat} (here : before.At unread (.read number))
    (called : InCall fileName whole blockLen before unread) :
    exists unread, (before.refill number).At unread .ready ∧ (before.refill number).Place fileName whole unread := by
  rcases here with ⟨⟨fits, byteSource, source, arrived⟩, short, running, unasked, -, resting⟩
  rcases called with ⟨rest, fileLine, some_rest, start, shows, line, told⟩
  have size : (slice before.lines.buffer (2 * blockLen) (2 * blockLen + number)).length = number := by
    rw [slice_length, Nat.add_sub_cancel_left]
  have last_block : number < blockLen -> byteSource = [] := by
    intro less
    have empty := short less
    rw [source] at empty
    exact Option.some.inj empty
  rw [← arrived] at shows
  have shown : (before.refill number).lines.Shows (2 * blockLen) byteSource rest := by
    refine shows.refilled ?_ (by rw [size]; exact fits) (by rw [size]; exact last_block) rfl rfl ?_
    · rw [size]
    · rw [size]
      rfl
  refine ⟨byteSource, ⟨source, running, unasked, ?_⟩, rest, fileLine, some_rest, start, shown, line, told⟩
  by_cases nothing : number = 0
  · rw [if_pos nothing] at resting
    refine Or.inr ⟨resting, last_block (by rw [nothing]; exact blockLen_pos), ?_⟩
    change before.lines.dataEnd + number ≤ blockLen
    rw [nothing]
    exact shows.bounded
  · rw [if_neg nothing] at resting
    exact Or.inl resting

/-- `start_read` asks for the third block, unless the worker has returned.  The
program can call in both stages. -/
theorem startRead_keeps (here : before.At unread .ready)
    (ahead : after.ahead = before.ahead.startRead (2 * blockLen) blockLen) (lines : after.lines = before.lines) :
    exists stage, Stage.admits stage .idle ∧ after.At unread stage := by
  rcases here with ⟨source, running, unasked, resting | ⟨finished, empty, last⟩⟩
  · refine ⟨.asked, rfl, by rw [lines]; exact source, ?_⟩
    rw [ahead, AsynchronousReader.startRead, AsynchronousReader.notify]
    cases worker : before.ahead.worker with
    | locking => exact ⟨⟨running, rfl, rfl, rfl⟩, rfl⟩
    | waiting => exact ⟨⟨running, rfl, rfl, rfl⟩, rfl⟩
    | absent => rw [worker] at resting; cases resting
    | reading stored => rw [worker] at resting; cases resting
    | finished => rw [worker] at resting; cases resting
  · refine ⟨.spent, rfl, by rw [lines, source, empty], empty, ?_, fun _ => by rw [lines]; exact last⟩
    rw [ahead, AsynchronousReader.startRead, AsynchronousReader.notify, if_neg (by rw [finished]; decide)]
    exact finished

/-- The destructor asks the worker to return, in whatever stage it has the lock. -/
theorem terminating_keeps (here : before.At unread stage) (admitted : stage.admits .terminating)
    (unlocked : ¬ before.ahead.worker.locked = true)
    (ahead : after.ahead = { before.ahead with terminationRequested := true }) (lines : after.lines = before.lines)
    (caller : after.caller = .signalling) : after.At unread .closing := by
  rw [At, ahead, lines, caller]
  cases stage with
  | asked => exact ⟨by rw [here.1]; rfl, rfl, by rw [here.2.2]; rfl⟩
  | reading stored =>
      rw [here.2.2] at unlocked
      exact absurd rfl unlocked
  | read number =>
      rcases here with ⟨⟨-, byteSource, source, -⟩, -, -, -, -, resting⟩
      refine ⟨by rw [source]; rfl, rfl, ?_⟩
      change Caller.stops .signalling before.ahead.worker = true
      by_cases nothing : number = 0
      · rw [if_pos nothing] at resting
        rw [resting]
        rfl
      · rw [if_neg nothing] at resting
        revert resting
        cases before.ahead.worker <;> simp [Worker.resting, Caller.stops]
  | spent => exact ⟨by rw [here.1]; rfl, rfl, by rw [here.2.2.1]; rfl⟩
  | absent => cases admitted
  | ready => cases admitted
  | closing => cases admitted

/-- `finish_read` waits for what has been asked for, or takes what has been read. -/
theorem finishing_keeps (named : before.lines.fileName = fileName) (here : before.At unread stage)
    (admitted : stage.admits .finishing) (called : InCall fileName whole blockLen before unread)
    (caller : before.caller = .finishing) (stepped : before.stepCaller = some after) :
    after.Sound fileName whole := by
  rw [stepCaller, caller] at stepped
  dsimp only at stepped
  split at stepped
  · cases stepped
  · rename_i unlocked
    cases stage with
    | asked =>
        rw [here.2.1.unknown] at stepped
        cases stepped
        exact ⟨named, unread, .asked, here, rfl, called⟩
    | reading stored =>
        rw [here.2.2] at unlocked
        exact absurd rfl unlocked
    | read number =>
        rw [here.2.2.2.2.1] at stepped
        cases stepped
        exact ⟨named, unread, .read number, here, decide_eq_true rfl, called⟩
    | absent => cases admitted
    | ready => cases admitted
    | spent => cases admitted
    | closing => cases admitted

/-- Each step of the caller leads from one place and stage to the next. -/
theorem stepCaller_keeps (sound : before.Sound fileName whole) (stepped : before.stepCaller = some after) :
    after.Sound fileName whole := by
  rcases sound with ⟨named, unread, stage, here, admitted, place⟩
  unfold Place at place
  cases caller : before.caller with
  | idle => rw [stepCaller, caller] at stepped; cases stepped
  | awaiting => rw [stepCaller, caller] at stepped; cases stepped
  | destroyed => rw [stepCaller, caller] at stepped; cases stepped
  | starting called =>
      rw [stepCaller, caller] at stepped
      rw [caller] at admitted place
      dsimp only at stepped
      have ready : stage = .ready := by cases stage <;> simp_all [Stage.admits]
      subst ready
      split at stepped
      · cases stepped
      · cases stepped
        let started : Threads :=
          { before with
            ahead := before.ahead.startRead (2 * blockLen) blockLen
            caller := if called then .scanning else .idle }
        have next : exists stage, Stage.admits stage .idle ∧ started.At unread stage := startRead_keeps here rfl rfl
        rcases next with ⟨stage, open_stage, there⟩
        refine ⟨named, unread, stage, there, ?_, ?_⟩
        · cases called with
          | false => exact open_stage
          | true => exact (admits_scanning stage).trans open_stage
        · cases called with
          | false => exact place
          | true => exact place
  | finishing =>
      rw [caller] at admitted place
      exact finishing_keeps named here admitted place caller stepped
  | refilling passed =>
      rw [stepCaller, caller] at stepped
      rw [caller] at admitted place
      cases stepped
      cases stage with
      | read number =>
          have same : passed = number := of_decide_eq_true admitted
          subst same
          rcases refill_keeps here place with ⟨unread, there, next⟩
          exact ⟨named, unread, .ready, there, rfl, next⟩
      | absent => cases admitted
      | ready => cases admitted
      | asked => cases admitted
      | reading stored => cases admitted
      | spent => cases admitted
      | closing => cases admitted
  | scanning =>
      rw [stepCaller, caller] at stepped
      rw [caller] at admitted place
      cases stepped
      rw [admits_scanning] at admitted
      subst named
      rcases scan_keeps here admitted place with ⟨there, next, found, named⟩
      exact ⟨named, unread, stage, there, next, found⟩
  | terminating =>
      rw [stepCaller, caller] at stepped
      rw [caller] at admitted place
      dsimp only at stepped
      split at stepped
      · cases stepped
      · rename_i unlocked
        cases stepped
        exact ⟨named, unread, .closing, terminating_keeps here admitted unlocked rfl rfl rfl, rfl, place⟩
  | signalling =>
      rw [stepCaller, caller] at stepped
      rw [caller] at admitted place
      cases stepped
      have closing : stage = .closing := by cases stage <;> simp_all [Stage.admits]
      subst closing
      rcases here with ⟨source, requested, stops⟩
      rw [caller] at stops
      refine ⟨named, unread, .closing, ⟨source, ?_, ?_⟩, rfl, place⟩
      · change before.ahead.notify.terminationRequested = true
        rw [AsynchronousReader.notify]
        split <;> exact requested
      · change Caller.stops .joining before.ahead.notify.worker = true
        rw [notify_worker]
        revert stops
        cases before.ahead.worker <;> simp [Caller.stops]
  | joining =>
      rw [stepCaller, caller] at stepped
      rw [caller] at admitted place
      dsimp only at stepped
      split at stepped
      · rename_i finished
        cases stepped
        have closing : stage = .closing := by cases stage <;> simp_all [Stage.admits]
        subst closing
        refine ⟨named, unread, .closing, ⟨here.1, here.2.1, ?_⟩, rfl, place⟩
        change Caller.stops .destroyed before.ahead.worker = true
        rw [finished]
        rfl
      · cases stepped

/-- A worker that wakes without a reason looks at the condition again. -/
theorem wakeWorker_keeps (here : before.At unread stage) (asleep : before.ahead.worker = .waiting) :
    At { before with ahead := { before.ahead with worker := .locking } } unread stage := by
  cases stage with
  | absent => rw [At, asleep] at here; cases here.1
  | ready =>
      rcases here with ⟨source, running, unasked, _ | ⟨finished, -⟩⟩
      · exact ⟨source, running, unasked, Or.inl rfl⟩
      · rw [asleep] at finished
        cases finished
  | asked => rw [At, asleep] at here; cases here.2.2
  | reading stored => rw [At, asleep] at here; cases here.2.2
  | read number =>
      rcases here with ⟨arrived, short, running, unasked, count, resting⟩
      refine ⟨arrived, short, running, unasked, count, ?_⟩
      by_cases nothing : number = 0
      · rw [if_pos nothing, asleep] at resting
        cases resting
      · rw [if_neg nothing]
        rfl
  | spent => rw [At, asleep] at here; cases here.2.2.1
  | closing =>
      rcases here with ⟨source, requested, stops⟩
      refine ⟨source, requested, ?_⟩
      rw [asleep] at stops
      change before.caller.stops .locking = true
      revert stops
      cases before.caller <;> simp [Caller.stops]

/-- Every step keeps the invariant. -/
theorem step_keeps {event : Event} (sound : before.Sound fileName whole) (stepped : before.Step event after) :
    after.Sound fileName whole := by
  rw [Step] at stepped
  have sound_before := sound
  rcases sound with ⟨named, unread, stage, here, admitted, place⟩
  cases event with
  | caller => exact stepCaller_keeps sound_before stepped
  | worker =>
      rcases stepWorker_keeps here admitted stepped with ⟨next, there, admits, same⟩
      exact ⟨same.fileName.trans named, unread, next, there, admits, same.place place⟩
  | call =>
      rw [advance] at stepped
      split at stepped
      · rename_i idle
        cases stepped
        rw [idle] at admitted
        rw [Place, idle] at place
        rcases nextLine_keeps here admitted place idle with ⟨there, admits, found⟩
        refine ⟨?_, unread, stage, there, admits, found⟩
        rw [nextLine]
        split
        · exact named
        · dsimp only
          split <;> exact named
      · cases stepped
  | destroy =>
      rw [advance] at stepped
      split at stepped
      · rename_i idle
        cases stepped
        rw [idle] at admitted
        rw [Place, idle] at place
        rcases place with ⟨rest, shows, told⟩
        rcases destroy_keeps here admitted told.here with ⟨there, admits, found⟩
        exact ⟨named, unread, stage, there, admits, found⟩
      · cases stepped
  | wakeCaller =>
      rw [advance] at stepped
      split at stepped
      · rename_i asleep
        cases stepped
        rw [Place, asleep] at place
        rw [asleep] at admitted
        refine ⟨named, unread, stage, ?_, ?_, place⟩
        · cases stage with
          | closing => cases admitted
          | _ => exact here
        · change stage.admits .finishing = true
          revert admitted
          cases stage <;> simp [Stage.admits]
      · cases stepped
  | wakeWorker =>
      rw [advance] at stepped
      split at stepped
      · rename_i asleep
        cases stepped
        exact ⟨named, unread, stage, wakeWorker_keeps here asleep, admitted, place⟩
      · cases stepped

/-- The constructor leaves the reader in front of the file. -/
theorem init_sound (buffer : Nat -> UInt8) (readByteCount : Option Nat) (fileName byteSource : Bytes) :
    (init buffer readByteCount fileName byteSource).Sound fileName (withoutBom byteSource) := by
  let lines := LineReader.init buffer fileName byteSource
  have fronts := LineReader.init_fronts buffer fileName byteSource
  have between : Between fileName (withoutBom byteSource) (init buffer readByteCount fileName byteSource)
      lines.unread := ⟨withoutBom byteSource, fronts.shows, Told.start⟩
  refine ⟨rfl, lines.unread, ?_⟩
  cases reader : lines.reader with
  | none =>
      have worker : (init buffer readByteCount fileName byteSource).ahead.worker = .absent :=
        if_neg (by change ¬ lines.reader.isSome = true; rw [reader]; decide)
      have idle : (init buffer readByteCount fileName byteSource).caller = .idle :=
        if_neg (by change ¬ lines.reader.isSome = true; rw [reader]; decide)
      refine ⟨.absent, ⟨worker, reader, by rw [LineReader.unread, reader]; rfl⟩, by rw [idle]; rfl, ?_⟩
      rw [Place, idle]
      exact between
  | some rest =>
      have worker : (init buffer readByteCount fileName byteSource).ahead.worker = .locking :=
        if_pos (by change lines.reader.isSome = true; rw [reader]; rfl)
      have starting : (init buffer readByteCount fileName byteSource).caller = .starting false :=
        if_pos (by change lines.reader.isSome = true; rw [reader]; rfl)
      have source : lines.reader = some lines.unread := by rw [LineReader.unread, reader]; rfl
      refine ⟨.ready, ⟨source, rfl, rfl, Or.inl (by rw [worker]; rfl)⟩, by rw [starting]; rfl, ?_⟩
      rw [Place, starting]
      exact between

end Caller

end Threads

end Csv
end MotionDetectAlarm
