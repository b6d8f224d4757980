import MotionDetectAlarm.Csv.ReadAhead

namespace MotionDetectAlarm
namespace Csv

open Foundation

/-!
# Runs of the two threads

In every order of the steps, with wake-ups without a reason wherever they come,
the calls return what a reader returns that has no second thread; no two threads
use one block at a time; and a call that has begun comes to its end.
-/

namespace Threads

variable {fileName whole : Bytes} {before after threads : Threads}

/-! ## The answers -/

/-- In any place the calls have returned what they should so far. -/
theorem Place.told {unread : Bytes} (place : threads.Place fileName whole unread) :
    answersOf fileName 0 whole threads.returned.length = threads.returned := by
  have between : Between fileName whole threads unread ->
      answersOf fileName 0 whole threads.returned.length = threads.returned :=
    fun between => between.choose_spec.2.here
  have called : forall {limit}, InCall fileName whole limit threads unread ->
      answersOf fileName 0 whole threads.returned.length = threads.returned := by
    rintro limit ⟨rest, fileLine, -, -, -, -, told⟩
    exact told.here
  unfold Place at place
  cases caller : threads.caller with
  | idle => rw [caller] at place; exact between place
  | starting inCall =>
      rw [caller] at place
      cases inCall with
      | false => exact between place
      | true => exact called place
  | scanning => rw [caller] at place; exact called place
  | finishing => rw [caller] at place; exact called place
  | awaiting => rw [caller] at place; exact called place
  | refilling number => rw [caller] at place; exact called place
  | terminating => rw [caller] at place; exact place
  | signalling => rw [caller] at place; exact place
  | joining => rw [caller] at place; exact place
  | destroyed => rw [caller] at place; exact place

theorem run_sound {buffer : Nat -> UInt8} {readByteCount : Option Nat} {file : Bytes} {labels : List Event}
    (run : Run Step (init buffer readByteCount fileName file) labels threads) :
    threads.Sound fileName (withoutBom file) :=
  run.invariant (Sound fileName (withoutBom file)) (init_sound buffer readByteCount fileName file)
    (fun _ _ _ sound stepped => step_keeps sound stepped)

/-- However the steps of the two threads fall, the calls return what they return
from a reader that reads the file itself. -/
theorem returned_in_order (buffer : Nat -> UInt8) (readByteCount : Option Nat) (fileName file : Bytes)
    {labels : List Event} {threads : Threads}
    (run : Run Step (init buffer readByteCount fileName file) labels threads) :
    threads.returned = (LineReader.init buffer fileName file).answers threads.returned.length := by
  rcases run_sound run with ⟨-, unread, stage, -, -, place⟩
  rw [LineReader.answers_eq (LineReader.init_fronts buffer fileName file)]
  exact place.told.symm

/-- Line feeds that fill two blocks, and a line behind them. -/
def threeBlocks : Bytes := List.replicate (2 * blockLen) newline ++ [0x62]

/-- What the constructor makes of them. -/
theorem threeBlocks_lines : LineReader.init (fun _ => 0) [] threeBlocks =
    { buffer := store (fun _ => 0) 0 (List.replicate (2 * blockLen) newline)
      reader := some [0x62]
      dataBegin := 0
      dataEnd := 2 * blockLen
      fileName := []
      fileLine := 0 } := by
  have blocks : threeBlocks.take (2 * blockLen) = List.replicate (2 * blockLen) newline :=
    List.take_left' List.length_replicate
  have rest : threeBlocks.drop (2 * blockLen) = [0x62] := List.drop_left' List.length_replicate
  have first : store (fun _ => (0 : UInt8)) 0 (List.replicate (2 * blockLen) newline) 0 = newline := rfl
  have other : newline ≠ (0xEF : UInt8) := by decide
  simp only [LineReader.init, blocks, rest, List.length_replicate, if_true, first, other, false_and, and_false,
    if_false]

/-- Two calls while the worker takes the lock, stores what is behind the two
blocks and reports it. -/
def readBetween : List Event := [.caller, .worker, .call, .caller, .worker, .call, .caller, .worker]

theorem threeBlocks_returned : exists threads,
    Run Step (init (fun _ => 0) none [] threeBlocks) readBetween threads ∧
      threads.returned = [.ok (some []), .ok (some [])] ∧ threads.ahead.readByteCount = some 1 ∧
        threads.returned = (LineReader.init (fun _ => 0) [] threeBlocks).answers threads.returned.length := by
  have executed : (readBetween.foldlM advance (init (fun _ => 0) none [] threeBlocks)).map
      (fun threads => (threads.returned, threads.ahead.readByteCount)) =
        some ([.ok (some []), .ok (some [])], some 1) := by
    simp only [init, threeBlocks_lines]
    rfl
  rcases Option.map_eq_some_iff.mp executed with ⟨threads, reached, parts⟩
  rcases Prod.mk.inj parts with ⟨returned, count⟩
  have run := Run.of_foldlM_some reached
  exact ⟨threads, run, returned, count, returned_in_order (fun _ => 0) none [] threeBlocks run⟩

/-! ## The blocks -/

/-- What keeps the threads apart in the blocks. -/
structure Apart (threads : Threads) : Prop where
  /-- The worker writes in the third block only, and not behind it. -/
  worker : forall after, threads.Step .worker after ->
    forall i, after.lines.buffer i ≠ threads.lines.buffer i -> 2 * blockLen ≤ i ∧ i < 3 * blockLen
  /-- Everything else that happens writes in the first two. -/
  caller : forall event after, event ≠ .worker -> threads.Step event after ->
    forall i, after.lines.buffer i ≠ threads.lines.buffer i -> i < 2 * blockLen
  /-- The third block is not passed on while the worker is in it. -/
  passed : forall number, threads.caller = .refilling number -> threads.ahead.worker.locked = false
  /-- What the scan finds does not depend on the third block. -/
  scanned : threads.caller = .scanning -> forall other : Nat -> UInt8,
    (forall i, i < 2 * blockLen -> other i = threads.lines.buffer i) ->
      (scan { threads with lines := { threads.lines with buffer := other } }).returned = threads.scan.returned
  /-- The blocks are released after the worker has returned. -/
  released : threads.caller = .destroyed -> threads.ahead.worker = .absent ∨ threads.ahead.worker = .finished

/-- The scan has the same answer wherever the blocks show the same. -/
theorem scan_returned {unread rest : Bytes} (start : threads.lines.dataBegin < blockLen)
    (shows : threads.lines.Shows (2 * blockLen) unread rest) :
    threads.scan.returned = threads.returned ++
      [if (firstLineOf rest).length < blockLen then lineAnswer (firstLineOf rest)
        else .error (tooLong threads.lines.fileName threads.lines.fileLine)] := by
  rw [scan]
  rcases shows.scanned start with ⟨long, refused⟩ | ⟨short, next, cut, -⟩
  · rw [refused, if_neg (Nat.not_lt.mpr long)]
    rfl
  · rw [cut, if_pos short]
    rfl

/-- The scan writes in the first two blocks. -/
theorem scan_third {limit : Nat} {unread : Bytes} (called : InCall fileName whole limit threads unread) {i : Nat}
    (beyond : 2 * blockLen ≤ i) : threads.scan.lines.buffer i = threads.lines.buffer i := by
  rcases called with ⟨rest, fileLine, -, start, shows, -, -⟩
  rw [scan]
  cases cut : threads.lines.cutLine with
  | error err => rfl
  | ok result => exact (cutLine_keeps cut shows.ordered start).2.1 i beyond

/-- Only the worker writes behind the first two blocks. -/
theorem third_kept (sound : before.Sound fileName whole) {event : Event} (other : event ≠ .worker)
    (stepped : before.Step event after) {i : Nat} (beyond : 2 * blockLen ≤ i) :
    after.lines.buffer i = before.lines.buffer i := by
  rcases sound with ⟨-, unread, stage, -, -, place⟩
  cases event with
  | worker => exact absurd rfl other
  | call =>
      simp only [Step, advance] at stepped
      split at stepped
      · cases stepped
        rw [nextLine]
        split
        · rfl
        · dsimp only
          split
          · exact copy_outside (by omega)
          · rfl
      · cases stepped
  | destroy =>
      simp only [Step, advance] at stepped
      split at stepped
      · cases stepped
        rfl
      · cases stepped
  | wakeCaller =>
      simp only [Step, advance] at stepped
      split at stepped
      · cases stepped
        rfl
      · cases stepped
  | wakeWorker =>
      simp only [Step, advance] at stepped
      split at stepped
      · cases stepped
        rfl
      · cases stepped
  | caller =>
      rw [Step, advance, stepCaller] at stepped
      rw [Place] at place
      cases caller : before.caller with
      | refilling number =>
          rw [caller] at stepped
          cases stepped
          exact copy_outside (by omega)
      | scanning =>
          rw [caller] at stepped place
          cases stepped
          exact scan_third place beyond
      | starting called =>
          rw [caller] at stepped
          dsimp only at stepped
          split at stepped
          · cases stepped
          · cases stepped
            rfl
      | finishing =>
          rw [caller] at stepped
          dsimp only at stepped
          split at stepped
          · cases stepped
          · split at stepped <;> cases stepped <;> rfl
      | terminating =>
          rw [caller] at stepped
          dsimp only at stepped
          split at stepped
          · cases stepped
          · cases stepped
            rfl
      | signalling =>
          rw [caller] at stepped
          cases stepped
          rfl
      | joining =>
          rw [caller] at stepped
          dsimp only at stepped
          split at stepped
          · cases stepped
            rfl
          · cases stepped
      | idle => rw [caller] at stepped; cases stepped
      | awaiting => rw [caller] at stepped; cases stepped
      | destroyed => rw [caller] at stepped; cases stepped

/-- A worker that is reading has been asked to, and has not stored more than it
was asked for. -/
theorem At.of_reading {unread : Bytes} {stage : Stage} {stored : Nat} (here : threads.At unread stage)
    (reading : threads.ahead.worker = .reading stored) :
    stage = .reading stored ∧ threads.ahead.Asked := by
  cases stage with
  | reading other =>
      rcases here with ⟨-, asked, worker⟩
      rw [reading] at worker
      cases worker
      exact ⟨rfl, asked⟩
  | absent => rw [At, reading] at here; cases here.1
  | ready =>
      rcases here with ⟨-, -, -, resting | ⟨finished, -⟩⟩
      · rw [reading] at resting
        cases resting
      · rw [reading] at finished
        cases finished
  | asked => rw [At, reading] at here; cases here.2.2
  | read number =>
      have resting := here.2.2.2.2.2
      rw [reading] at resting
      split at resting <;> cases resting
  | spent => rw [At, reading] at here; cases here.2.2.1
  | closing =>
      have stops := here.2.2
      rw [reading] at stops
      revert stops
      cases threads.caller <;> simp [Caller.stops]

/-- What a step of the worker writes. -/
theorem stepWorker_writes (sound : before.Sound fileName whole) (stepped : before.stepWorker = some after) {i : Nat}
    (written : after.lines.buffer i ≠ before.lines.buffer i) : 2 * blockLen ≤ i ∧ i < 3 * blockLen := by
  rcases sound with ⟨-, unread, stage, here, -, -⟩
  rw [stepWorker] at stepped
  cases worker : before.ahead.worker with
  | reading stored =>
      have asked := (here.of_reading worker).2
      have limit : before.ahead.desiredByteCount.getD 0 = blockLen := by rw [asked.desired]; rfl
      rw [worker] at stepped
      dsimp only at stepped
      split at stepped
      · split at stepped
        · rename_i more
          rw [limit] at more
          cases stepped
          have place : i = before.ahead.buffer + stored := by
            by_contra elsewhere
            exact written (Function.update_of_ne elsewhere _ _)
          rw [asked.block] at place
          omega
        · cases stepped
          exact absurd rfl written
      · cases stepped
        exact absurd rfl written
  | locking =>
      rw [worker] at stepped
      dsimp only at stepped
      split at stepped
      · cases stepped
        exact absurd rfl written
      · split at stepped <;> cases stepped <;> exact absurd rfl written
  | absent => rw [worker] at stepped; cases stepped
  | waiting => rw [worker] at stepped; cases stepped
  | finished => rw [worker] at stepped; cases stepped

/-- In every run the threads keep apart, up to the release of the blocks. -/
theorem kept_apart (buffer : Nat -> UInt8) (readByteCount : Option Nat) (fileName file : Bytes)
    {labels : List Event} {threads : Threads}
    (run : Run Step (init buffer readByteCount fileName file) labels threads) : threads.Apart := by
  have sound := run_sound run
  have whole := sound
  rcases sound with ⟨-, unread, stage, here, admitted, place⟩
  refine ⟨?_, ?_, ?_, ?_, ?_⟩
  · intro after stepped i written
    exact stepWorker_writes whole stepped written
  · intro event after other stepped i written
    by_contra beyond
    exact written (third_kept whole other stepped (Nat.le_of_not_lt beyond))
  · intro number passing
    rw [passing] at admitted
    cases locked : threads.ahead.worker with
    | reading stored =>
        rw [(here.of_reading locked).1] at admitted
        cases admitted
    | absent => rfl
    | locking => rfl
    | waiting => rfl
    | finished => rfl
  · intro scanning other same
    rw [Place, scanning] at place
    rcases place with ⟨rest, fileLine, -, start, shows, -, -⟩
    let replaced : Threads := { threads with lines := { threads.lines with buffer := other } }
    have shown : replaced.lines.Shows (2 * blockLen) unread rest := shows.of_same rfl rfl (Nat.le_refl _) same
    have found : replaced.scan.returned = _ := scan_returned start shown
    rw [found, scan_returned start shows]
  · intro gone
    rw [gone] at admitted
    cases stage with
    | absent => exact Or.inl here.1
    | closing =>
        have stops := here.2.2
        rw [gone] at stops
        revert stops
        cases threads.ahead.worker <;> simp [Caller.stops]
    | ready => cases admitted
    | asked => cases admitted
    | reading stored => cases admitted
    | read number => cases admitted
    | spent => cases admitted

/-- A file of line feeds that fills two blocks. -/
def twoBlocks : Bytes := List.replicate (2 * blockLen) newline

/-- The third block has been asked for, and the worker is about to read it. -/
theorem twoBlocks_run : exists threads, Run Step (init (fun _ => 0) none [] twoBlocks) [.caller, .worker] threads ∧
    threads.ahead.worker = .reading 0 := by
  have reader : exists rest, (LineReader.init (fun _ => 0) [] twoBlocks).reader = some rest := by
    have whole : (twoBlocks.take (2 * blockLen)).length = 2 * blockLen := by
      rw [List.length_take, twoBlocks, List.length_replicate, Nat.min_self]
    simp only [LineReader.init, whole, if_true]
    exact ⟨_, rfl⟩
  rcases reader with ⟨rest, reader⟩
  have executed : (([.caller, .worker] : List Event).foldlM advance (init (fun _ => 0) none [] twoBlocks)).map
      (fun threads => threads.ahead.worker) = some (.reading 0) := by
    simp only [init, reader]
    rfl
  rcases Option.map_eq_some_iff.mp executed with ⟨threads, reached, reading⟩
  exact ⟨threads, Run.of_foldlM_some reached, reading⟩

theorem twoBlocks_apart : exists threads,
    Run Step (init (fun _ => 0) none [] twoBlocks) [.caller, .worker] threads ∧ threads.ahead.worker = .reading 0 ∧
      threads.Apart := by
  rcases twoBlocks_run with ⟨threads, run, reading⟩
  exact ⟨threads, run, reading, kept_apart (fun _ => 0) none [] twoBlocks run⟩

end Threads

/-! ## Progress -/

/-- What the caller has left to do, with what it will ask for. -/
def Caller.work : Caller -> Nat
  | .idle => 0
  | .starting _ => blockLen + 13
  | .finishing => blockLen + 16
  | .awaiting => blockLen + 15
  | .refilling _ => blockLen + 14
  | .scanning => 5
  | .terminating => 4
  | .signalling => 3
  | .joining => 1
  | .destroyed => 0

/-- What is left to do for the block that is asked for, by a worker in its place. -/
def Worker.work : Worker -> Option Nat -> Nat
  | .reading stored, desiredByteCount => desiredByteCount.getD 0 - stored + 3
  | .locking, none => 1
  | .locking, some desiredByteCount => desiredByteCount + 6
  | _, none => 0
  | _, some desiredByteCount => desiredByteCount + 5

/-- The steps of the two threads. -/
def Event.ofThread : Event -> Bool
  | .caller => true
  | .worker => true
  | _ => false

/-- The steps that are granted to the threads for what else happens. -/
def Event.granted : Event -> Nat
  | .call => blockLen + 16
  | .destroy => 4
  | .wakeCaller => 1
  | .wakeWorker => 1
  | _ => 0

namespace Threads

variable {fileName whole : Bytes} {before after threads : Threads}

/-- What the two threads have left to do. -/
def work (threads : Threads) : Nat :=
  threads.caller.work + threads.ahead.worker.work threads.ahead.desiredByteCount

/-- A worker that is asleep or in front of the lock has one step more to do at
most. -/
theorem woken_work (ahead : AsynchronousReader) :
    ahead.notify.worker.work ahead.notify.desiredByteCount ≤ ahead.worker.work ahead.desiredByteCount + 1 := by
  unfold AsynchronousReader.notify
  split
  · rename_i asleep
    rw [asleep]
    cases ahead.desiredByteCount <;> simp [Worker.work]
  · exact Nat.le_succ _

theorem asked_work (worker : Worker) (unlocked : ¬ worker.locked = true) :
    worker.work (some blockLen) ≤ blockLen + 6 := by
  cases worker with
  | reading stored => exact absurd rfl unlocked
  | locking => exact Nat.le_refl _
  | absent => exact Nat.le_succ _
  | waiting => exact Nat.le_succ _
  | finished => exact Nat.le_succ _

theorem stepCaller_work (stepped : before.stepCaller = some after) : after.work < before.work := by
  rw [stepCaller] at stepped
  cases caller : before.caller with
  | refilling number =>
      rw [caller] at stepped
      cases stepped
      rw [work, work, caller]
      exact Nat.add_lt_add_right (Nat.lt_succ_self _) _
  | scanning =>
      rw [caller] at stepped
      cases stepped
      have kept : before.scan.ahead = before.ahead := by
        rw [scan]
        split <;> rfl
      have short : before.scan.caller.work ≤ 4 := by
        rw [scan]
        split
        · rw [destroy]
          dsimp only
          split <;> decide
        · exact Nat.zero_le _
      rw [work, work, kept, caller]
      exact Nat.add_lt_add_right (Nat.lt_succ_of_le short) _
  | starting called =>
      rw [caller] at stepped
      dsimp only at stepped
      split at stepped
      · cases stepped
      · rename_i unlocked
        cases stepped
        have asked := woken_work { before.ahead with
          buffer := 2 * blockLen
          desiredByteCount := some blockLen
          readByteCount := none }
        have less := asked_work before.ahead.worker unlocked
        have left : (if called then Caller.scanning else Caller.idle).work ≤ 5 := by cases called <;> decide
        rw [work, work, caller]
        change (if called then Caller.scanning else Caller.idle).work +
            (before.ahead.startRead (2 * blockLen) blockLen).worker.work
          (before.ahead.startRead (2 * blockLen) blockLen).desiredByteCount <
            blockLen + 13 + before.ahead.worker.work before.ahead.desiredByteCount
        rw [AsynchronousReader.startRead]
        dsimp only at asked ⊢
        omega
  | finishing =>
      rw [caller] at stepped
      dsimp only at stepped
      split at stepped
      · cases stepped
      · split at stepped
        · cases stepped
          rw [work, work, caller]
          exact Nat.add_lt_add_right (Nat.lt_succ_self _) _
        · cases stepped
          rw [work, work, caller]
          exact Nat.add_lt_add_right (Nat.add_lt_add_left (by decide) _) _
  | terminating =>
      rw [caller] at stepped
      dsimp only at stepped
      split at stepped
      · cases stepped
      · cases stepped
        rw [work, work, caller]
        exact Nat.add_lt_add_right (show 3 < 4 by decide) _
  | signalling =>
      rw [caller] at stepped
      cases stepped
      have woken := woken_work before.ahead
      rw [work, work, caller]
      change 1 + before.ahead.notify.worker.work before.ahead.notify.desiredByteCount <
        3 + before.ahead.worker.work before.ahead.desiredByteCount
      omega
  | joining =>
      rw [caller] at stepped
      dsimp only at stepped
      split at stepped
      · cases stepped
        rw [work, work, caller]
        exact Nat.add_lt_add_right (show 0 < 1 by decide) _
      · cases stepped
  | idle => rw [caller] at stepped; cases stepped
  | awaiting => rw [caller] at stepped; cases stepped
  | destroyed => rw [caller] at stepped; cases stepped

theorem notify_work (caller : Caller) : caller.notify.work ≤ caller.work + 1 := by
  unfold Caller.notify
  split
  · rename_i asleep
    rw [asleep]
    exact Nat.le_refl _
  · exact Nat.le_succ _

theorem stepWorker_work (stepped : before.stepWorker = some after) : after.work < before.work := by
  have finish : forall {stored}, before.ahead.worker = .reading stored ->
      (before.finishReading stored).work < before.work := by
    intro stored reading
    have rested : (before.finishReading stored).ahead.worker.work none = 0 := by
      rw [finishReading]
      dsimp only
      split <;> rfl
    have woken := notify_work before.caller
    have some_work : 3 ≤ before.ahead.worker.work before.ahead.desiredByteCount := by
      rw [reading]
      exact Nat.le_add_left _ _
    change before.caller.notify.work + (before.finishReading stored).ahead.worker.work none < before.caller.work + _
    omega
  rw [stepWorker] at stepped
  cases worker : before.ahead.worker with
  | reading stored =>
      rw [worker] at stepped
      dsimp only at stepped
      split at stepped
      · split at stepped
        · rename_i more
          cases stepped
          rw [work, work, worker]
          change before.caller.work + (before.ahead.desiredByteCount.getD 0 - (stored + 1) + 3) <
            before.caller.work + (before.ahead.desiredByteCount.getD 0 - stored + 3)
          omega
        · cases stepped
          exact finish worker
      · cases stepped
        exact finish worker
  | locking =>
      rw [worker] at stepped
      dsimp only at stepped
      rw [work, work, worker]
      split at stepped
      · cases stepped
        refine Nat.add_lt_add_left ?_ _
        cases before.ahead.desiredByteCount <;> simp [Worker.work]
      · split at stepped
        · rename_i unasked
          cases stepped
          rw [unasked]
          exact Nat.lt_succ_self _
        · cases stepped
          refine Nat.add_lt_add_left ?_ _
          cases asked : before.ahead.desiredByteCount with
          | none => rename_i something; exact absurd asked something
          | some number =>
              change number - 0 + 3 < number + 6
              omega
  | absent => rw [worker] at stepped; cases stepped
  | waiting => rw [worker] at stepped; cases stepped
  | finished => rw [worker] at stepped; cases stepped

/-- A step of a thread takes some of the work away, and what else happens adds no
more than is granted for it. -/
theorem step_work {event : Event} (stepped : before.Step event after) :
    after.work + (if event.ofThread then 1 else 0) ≤ before.work + event.granted := by
  cases event with
  | caller => exact stepCaller_work stepped
  | worker => exact stepWorker_work stepped
  | call =>
      simp only [Step, advance] at stepped
      split at stepped
      · rename_i idle
        cases stepped
        have kept : before.nextLine.ahead = before.ahead := by
          rw [nextLine]
          split
          · rfl
          · dsimp only
            split <;> rfl
        have called : before.nextLine.caller.work ≤ blockLen + 16 := by
          rw [nextLine]
          split
          · dsimp only
            rw [idle]
            exact Nat.zero_le _
          · dsimp only
            split
            · dsimp only
              split
              · exact Nat.le_refl _
              · exact Nat.le_trans (show 5 ≤ 16 by decide) (Nat.le_add_left _ _)
            · exact Nat.le_trans (show 5 ≤ 16 by decide) (Nat.le_add_left _ _)
        rw [work, work, kept, idle]
        change before.nextLine.caller.work + before.ahead.worker.work before.ahead.desiredByteCount + 0 ≤
          0 + before.ahead.worker.work before.ahead.desiredByteCount + (blockLen + 16)
        omega
      · cases stepped
  | destroy =>
      simp only [Step, advance] at stepped
      split at stepped
      · cases stepped
        have gone : before.destroy.caller.work ≤ 4 := by
          rw [destroy]
          dsimp only
          split <;> decide
        change before.destroy.caller.work + before.ahead.worker.work before.ahead.desiredByteCount + 0 ≤
          before.caller.work + before.ahead.worker.work before.ahead.desiredByteCount + 4
        omega
      · cases stepped
  | wakeCaller =>
      simp only [Step, advance] at stepped
      split at stepped
      · rename_i asleep
        cases stepped
        rw [work, work, asleep]
        change blockLen + 16 + before.ahead.worker.work before.ahead.desiredByteCount + 0 ≤
          blockLen + 15 + before.ahead.worker.work before.ahead.desiredByteCount + 1
        omega
      · cases stepped
  | wakeWorker =>
      simp only [Step, advance] at stepped
      split at stepped
      · rename_i asleep
        cases stepped
        rw [work, work, asleep]
        have woken : Worker.work .locking before.ahead.desiredByteCount ≤
            Worker.work .waiting before.ahead.desiredByteCount + 1 := by
          cases before.ahead.desiredByteCount <;> exact Nat.le_refl _
        change before.caller.work + Worker.work .locking before.ahead.desiredByteCount + 0 ≤
          before.caller.work + Worker.work .waiting before.ahead.desiredByteCount + 1
        omega
      · cases stepped

/-- The constructor leaves a block to be asked for. -/
theorem init_work (buffer : Nat -> UInt8) (readByteCount : Option Nat) (fileName file : Bytes) :
    (init buffer readByteCount fileName file).work ≤ blockLen + 14 := by
  cases reader : (LineReader.init buffer fileName file).reader with
  | none =>
      simp only [work, init, reader]
      exact Nat.zero_le _
  | some rest =>
      simp only [work, init, reader]
      exact Nat.le_refl _

/-- A worker that is not asleep or gone has a step to do. -/
theorem stepWorker_isSome (awake : threads.ahead.worker = .locking ∨ threads.ahead.worker.locked) :
    threads.stepWorker.isSome := by
  rw [stepWorker]
  cases worker : threads.ahead.worker with
  | locking =>
      dsimp only
      split
      · rfl
      · split <;> rfl
  | reading stored =>
      dsimp only
      split
      · split <;> rfl
      · rfl
  | absent => rw [worker] at awake; simp [Worker.locked] at awake
  | waiting => rw [worker] at awake; simp [Worker.locked] at awake
  | finished => rw [worker] at awake; simp [Worker.locked] at awake

/-- Where the lock is held the worker goes on, and elsewhere the caller can
take it. -/
theorem someone_steps (sound : threads.Sound fileName whole) (busy : threads.caller ≠ .idle)
    (alive : threads.caller ≠ .destroyed) : threads.stepCaller.isSome ∨ threads.stepWorker.isSome := by
  rcases sound with ⟨-, unread, stage, here, admitted, -⟩
  by_cases locked : threads.ahead.worker.locked
  · exact Or.inr (stepWorker_isSome (Or.inr locked))
  · cases caller : threads.caller with
    | idle => exact absurd caller busy
    | destroyed => exact absurd caller alive
    | starting called =>
        refine Or.inl ?_
        rw [stepCaller, caller]
        dsimp only
        rw [if_neg locked]
        rfl
    | finishing =>
        refine Or.inl ?_
        rw [stepCaller, caller]
        dsimp only
        rw [if_neg locked]
        split <;> rfl
    | refilling number => exact Or.inl (by rw [stepCaller, caller]; rfl)
    | scanning => exact Or.inl (by rw [stepCaller, caller]; rfl)
    | signalling => exact Or.inl (by rw [stepCaller, caller]; rfl)
    | terminating =>
        refine Or.inl ?_
        rw [stepCaller, caller]
        dsimp only
        rw [if_neg locked]
        rfl
    | awaiting =>
        -- A caller that sleeps has asked, and what it has asked for is not there yet.
        rw [caller] at admitted
        cases stage with
        | asked => exact Or.inr (stepWorker_isSome (Or.inl here.2.2))
        | reading stored => exact Or.inr (stepWorker_isSome (Or.inr (by rw [here.2.2]; rfl)))
        | absent => cases admitted
        | ready => cases admitted
        | read number => cases admitted
        | spent => cases admitted
        | closing => cases admitted
    | joining =>
        rw [caller] at admitted
        have closing : stage = .closing := by cases stage <;> simp_all [Stage.admits]
        subst closing
        have stops := here.2.2
        rw [caller] at stops
        by_cases finished : threads.ahead.worker = .finished
        · refine Or.inl ?_
          rw [stepCaller, caller]
          dsimp only
          rw [if_pos finished]
          rfl
        · refine Or.inr (stepWorker_isSome (Or.inl ?_))
          revert stops finished
          cases threads.ahead.worker <;> simp [Caller.stops]

/-- The threads do no more steps than are granted for the calls and the wake-ups,
and until a call or the destructor has returned one of them can go on: none of
them blocks the other for ever. -/
theorem calls_return (buffer : Nat -> UInt8) (readByteCount : Option Nat) (fileName file : Bytes)
    {labels : List Event} {threads : Threads}
    (run : Run Step (init buffer readByteCount fileName file) labels threads) :
    labels.countP Event.ofThread ≤ blockLen + 14 + (labels.map Event.granted).sum ∧
      (threads.caller = .idle ∨ threads.caller = .destroyed ∨ threads.stepCaller.isSome ∨
        threads.stepWorker.isSome) := by
  constructor
  · have spent : threads.work + labels.countP Event.ofThread ≤
        (init buffer readByteCount fileName file).work + (labels.map Event.granted).sum :=
      Run.spends (fun stepped => step_work stepped) run
    have start := init_work buffer readByteCount fileName file
    omega
  · by_cases idle : threads.caller = .idle
    · exact Or.inl idle
    · by_cases gone : threads.caller = .destroyed
      · exact Or.inr (Or.inl gone)
      · exact Or.inr (Or.inr (someone_steps (run_sound run) idle gone))

/-- A call, and the destructor while the worker keeps the lock. -/
def destroyedInRead : List Event := [.caller, .worker, .call, .caller, .worker, .destroy]

/-- The destructor waits for the lock, and the worker goes on. -/
theorem threeBlocks_go_on : exists threads,
    Run Step (init (fun _ => 0) none [] threeBlocks) destroyedInRead threads ∧ threads.caller = .terminating ∧
      threads.stepCaller.isSome = false ∧
      destroyedInRead.countP Event.ofThread ≤ blockLen + 14 + (destroyedInRead.map Event.granted).sum ∧
        threads.stepWorker.isSome := by
  have executed : (destroyedInRead.foldlM advance (init (fun _ => 0) none [] threeBlocks)).map
      (fun threads => (threads.caller, threads.stepCaller.isSome)) = some (.terminating, false) := by
    simp only [init, threeBlocks_lines]
    rfl
  rcases Option.map_eq_some_iff.mp executed with ⟨threads, reached, parts⟩
  rcases Prod.mk.inj parts with ⟨caller, blocked⟩
  have run := Run.of_foldlM_some reached
  rcases calls_return (fun _ => 0) none [] threeBlocks run with ⟨few, idle | gone | caller_steps | worker_steps⟩
  · cases caller.symm.trans idle
  · cases caller.symm.trans gone
  · cases blocked.symm.trans caller_steps
  · exact ⟨threads, run, caller, blocked, few, worker_steps⟩

end Threads

end Csv
end MotionDetectAlarm
