import MotionDetectAlarm.Csv.File
import MotionDetectAlarm.Foundation.Progress

namespace MotionDetectAlarm
namespace Csv

open Foundation

/-!
# The read ahead as a second thread

`AsynchronousReader` reads the third block on a thread of its own, the worker,
while the caller of `next_line` works on the first two.  The two meet in
`start_read`, `finish_read` and the destructor, under one lock and with two
condition variables.

A step is what a thread does between two points at which the other can be seen.
What is done under the lock is one step, as the other thread cannot look in; but
the worker keeps the lock while it reads, and it reads byte after byte into the
block.  A thread that waits can wake without having been notified.

No byte source of the program throws, so nothing is ever stored in `read_error`.
-/

/-! ## The two threads -/

/-- Where the worker is. -/
inductive Worker where
  /-- There is no worker: the file did not fill two blocks. -/
  | absent
  /-- In front of the lock, to look at the condition. -/
  | locking
  /-- Asleep on `read_requested_condition`. -/
  | waiting
  /-- In `read`, with the lock, so many bytes stored. -/
  | reading (stored : Nat)
  /-- Returned. -/
  | finished
  deriving DecidableEq, Repr

/-- The members of `AsynchronousReader` that both threads use, but for the byte
source, which `LineReader` has.  A count is `none` where the code stores -1. -/
structure AsynchronousReader where
  terminationRequested : Bool
  buffer : Nat
  desiredByteCount : Option Nat
  readByteCount : Option Nat
  worker : Worker
  deriving DecidableEq, Repr

/-- Where the caller is. -/
inductive Caller where
  /-- Outside of the reader. -/
  | idle
  /-- In front of `start_read`, in a call of `next_line` or in `init`. -/
  | starting (inCall : Bool)
  /-- In `finish_read`, in front of the lock, to look at the condition. -/
  | finishing
  /-- Asleep on `read_finished_condition`. -/
  | awaiting
  /-- Behind `finish_read`, with its result. -/
  | refilling (number : Nat)
  /-- In front of the loop that looks for the end of a line. -/
  | scanning
  /-- In the destructor, in front of the lock. -/
  | terminating
  /-- In the destructor, in front of `notify_one`. -/
  | signalling
  /-- In the destructor, in `join`. -/
  | joining
  /-- The reader and then its blocks have been released. -/
  | destroyed
  deriving DecidableEq, Repr

/-- The threads with the memory they share and what the calls have returned. -/
structure Threads where
  lines : LineReader
  ahead : AsynchronousReader
  caller : Caller
  returned : List Answer

/-- What happens next: the program calls `next_line` or gives the reader up, a
thread does its next step, or a sleeping thread wakes without a reason. -/
inductive Event where
  | call
  | destroy
  | caller
  | worker
  | wakeCaller
  | wakeWorker
  deriving DecidableEq, Repr

/-- `read_requested_condition.notify_one()`. -/
def AsynchronousReader.notify (ahead : AsynchronousReader) : AsynchronousReader :=
  if ahead.worker = .waiting then { ahead with worker := .locking } else ahead

/-- `start_read`, under the lock. -/
def AsynchronousReader.startRead (ahead : AsynchronousReader) (buffer desiredByteCount : Nat) : AsynchronousReader :=
  AsynchronousReader.notify
    { ahead with
      buffer := buffer
      desiredByteCount := some desiredByteCount
      readByteCount := none }

/-- `read_finished_condition.notify_one()`. -/
def Caller.notify (caller : Caller) : Caller :=
  if caller = .awaiting then .finishing else caller

/-- Whether the worker has the lock between two of its steps.  The caller never
has. -/
def Worker.locked : Worker -> Bool
  | .reading _ => true
  | _ => false

namespace Threads

variable (threads : Threads)

/-- The constructor of `LineReader` up to `start_read`.  What `read_byte_count`
holds before it is set is not known. -/
def init (buffer : Nat -> UInt8) (readByteCount : Option Nat) (fileName byteSource : Bytes) : Threads :=
  let lines := LineReader.init buffer fileName byteSource
  { lines := lines
    ahead :=
      { terminationRequested := false
        buffer := 0
        desiredByteCount := none
        readByteCount := readByteCount
        worker := if lines.reader.isSome then .locking else .absent }
    caller := if lines.reader.isSome then .starting false else .idle
    returned := [] }

/-- `next_line` up to `finish_read`, or to the scan where nothing is awaited. -/
def nextLine : Threads :=
  if threads.lines.dataBegin = threads.lines.dataEnd then
    { threads with returned := threads.returned ++ [.ok none] }
  else
    let lines := { threads.lines with fileLine := threads.lines.fileLine + 1 }
    if blockLen ≤ lines.dataBegin then
      { threads with
        lines :=
          { lines with
            buffer := copy lines.buffer 0 blockLen blockLen
            dataBegin := lines.dataBegin - blockLen
            dataEnd := lines.dataEnd - blockLen }
        caller := if lines.reader.isSome then .finishing else .scanning }
    else { threads with lines := lines, caller := .scanning }

/-- `next_line` between `finish_read` and `start_read`. -/
def refill (number : Nat) : Threads :=
  { threads with
    lines :=
      { threads.lines with
        buffer := copy threads.lines.buffer blockLen (2 * blockLen) blockLen
        dataEnd := threads.lines.dataEnd + number }
    caller := .starting true }

/-- The destructor of the reader, up to the lock. -/
def destroy : Threads :=
  { threads with caller := if threads.lines.reader.isSome then .terminating else .destroyed }

/-- `next_line` from the scan on.  The exception destroys the reader. -/
def scan : Threads :=
  match threads.lines.cutLine with
  | .error err => destroy { threads with returned := threads.returned ++ [.error err] }
  | .ok (line, after) =>
      { threads with
        lines := after
        returned := threads.returned ++ [.ok (some line)]
        caller := .idle }

/-- The next step of the caller, if there is one. -/
def stepCaller : Option Threads :=
  match threads.caller with
  | .starting inCall =>
      if threads.ahead.worker.locked then none
      else some
        { threads with
          ahead := threads.ahead.startRead (2 * blockLen) blockLen
          caller := if inCall then .scanning else .idle }
  | .finishing =>
      if threads.ahead.worker.locked then none
      else
        match threads.ahead.readByteCount with
        | none => some { threads with caller := .awaiting }
        | some number => some { threads with caller := .refilling number }
  | .refilling number => some (threads.refill number)
  | .scanning => some threads.scan
  | .terminating =>
      if threads.ahead.worker.locked then none
      else some
        { threads with
          ahead := { threads.ahead with terminationRequested := true }
          caller := .signalling }
  | .signalling => some { threads with ahead := threads.ahead.notify, caller := .joining }
  | .joining => if threads.ahead.worker = .finished then some { threads with caller := .destroyed } else none
  | .idle => none
  | .awaiting => none
  | .destroyed => none

/-- The end of a read: the count is set and the caller notified, and the worker
sleeps again or returns. -/
def finishReading (stored : Nat) : Threads :=
  { threads with
    ahead :=
      { threads.ahead with
        desiredByteCount := none
        readByteCount := some stored
        worker := if stored = 0 then .finished else .waiting }
    caller := threads.caller.notify }

/-- The next step of the worker, if there is one. -/
def stepWorker : Option Threads :=
  match threads.ahead.worker with
  | .locking =>
      if threads.ahead.terminationRequested then
        some { threads with ahead := { threads.ahead with worker := .finished } }
      else if threads.ahead.desiredByteCount = none then
        some { threads with ahead := { threads.ahead with worker := .waiting } }
      else some { threads with ahead := { threads.ahead with worker := .reading 0 } }
  | .reading stored =>
      match threads.lines.reader with
      | some (byte :: byteSource) =>
          if stored < threads.ahead.desiredByteCount.getD 0 then
            some
              { threads with
                lines :=
                  { threads.lines with
                    buffer := Function.update threads.lines.buffer (threads.ahead.buffer + stored) byte
                    reader := some byteSource }
                ahead := { threads.ahead with worker := .reading (stored + 1) } }
          else some (threads.finishReading stored)
      | _ => some (threads.finishReading stored)
  | .absent => none
  | .waiting => none
  | .finished => none

/-- What an event does, if it can happen. -/
def advance : Event -> Option Threads
  | .call => if threads.caller = .idle then some threads.nextLine else none
  | .destroy => if threads.caller = .idle then some threads.destroy else none
  | .caller => threads.stepCaller
  | .worker => threads.stepWorker
  | .wakeCaller => if threads.caller = .awaiting then some { threads with caller := .finishing } else none
  | .wakeWorker =>
      if threads.ahead.worker = .waiting then
        some { threads with ahead := { threads.ahead with worker := .locking } }
      else none

/-- The steps of the two threads. -/
def Step (before : Threads) (event : Event) (after : Threads) : Prop :=
  before.advance event = some after

end Threads

end Csv
end MotionDetectAlarm
