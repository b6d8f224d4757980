import MotionDetectAlarm.Foundation.Bytes
import MotionDetectAlarm.Foundation.Outlet

namespace MotionDetectAlarm
namespace SerialPort

open Foundation

/-!
# The output queue of the port

`writeBuffer` hands a command to the terminal driver, which queues a prefix of
it and transmits from the front of the queue at its own pace.  When the driver
has not taken the whole command, the writer throws away everything that has
not been transmitted, with `tcflush(TCOFLUSH)`.

The call is cut in two at the flush, since transmission goes on between the
return of `write` and the flush.  What the driver makes of a write is an
argument of the model; a write of no bytes always returns zero.
-/

def uartTrue : Int32 := 0

def uartFalse : Int32 := -1

/-- The port: its state flag and the two ends of the driver's queue. -/
structure Port where
  isnormal : Int32
  queue : Bytes
  transmitted : Bytes

/-- What the driver makes of a write that is not empty. -/
inductive WriteOutcome where
  | full
  | short (count : Nat)
  | failed
  deriving DecidableEq, Repr

/-- The return value of `write`. -/
def WriteOutcome.len (outcome : WriteOutcome) (writeBuf : Bytes) : Int :=
  if writeBuf.isEmpty then 0
  else
    match outcome with
    | full => writeBuf.length
    | short count => min count writeBuf.length
    | failed => -1

/-- Where a call of `writeBuffer` is after its `write`. -/
inductive WriteStage where
  | returned (code : Int32)
  | flushing
  deriving DecidableEq, Repr

namespace Port

/-- `writeBuffer` up to its return or to the flush. -/
def writeBuffer (port : Port) (outcome : WriteOutcome) (writeBuf : Bytes) : Port × WriteStage :=
  if port.isnormal = uartFalse then (port, .returned uartFalse)
  else
    let len := outcome.len writeBuf
    let written := { port with queue := port.queue ++ writeBuf.take len.toNat }
    if 0 < len ∧ UInt32.ofInt len = UInt32.ofNat writeBuf.length then (written, .returned uartTrue)
    else (written, .flushing)

/-- `tcflush(fd, TCOFLUSH)`. -/
def tcflush (port : Port) : Port :=
  { port with queue := [] }

/-- The driver transmits some bytes. -/
def transmit (port : Port) (number : Nat) : Port :=
  { port with
    transmitted := port.transmitted ++ port.queue.take number
    queue := port.queue.drop number }

/-- The port as an outlet, with the commands accepted so far. -/
def outlet (port : Port) (commands : List Bytes) : Outlet UInt8 where
  sent := port.transmitted
  waiting := port.queue
  accepted := commands.flatten

theorem outlet_tcflush (port : Port) (commands : List Bytes) :
    port.tcflush.outlet commands = (port.outlet commands).discard := rfl

theorem outlet_transmit (port : Port) (commands : List Bytes) (number : Nat) :
    (port.transmit number).outlet commands = (port.outlet commands).send number := rfl

/-- A full write of a command queues all of it and returns `UART_TRUE`; a full
write of nothing leads to the flush. -/
theorem writeBuffer_full (port : Port) (writeBuf : Bytes) :
    (port.isnormal = uartFalse ∧ port.writeBuffer .full writeBuf = (port, .returned uartFalse)) ∨
    (port.isnormal ≠ uartFalse ∧ writeBuf ≠ [] ∧
      port.writeBuffer .full writeBuf =
        ({ port with queue := port.queue ++ writeBuf }, .returned uartTrue)) ∨
    (port.isnormal ≠ uartFalse ∧ writeBuf = [] ∧ port.writeBuffer .full writeBuf = (port, .flushing)) := by
  unfold writeBuffer
  by_cases broken : port.isnormal = uartFalse
  · exact Or.inl ⟨broken, by rw [if_pos broken]⟩
  · rw [if_neg broken]
    by_cases empty : writeBuf = []
    · subst empty
      refine Or.inr (Or.inr ⟨broken, rfl, ?_⟩)
      simp [WriteOutcome.len]
    · have some_bytes : writeBuf.isEmpty = false := by simpa using empty
      have len : WriteOutcome.full.len writeBuf = writeBuf.length := by
        simp only [WriteOutcome.len, some_bytes, Bool.false_eq_true, if_false]
      have positive : 0 < (writeBuf.length : Int) := Int.natCast_pos.mpr (List.length_pos_iff.mpr empty)
      have same : UInt32.ofInt (writeBuf.length : Int) = UInt32.ofNat writeBuf.length := by
        apply UInt32.toNat_inj.mp
        rw [UInt32.ofInt, UInt32.toNat_ofNat', UInt32.toNat_ofNat']
        omega
      refine Or.inr (Or.inl ⟨broken, empty, ?_⟩)
      simp only [len]
      rw [if_pos ⟨positive, same⟩, Int.toNat_natCast, List.take_length]

end Port

end SerialPort
end MotionDetectAlarm
