import MotionDetectAlarm.Foundation.Bytes
import MotionDetectAlarm.Foundation.Lines
import MotionDetectAlarm.SerialPort.OutputQueue

namespace MotionDetectAlarm
namespace SerialPort

open Foundation

/-!
# Reading lines from the port

`readLine` keeps what it has read from the port in a buffer of 256 bytes and
hands it out line by line.  Two indices delimit the pending bytes.  A scan for
`0x0A` moves them to the front of the buffer while it looks for the end of the
line, in place and byte by byte, and without a line in the buffer one
`readBuffer` fetches more behind them.  A `goto` then scans again, with a flag
that makes the second scan the last.

What the system answers to each `readBuffer` is an argument of the model; the
delay only bounds the wait of `select`.  The flag `isnormal` is what `Open` left
in it.  The caller's buffer has the size that `main` declares for it.
-/

/-! ## Buffers -/

/-- `READ_LINE_BUF_SIZE`. -/
def readLineBufSize : Nat := 256

/-- A `uint8_t[READ_LINE_BUF_SIZE]`. -/
structure LineBuf where
  bytes : Bytes
  size : bytes.length = readLineBufSize

namespace LineBuf

variable (buf : LineBuf)

def get (i : UInt32) : Except Fault UInt8 :=
  match buf.bytes[i.toNat]? with
  | some byte => .ok byte
  | none => .error .outOfBounds

/-- Store some bytes from an offset on. -/
def store (offset : UInt32) (stored : Bytes) : Except Fault LineBuf :=
  if room : offset.toNat + stored.length ≤ buf.bytes.length then
    .ok ⟨overlay buf.bytes offset.toNat stored, (overlay_length room).trans buf.size⟩
  else .error .outOfBounds

/-- `memset` with zero from an offset to the end. -/
def memset (offset : UInt32) : Except Fault LineBuf :=
  buf.store offset (List.replicate (readLineBufSize - offset.toNat) 0)

/-- `memcpy` of the first bytes of another buffer. -/
def memcpy (source : LineBuf) (number : UInt32) : Except Fault LineBuf :=
  if number.toNat ≤ readLineBufSize then buf.store 0 (source.bytes.take number.toNat)
  else .error .outOfBounds

def zeroed : LineBuf where
  bytes := List.replicate readLineBufSize 0
  size := List.length_replicate

end LineBuf

/-! ## The reader -/

/-- The members of `SerialPort` that `readLine` uses. -/
structure LineReader where
  isnormal : Int32
  ucReadLineBuf : LineBuf
  uiReadLineValidSize : UInt32
  uiReadLineIdx : UInt32

/-- What the system answers during one `readBuffer`. -/
inductive Reading where
  | selectError
  | timeout
  | readError
  /-- Some bytes are there, of which `read` takes as many as fit. -/
  | arrived (bytes : Bytes)

/-- What a scan decides. -/
inductive Scanned where
  /-- Return `UART_TRUE` with a line. -/
  | line (reader : LineReader) (readBuf : LineBuf) (readLen : UInt32)
  /-- Return `UART_FALSE`. -/
  | giveUp (reader : LineReader)
  /-- Go on to `readBuffer`. -/
  | fetch (reader : LineReader)

namespace LineReader

variable (reader : LineReader)

/-- The members after the constructor. -/
def constructed : LineReader where
  isnormal := uartFalse
  ucReadLineBuf := LineBuf.zeroed
  uiReadLineValidSize := 0
  uiReadLineIdx := 0

/-- `Open` keeps the result of `Set` in the flag. -/
def opened (set : Int32) : LineReader :=
  { constructed with isnormal := set }

/-- The bytes that `readBuffer` stores, with `none` for `UART_FALSE`. -/
def readBuffer (reading : Reading) (bufLen : UInt32) : Option Bytes :=
  if reader.isnormal = uartFalse then none
  else
    match reading with
    | .selectError => none
    | .timeout => none
    | .readError => none
    | .arrived bytes =>
        if 0 < (bytes.take bufLen.toNat).length then some (bytes.take bufLen.toNat) else none

/-- The move of one byte to the front. -/
def shift (i : UInt32) : Except Fault LineReader :=
  if 0 < reader.uiReadLineIdx then do
    let byte <- reader.ucReadLineBuf.get i
    let moved <- reader.ucReadLineBuf.store (i - reader.uiReadLineIdx) [byte]
    return { reader with ucReadLineBuf := moved }
  else return reader

/-- The branch for the last valid byte. -/
def settle : Except Fault LineReader := do
  let front :=
    if 0 < reader.uiReadLineIdx then
      { reader with
        uiReadLineValidSize := reader.uiReadLineValidSize - reader.uiReadLineIdx
        uiReadLineIdx := 0 }
    else reader
  let cleared <- front.ucReadLineBuf.memset front.uiReadLineValidSize
  return { front with ucReadLineBuf := cleared }

/-- The branch for the end of a line. -/
def cutLine (readBuf : LineBuf) (i : UInt32) : Except Fault Scanned := do
  let readLen := i + 1 - reader.uiReadLineIdx
  let copied <- readBuf.memcpy reader.ucReadLineBuf readLen
  let reader := { reader with uiReadLineIdx := i + 1 }
  let reader :=
    if reader.uiReadLineValidSize ≤ reader.uiReadLineIdx then
      { reader with uiReadLineValidSize := 0, uiReadLineIdx := 0 }
    else reader
  return .line reader copied readLen

/-- One round of the scan, at the counter. -/
def scanRound (isNeedReturn : Bool) (readBuf : LineBuf) (state : UInt32 × LineReader) :
    Except Fault (Round (UInt32 × LineReader) Scanned) :=
  if state.1 < state.2.uiReadLineValidSize then do
    let reader <- state.2.shift state.1
    let byte <- reader.ucReadLineBuf.get state.1
    if byte ≠ 0x0A then
      if state.1 = reader.uiReadLineValidSize - 1 then do
        let settled <- reader.settle
        return .leave (if isNeedReturn = false then .fetch settled else .giveUp settled)
      else return .again (state.1 + 1, reader)
    else do
      let scanned <- reader.cutLine readBuf state.1
      return .leave scanned
  else return .leave (.fetch state.2)

/-- The scan.  Its counter runs up to the valid size, which stays as it is
until the scan leaves. -/
def scan (isNeedReturn : Bool) (readBuf : LineBuf) : Except Fault Scanned :=
  if 0 < reader.uiReadLineValidSize then
    loop (scanRound isNeedReturn readBuf) (reader.uiReadLineValidSize.toNat + 1) (reader.uiReadLineIdx, reader)
  else .ok (.fetch reader)

end LineReader

/-- The bytes that a port delivers to `readBuffer` calls of these sizes, in order.
Call number `k` gets what the system answers to it. -/
def LineReader.delivered (reader : LineReader) (port : Nat -> Reading) (asked : List UInt32) : Bytes :=
  asked.zipIdx.flatMap (fun (bufLen, k) => (reader.readBuffer (port k) bufLen).getD [])

/-- The locals of `readLine` at its label, with the sizes that its `readBuffer`
calls so far have asked for. -/
structure Pass where
  reader : LineReader
  isNeedReturn : Bool
  readLen : UInt32
  asked : List UInt32

/-- What `readLine` returns and leaves behind, with the sizes that its `readBuffer`
calls have asked for. -/
structure Returned where
  code : Int32
  reader : LineReader
  readBuf : Option LineBuf
  readLen : UInt32
  asked : List UInt32

/-- From the label to a return or to the `goto`. -/
def passRound (readBuf : LineBuf) (port : Nat -> Reading) (pass : Pass) : Except Fault (Round Pass Returned) := do
  match <- pass.reader.scan pass.isNeedReturn readBuf with
  | .line reader copied readLen =>
      return .leave
        { code := uartTrue, reader := reader, readBuf := some copied, readLen := readLen, asked := pass.asked }
  | .giveUp reader =>
      return .leave
        { code := uartFalse, reader := reader, readBuf := some readBuf, readLen := pass.readLen, asked := pass.asked }
  | .fetch reader =>
      let bufLen := UInt32.ofNat readLineBufSize - reader.uiReadLineValidSize
      let asked := pass.asked ++ [bufLen]
      match reader.readBuffer (port pass.asked.length) bufLen with
      | none =>
          return .leave
            { code := uartFalse, reader := reader, readBuf := some readBuf, readLen := pass.readLen, asked := asked }
      | some stored =>
          let readLen := UInt32.ofNat stored.length
          let filled <- reader.ucReadLineBuf.store reader.uiReadLineValidSize stored
          return .again
            { reader := { reader with
                ucReadLineBuf := filled
                uiReadLineValidSize := reader.uiReadLineValidSize + readLen }
              isNeedReturn := true
              readLen := readLen
              asked := asked }

/-- `readLine`.  Every `goto` follows a read of at least one byte, so the buffer
is full after as many as it has bytes. -/
def LineReader.readLine (reader : LineReader) (ptrReadBuf : Option LineBuf) (port : Nat -> Reading)
    (readLen : UInt32) : Except Fault Returned :=
  match ptrReadBuf with
  | none => .ok { code := uartFalse, reader := reader, readBuf := none, readLen := readLen, asked := [] }
  | some readBuf =>
      loop (passRound readBuf port) (readLineBufSize + 2)
        { reader := reader, isNeedReturn := false, readLen := readLen, asked := [] }

end SerialPort
end MotionDetectAlarm
