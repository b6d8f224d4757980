import MotionDetectAlarm.Foundation.Flags

namespace MotionDetectAlarm
namespace SerialPort

open Foundation

/-!
# Terminal settings

A `struct termios` keeps the settings of a line in words of flags.  The values
of the flags are those of Linux, and the two speed functions are those of its C
library: both store the code of a rate under the same mask of the control word.

`lineSettings` reads off what a line is set to, in bits for each second and bits
for each character.  It knows nothing of how the words were put together.
-/

/-! ## Flags -/

def clocal : UInt32 := 0x800
def cread : UInt32 := 0x80
def crtscts : UInt32 := 0x80000000
def csize : UInt32 := 0x30
def cs5 : UInt32 := 0x00
def cs6 : UInt32 := 0x10
def cs7 : UInt32 := 0x20
def cs8 : UInt32 := 0x30
def cstopb : UInt32 := 0x40
def parenb : UInt32 := 0x100
def parodd : UInt32 := 0x200
def cmspar : UInt32 := 0x40000000
def cbaud : UInt32 := 0x100F
def cbaudex : UInt32 := 0x1000
def ibaud0 : UInt32 := 0x80000000
def inpck : UInt32 := 0x10
def icrnl : UInt32 := 0x100
def ixon : UInt32 := 0x400
def ixany : UInt32 := 0x800
def ixoff : UInt32 := 0x1000
def opost : UInt32 := 0x1
def isig : UInt32 := 0x1
def icanon : UInt32 := 0x2
def echo : UInt32 := 0x8
def echoe : UInt32 := 0x10

def b300 : UInt32 := 0x7
def b1200 : UInt32 := 0x9
def b2400 : UInt32 := 0xB
def b4800 : UInt32 := 0xC
def b9600 : UInt32 := 0xD
def b19200 : UInt32 := 0xE
def b57600 : UInt32 := 0x1001
def b115200 : UInt32 := 0x1002
def b4000000 : UInt32 := 0x100F

/-- `struct termios`. -/
structure Termios where
  cIflag : UInt32
  cOflag : UInt32
  cCflag : UInt32
  cLflag : UInt32
  cCc : Vector UInt8 32
  cIspeed : UInt32
  cOspeed : UInt32

/-- `VTIME` and `VMIN`, two subscripts of `c_cc`. -/
def vtime : Fin 32 := 5
def vmin : Fin 32 := 6

/-! ## Speeds -/

/-- A word that is not the code of a rate. -/
def NoSpeed (speed : UInt32) : Prop :=
  speed &&& ~~~cbaud ≠ 0 ∧ (speed < b57600 ∨ b4000000 < speed)

instance : DecidablePred NoSpeed :=
  fun _ => inferInstanceAs (Decidable (_ ∧ _))

/-- `cfsetospeed`, which refuses what is no speed. -/
def cfsetospeed (options : Termios) (speed : UInt32) : Termios :=
  if NoSpeed speed then options
  else { options with
    cOspeed := speed
    cCflag := options.cCflag &&& ~~~(cbaud ||| cbaudex) ||| speed }

/-- `cfsetispeed`.  The speed zero stands for the output speed. -/
def cfsetispeed (options : Termios) (speed : UInt32) : Termios :=
  if NoSpeed speed then options
  else if speed = 0 then { options with
    cIspeed := speed
    cIflag := options.cIflag ||| ibaud0 }
  else { options with
    cIspeed := speed
    cIflag := options.cIflag &&& ~~~ibaud0
    cCflag := options.cCflag &&& ~~~(cbaud ||| cbaudex) ||| speed }

/-! ## What a line is set to -/

inductive Parity where
  | none
  | odd
  | even
  | mark
  | space
  deriving DecidableEq, Repr

/-- The settings of a line. -/
structure LineSettings where
  rate : UInt32
  databits : UInt32
  stopbits : UInt32
  parity : Parity
  deriving DecidableEq, Repr

/-- The rate that a code stands for. -/
def codedRate (code : UInt32) : Option UInt32 :=
  [((0x1 : UInt32), (50 : UInt32)), (0x2, 75), (0x3, 110), (0x4, 134), (0x5, 150), (0x6, 200), (b300, 300),
    (0x8, 600), (b1200, 1200), (0xA, 1800), (b2400, 2400), (b4800, 4800), (b9600, 9600), (b19200, 19200),
    (0xF, 38400), (b57600, 57600), (b115200, 115200), (0x1003, 230400), (0x1004, 460800), (0x1005, 500000),
    (0x1006, 576000), (0x1007, 921600), (0x1008, 1000000), (0x1009, 1152000), (0x100A, 1500000),
    (0x100B, 2000000), (0x100C, 2500000), (0x100D, 3000000), (0x100E, 3500000), (b4000000, 4000000)].lookup code

def codedDatabits (cCflag : UInt32) : UInt32 :=
  if cCflag &&& csize = cs5 then 5
  else if cCflag &&& csize = cs6 then 6
  else if cCflag &&& csize = cs7 then 7
  else 8

def codedStopbits (cCflag : UInt32) : UInt32 :=
  if cCflag &&& cstopb = 0 then 1 else 2

/-- The parity bit.  `CMSPAR` makes it a constant. -/
def codedParity (cCflag : UInt32) : Parity :=
  if cCflag &&& parenb = 0 then .none
  else if cCflag &&& cmspar = 0 then if cCflag &&& parodd = 0 then .even else .odd
  else if cCflag &&& parodd = 0 then .space else .mark

/-- What a line with these flags is set to, if its rate has a code. -/
def Termios.lineSettings (options : Termios) : Option LineSettings :=
  (codedRate (options.cCflag &&& cbaud)).map (fun rate =>
    { rate := rate
      databits := codedDatabits options.cCflag
      stopbits := codedStopbits options.cCflag
      parity := codedParity options.cCflag })

end SerialPort
end MotionDetectAlarm
