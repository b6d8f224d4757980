import MotionDetectAlarm.Foundation.Execution
import MotionDetectAlarm.Foundation.Reorder
import MotionDetectAlarm.SerialPort.OutputQueue
import MotionDetectAlarm.SerialPort.Termios

namespace MotionDetectAlarm
namespace SerialPort

open Foundation

/-!
# Setting up the port

`Open` opens the first serial device that is there and lets `Set` change the
settings that the device has.  `Set` looks the rate up in two arrays of seven
entries, then sets and clears flags one switch after the other, and hands the
result to `tcsetattr`.  A switch without a case for its argument gives up before
that.

The bound of the look-up is the size of an array in bytes.  It reads on behind
both arrays, and what it finds there is an argument of the model: a pair of
words, or nothing where the access itself fails.
-/

/-! ## The look-up of the rate -/

def nameArr : Vector UInt32 7 := #v[115200, 19200, 9600, 4800, 2400, 1200, 300]

def speedArr : Vector UInt32 7 := #v[b115200, b19200, b9600, b4800, b2400, b1200, b300]

/-- The words of `name_arr` and `speed_arr` at a subscript behind their ends. -/
abbrev Behind := Nat -> Option (UInt32 × UInt32)

/-- `name_arr[i]` and `speed_arr[i]`. -/
def readArrays (behind : Behind) (i : Nat) : Except Fault (UInt32 × UInt32) :=
  if inArray : i < 7 then .ok (nameArr[i], speedArr[i])
  else
    match behind i with
    | some words => .ok words
    | none => .error .outOfBounds

def speedRound (behind : Behind) (baundrate : UInt32) (options : Termios) (i : Nat) : Except Fault Termios :=
  (readArrays behind i).map (fun (name, speed) =>
    if baundrate = name then cfsetospeed (cfsetispeed options speed) speed else options)

/-- `sizeof(speed_arr)`: seven words of four bytes. -/
def sizeofSpeedArr : Nat := 28

def speedRounds (behind : Behind) (baundrate : UInt32) (options : Termios) : Except Fault Termios :=
  (List.range sizeofSpeedArr).foldlM (speedRound behind baundrate) options

/-! ## The switches -/

def setFlow (flowCtrl : UInt32) (options : Termios) : Termios :=
  if flowCtrl = 0 then { options with cCflag := options.cCflag &&& ~~~crtscts }
  else if flowCtrl = 1 then { options with cCflag := options.cCflag ||| crtscts }
  else if flowCtrl = 2 then { options with cCflag := options.cCflag ||| (ixon ||| ixoff ||| ixany) }
  else options

def setDatabits (databits : UInt32) (options : Termios) : Option Termios :=
  let cCflag := options.cCflag &&& ~~~csize
  if databits = 5 then some { options with cCflag := cCflag ||| cs5 }
  else if databits = 6 then some { options with cCflag := cCflag ||| cs6 }
  else if databits = 7 then some { options with cCflag := cCflag ||| cs7 }
  else if databits = 8 then some { options with cCflag := cCflag ||| cs8 }
  else none

def setParity (parity : UInt8) (options : Termios) : Option Termios :=
  if parity = 'n'.toUInt8 ∨ parity = 'N'.toUInt8 then
    some { options with
      cCflag := options.cCflag &&& ~~~parenb
      cIflag := options.cIflag &&& ~~~inpck }
  else if parity = 'o'.toUInt8 ∨ parity = 'O'.toUInt8 then
    some { options with
      cCflag := options.cCflag ||| (parodd ||| parenb)
      cIflag := options.cIflag ||| inpck }
  else if parity = 'e'.toUInt8 ∨ parity = 'E'.toUInt8 then
    some { options with
      cCflag := (options.cCflag ||| parenb) &&& ~~~parodd
      cIflag := options.cIflag ||| inpck }
  else if parity = 's'.toUInt8 ∨ parity = 'S'.toUInt8 then
    some { options with cCflag := (options.cCflag &&& ~~~parenb) &&& ~~~cstopb }
  else none

def setStopbits (stopbits : UInt32) (options : Termios) : Option Termios :=
  if stopbits = 1 then some { options with cCflag := options.cCflag &&& ~~~cstopb }
  else if stopbits = 2 then some { options with cCflag := options.cCflag ||| cstopb }
  else none

/-- Raw input and output, and reads of a single character. -/
def setRaw (options : Termios) : Termios :=
  { options with
    cOflag := options.cOflag &&& ~~~opost
    cIflag := options.cIflag &&& ~~~icrnl
    cLflag := options.cLflag &&& ~~~(icanon ||| echo ||| echoe ||| isig)
    cCc := (options.cCc.set vtime 1).set vmin 1 }

/-- `Set` from the look-up to `tcsetattr`.  Without a result it returns early. -/
def configure (flowCtrl databits stopbits : UInt32) (parity : UInt8) (options : Termios) : Option Termios := do
  let options := { options with cCflag := options.cCflag ||| clocal }
  let options := { options with cCflag := options.cCflag ||| cread }
  let options := setFlow flowCtrl options
  let options <- setDatabits databits options
  let options <- setParity parity options
  let options <- setStopbits stopbits options
  return setRaw options

/-! ## The calls -/

/-- What the system answers. -/
structure Tty where
  /-- `open` on each of the three devices. -/
  openDev : Fin 3 -> Int32
  /-- The settings that `tcgetattr` stores, unless it fails. -/
  tcgetattr : Option Termios
  /-- `tcsetattr` returns a non-zero code. -/
  tcsetattrFails : Termios -> Bool

/-- The return value, and the settings handed to `tcsetattr` if it was called. -/
structure SetResult where
  code : Int32
  handed : Option Termios

/-- What `Open` leaves in the port, and what it hands on. -/
structure Opened where
  fd : Int32
  isnormal : Int32
  code : Int32
  handed : Option Termios

namespace Tty

variable (tty : Tty) (behind : Behind)

def set (baundrate flowCtrl databits stopbits : UInt32) (parity : UInt8) : Except Fault SetResult :=
  match tty.tcgetattr with
  | none => .ok { code := uartFalse, handed := none }
  | some options =>
      (speedRounds behind baundrate options).map (fun options =>
        match configure flowCtrl databits stopbits parity options with
        | none => { code := uartFalse, handed := none }
        | some options =>
            { code := if tty.tcsetattrFails options then uartFalse else uartTrue
              handed := some options })

/-- `Open` on a port with this `isnormal`.  It takes the first device that can
be opened. -/
def openPort (isnormal : Int32) (baundrate databite stopbite : UInt32) (parity : UInt8) : Except Fault Opened :=
  match (List.finRange 3).find? (fun portId => tty.openDev portId ≠ uartFalse) with
  | none => .ok { fd := uartFalse, isnormal := isnormal, code := uartFalse, handed := none }
  | some portId =>
      (tty.set behind baundrate 0 databite stopbite parity).map (fun result =>
        { fd := tty.openDev portId
          isnormal := result.code
          code := result.code
          handed := result.handed })

end Tty

/-! ## What the look-up finds -/

/-- The code in `speed_arr` for a rate in `name_arr`. -/
def speedOf (baundrate : UInt32) : Option UInt32 :=
  (nameArr.toList.zip speedArr.toList).lookup baundrate

def setBoth (speed : UInt32) (options : Termios) : Termios :=
  cfsetospeed (cfsetispeed options speed) speed

/-- The settings with the speed of a rate, if it is in the array. -/
def setSpeed (baundrate : UInt32) (options : Termios) : Termios :=
  (speedOf baundrate).elim options (fun speed => setBoth speed options)

/-- The memory behind the arrays can be read and does not hold the rate. -/
def Quiet (behind : Behind) (baundrate : UInt32) : Prop :=
  forall i, i < 28 -> exists name speed, behind i = some (name, speed) ∧ baundrate ≠ name

section Lookup

variable {behind : Behind} {baundrate : UInt32}

theorem speedRounds_inside (options : Termios) :
    (List.range 7).foldlM (speedRound behind baundrate) options = .ok (setSpeed baundrate options) := by
  have entries : (nameArr.toList.zip speedArr.toList).foldl
      (fun options entry => if baundrate = entry.1 then setBoth entry.2 options else options) options =
        setSpeed baundrate options := by
    exact foldl_lookup setBoth baundrate (nameArr.toList.zip speedArr.toList) (by decide) options
  exact congrArg Except.ok entries

/-- The rounds behind the arrays find nothing in quiet memory. -/
theorem speedRound_behind {i : Nat} (past : 7 ≤ i) (inRange : i < 28) (quiet : Quiet behind baundrate) (options : Termios) :
    speedRound behind baundrate options i = .ok options := by
  rcases quiet i inRange with ⟨name, speed, words, other⟩
  rw [speedRound, readArrays, dif_neg (Nat.not_lt.mpr past), words]
  exact congrArg Except.ok (if_neg other)

theorem speedRounds_split (options : Termios) :
    speedRounds behind baundrate options =
      ((List.range 28).drop 7).foldlM (speedRound behind baundrate) (setSpeed baundrate options) := by
  have split : List.range sizeofSpeedArr = List.range 7 ++ (List.range 28).drop 7 := by decide
  rw [speedRounds, split, List.foldlM_append, speedRounds_inside, ok_bind]

theorem speedRounds_quiet (quiet : Quiet behind baundrate) (options : Termios) :
    speedRounds behind baundrate options = .ok (setSpeed baundrate options) := by
  rw [speedRounds_split]
  have past : forall i, i ∈ (List.range 28).drop 7 -> 7 ≤ i ∧ i < 28 := by decide
  generalize (List.range 28).drop 7 = indices at past
  induction indices with
  | nil => rfl
  | cons i rest ih =>
      rcases past i List.mem_cons_self with ⟨behind_end, inRange⟩
      rw [List.foldlM_cons, speedRound_behind behind_end inRange quiet, ok_bind]
      exact ih (fun other member => past other (List.mem_cons_of_mem _ member))

/-- The eighth round reads behind the arrays. -/
theorem speedRounds_trap (trap : behind 7 = none) (options : Termios) :
    speedRounds behind baundrate options = .error .outOfBounds := by
  have split : (List.range 28).drop 7 = 7 :: (List.range 28).drop 8 := by decide
  rw [speedRounds_split, split, List.foldlM_cons, speedRound, readArrays, dif_neg (Nat.lt_irrefl 7), trap]
  rfl

end Lookup
/-! ## What each switch does -/

section Switches

variable {options : Termios}

theorem setBoth_cCflag {speed : UInt32} (coded : ¬ NoSpeed speed) (some_speed : speed ≠ 0) (options : Termios) :
    (setBoth speed options).cCflag =
      (options.cCflag &&& ~~~(cbaud ||| cbaudex) ||| speed) &&& ~~~(cbaud ||| cbaudex) ||| speed := by
  rw [setBoth, cfsetospeed, if_neg coded, cfsetispeed, if_neg coded, if_neg some_speed]

/-- The codes of the array are codes of their rates. -/
theorem speedOf_spec {baundrate speed : UInt32} (found : speedOf baundrate = some speed) :
    ¬ NoSpeed speed ∧ speed ≠ 0 ∧ speed &&& cbaud = speed ∧ codedRate speed = some baundrate := by
  have entries : forall entry, entry ∈ nameArr.toList.zip speedArr.toList ->
      ¬ NoSpeed entry.2 ∧ entry.2 ≠ 0 ∧ entry.2 &&& cbaud = entry.2 ∧ codedRate entry.2 = some entry.1 :=
    forall_mem_of_all (by decide)
  rcases List.lookup_eq_some_iff.mp found with ⟨earlier, later, split, -⟩
  exact entries (baundrate, speed) (split ▸ List.mem_append_right _ List.mem_cons_self)

theorem speedOf_eq_none_iff {baundrate : UInt32} : speedOf baundrate = none ↔ baundrate ∉ nameArr.toList := by
  have names : (nameArr.toList.zip speedArr.toList).map Prod.fst = nameArr.toList := by decide
  rw [speedOf, List.lookup_eq_none_iff, ← names]
  simp only [bne_iff_ne, List.mem_map, not_exists, not_and]
  exact ⟨fun absent entry member same => absent entry member same.symm,
    fun absent entry member same => absent entry member same.symm⟩

theorem setSpeed_confined (baundrate : UInt32) (options : Termios) :
    Confined cbaud options.cCflag (setSpeed baundrate options).cCflag := by
  rw [setSpeed]
  cases found : speedOf baundrate with
  | none => exact Confined.refl _ _
  | some speed =>
      rcases speedOf_spec found with ⟨coded, some_speed, inside, -⟩
      have cleared : (cbaud ||| cbaudex) &&& cbaud = cbaud ||| cbaudex := by decide
      rw [Option.elim_some, setBoth_cCflag coded some_speed]
      exact (((Confined.clear _ cleared).trans (Confined.set _ inside)).trans (Confined.clear _ cleared)).trans
        (Confined.set _ inside)

theorem setSpeed_rate {baundrate : UInt32} (supported : baundrate ∈ nameArr.toList) (options : Termios) :
    codedRate ((setSpeed baundrate options).cCflag &&& cbaud) = some baundrate := by
  cases found : speedOf baundrate with
  | none => exact absurd supported (speedOf_eq_none_iff.mp found)
  | some speed =>
      rcases speedOf_spec found with ⟨coded, some_speed, inside, rate⟩
      rw [setSpeed, found, Option.elim_some, setBoth_cCflag coded some_speed,
        read_set_inside (read_clear_inside (by decide)) inside, rate]

/-- The sizes that have a case. -/
def databitCases : List UInt32 := [5, 6, 7, 8]

theorem setDatabits_cases (databits : UInt32) (options : Termios) :
    (databits ∈ databitCases ∧ exists after, setDatabits databits options = some after ∧
      codedDatabits after.cCflag = databits ∧ Confined csize options.cCflag after.cCflag) ∨
      databits ∉ databitCases ∧ setDatabits databits options = none := by
  have sized : forall size, size &&& csize = size ->
      (options.cCflag &&& ~~~csize ||| size) &&& csize = size ∧
        Confined csize options.cCflag (options.cCflag &&& ~~~csize ||| size) := by
    intro size inside
    exact ⟨read_set_inside (read_clear_inside (by decide)) inside,
      (Confined.clear _ (by decide)).trans (Confined.set _ inside)⟩
  have coded : forall size, size &&& csize = size ->
      codedDatabits (options.cCflag &&& ~~~csize ||| size) = codedDatabits size := by
    intro size inside
    rw [codedDatabits, (sized size inside).1, codedDatabits, inside]
  by_cases five : databits = 5
  · subst five
    exact Or.inl ⟨by decide, _, rfl, coded cs5 rfl, (sized cs5 rfl).2⟩
  by_cases six : databits = 6
  · subst six
    exact Or.inl ⟨by decide, _, rfl, coded cs6 rfl, (sized cs6 rfl).2⟩
  by_cases seven : databits = 7
  · subst seven
    exact Or.inl ⟨by decide, _, rfl, coded cs7 rfl, (sized cs7 rfl).2⟩
  by_cases eight : databits = 8
  · subst eight
    exact Or.inl ⟨by decide, _, rfl, coded cs8 rfl, (sized cs8 rfl).2⟩
  · refine Or.inr ⟨by simp [databitCases, five, six, seven, eight], ?_⟩
    rw [setDatabits, if_neg five, if_neg six, if_neg seven, if_neg eight]

/-- The counts of stop bits that have a case. -/
def stopbitCases : List UInt32 := [1, 2]

theorem setStopbits_cases (stopbits : UInt32) (options : Termios) :
    (stopbits ∈ stopbitCases ∧ exists after, setStopbits stopbits options = some after ∧
      codedStopbits after.cCflag = stopbits ∧ Confined cstopb options.cCflag after.cCflag) ∨
      stopbits ∉ stopbitCases ∧ setStopbits stopbits options = none := by
  by_cases one : stopbits = 1
  · subst one
    refine Or.inl ⟨by decide, _, rfl, ?_, Confined.clear _ (by decide)⟩
    rw [codedStopbits, read_clear_inside (by decide)]
    rfl
  by_cases two : stopbits = 2
  · subst two
    refine Or.inl ⟨by decide, _, rfl, ?_, Confined.set _ (by decide)⟩
    rw [codedStopbits, read_set_all _ (by decide)]
    rfl
  · refine Or.inr ⟨by simp [stopbitCases, one, two], ?_⟩
    rw [setStopbits, if_neg one, if_neg two]

/-- The parity that a letter asks for. -/
def askedParity (parity : UInt8) : Option Parity :=
  if parity = 'n'.toUInt8 ∨ parity = 'N'.toUInt8 then some .none
  else if parity = 'o'.toUInt8 ∨ parity = 'O'.toUInt8 then some .odd
  else if parity = 'e'.toUInt8 ∨ parity = 'E'.toUInt8 then some .even
  else if parity = 's'.toUInt8 ∨ parity = 'S'.toUInt8 then some .space
  else none

/-- The parities that come out as asked for: none at all, and odd or even where
the device had no constant parity bit before. -/
def Honoured (cCflag : UInt32) (kind : Parity) : Prop :=
  kind = .none ∨ kind ≠ .space ∧ cCflag &&& cmspar = 0

/-- The parity is read under three flags. -/
theorem codedParity_congr {first second : UInt32} (enabled : first &&& parenb = second &&& parenb)
    (constant : first &&& cmspar = second &&& cmspar) (odd : first &&& parodd = second &&& parodd) :
    codedParity first = codedParity second := by
  rw [codedParity, codedParity, enabled, constant, odd]

/-- The flags that the switch on the parity changes. -/
def parityFlags : UInt32 := parenb ||| parodd ||| cstopb

/-- With the parity bit switched on, odd and even come out unless the bit is a
constant. -/
theorem codedParity_enabled {before after : UInt32} {kind : Parity} (enabled : after &&& parenb ≠ 0)
    (same : after &&& cmspar = before &&& cmspar) (read : (if after &&& parodd = 0 then Parity.even else .odd) = kind) :
    codedParity after = kind ↔ Honoured before kind := by
  rw [codedParity, if_neg enabled, same, Honoured]
  by_cases constant : before &&& cmspar = 0
  · rw [if_pos constant, read]
    refine iff_of_true rfl (Or.inr ⟨?_, constant⟩)
    rintro rfl
    split at read <;> cases read
  · rw [if_neg constant]
    refine iff_of_false ?_ ?_
    · intro constant_kind
      split at read <;> split at constant_kind <;> cases read.trans constant_kind.symm
    · rintro (rfl | ⟨-, varies⟩)
      · split at read <;> cases read
      · exact constant varies

theorem setParity_cases (parity : UInt8) (options : Termios) :
    (exists kind after, askedParity parity = some kind ∧ setParity parity options = some after ∧
      (codedParity after.cCflag = kind ↔ Honoured options.cCflag kind) ∧
      Confined parityFlags options.cCflag after.cCflag) ∨
      askedParity parity = none ∧ setParity parity options = none := by
  have apart : parityFlags &&& cmspar = 0 := by decide
  unfold askedParity setParity
  split
  · refine Or.inl ⟨_, _, rfl, rfl, iff_of_true ?_ (Or.inl rfl), Confined.clear _ (by decide)⟩
    exact if_pos (read_clear_inside (by decide))
  split
  · have confined : Confined parityFlags options.cCflag (options.cCflag ||| (parodd ||| parenb)) :=
      Confined.set _ (by decide)
    refine Or.inl ⟨_, _, rfl, rfl, codedParity_enabled ?_ (confined _ apart) (if_neg ?_), confined⟩
    · rw [read_set_all _ (by decide)]
      decide
    · rw [read_set_all _ (by decide)]
      decide
  split
  · have confined : Confined parityFlags options.cCflag ((options.cCflag ||| parenb) &&& ~~~parodd) :=
      (Confined.set _ (by decide)).trans (Confined.clear _ (by decide))
    refine Or.inl ⟨_, _, rfl, rfl, codedParity_enabled ?_ (confined _ apart) (if_pos ?_), confined⟩
    · have enabled : Confined parodd (options.cCflag ||| parenb) ((options.cCflag ||| parenb) &&& ~~~parodd) :=
        Confined.clear _ (by decide)
      rw [enabled parenb (by decide), read_set_all _ (by decide)]
      decide
    · exact read_clear_inside (by decide)
  split
  · have confined : Confined parityFlags options.cCflag ((options.cCflag &&& ~~~parenb) &&& ~~~cstopb) :=
      (Confined.clear _ (by decide)).trans (Confined.clear _ (by decide))
    have switched_off : ((options.cCflag &&& ~~~parenb) &&& ~~~cstopb) &&& parenb = 0 := by
      have kept : Confined cstopb (options.cCflag &&& ~~~parenb) ((options.cCflag &&& ~~~parenb) &&& ~~~cstopb) :=
        Confined.clear _ (by decide)
      rw [kept parenb (by decide)]
      exact read_clear_inside (by decide)
    -- no bit is sent where a bit of zero was asked for
    refine Or.inl ⟨_, _, rfl, rfl, iff_of_false ?_ ?_, confined⟩
    · rw [codedParity, if_pos switched_off]
      decide
    · rintro (absurd | ⟨absurd, -⟩)
      · cases absurd
      · exact absurd rfl
  · exact Or.inr ⟨rfl, rfl⟩

end Switches

section Configure

variable {options : Termios} {databits stopbits : UInt32} {parity : UInt8}

/-- The arguments other than the rate have a case each. -/
def CasesThere (databits stopbits : UInt32) (parity : UInt8) : Prop :=
  databits ∈ databitCases ∧ stopbits ∈ stopbitCases ∧ (askedParity parity).isSome

instance : Decidable (CasesThere databits stopbits parity) :=
  inferInstanceAs (Decidable (_ ∧ _))

theorem codedDatabits_congr {first second : UInt32} (same : first &&& csize = second &&& csize) :
    codedDatabits first = codedDatabits second := by
  rw [codedDatabits, codedDatabits, same]

/-- The flags of a port that is not lost to the program and uses no flow
control. -/
theorem control_confined (options : Termios) :
    Confined (clocal ||| cread ||| crtscts) options.cCflag (((options.cCflag ||| clocal) ||| cread) &&& ~~~crtscts) :=
  ((Confined.set _ (by decide)).trans (Confined.set _ (by decide))).trans (Confined.clear _ (by decide))

/-- Without flow control the switches give up, or code what they were asked for
and leave the speed alone. -/
theorem configure_cases (databits stopbits : UInt32) (parity : UInt8) (options : Termios) :
    (CasesThere databits stopbits parity ∧ exists kind after, askedParity parity = some kind ∧
      configure 0 databits stopbits parity options = some after ∧
      after.cCflag &&& cbaud = options.cCflag &&& cbaud ∧ codedDatabits after.cCflag = databits ∧
      codedStopbits after.cCflag = stopbits ∧ (codedParity after.cCflag = kind ↔ Honoured options.cCflag kind)) ∨
      ¬ CasesThere databits stopbits parity ∧ configure 0 databits stopbits parity options = none := by
  have control := control_confined options
  let controlled : Termios :=
    { options with cCflag := ((options.cCflag ||| clocal) ||| cread) &&& ~~~crtscts }
  have steps : configure 0 databits stopbits parity options =
      (setDatabits databits controlled).bind (fun sized =>
        (setParity parity sized).bind (fun checked =>
          (setStopbits stopbits checked).bind (fun stopped => some (setRaw stopped)))) := rfl
  rw [steps]
  rcases setDatabits_cases databits controlled with ⟨size_there, sized, moved, size, size_confined⟩ | ⟨absent, failed⟩
  · rw [moved, Option.bind_some]
    rcases setParity_cases parity sized with ⟨kind, checked, asked, moved, honoured, parity_confined⟩ | ⟨absent, failed⟩
    · rw [moved, Option.bind_some]
      rcases setStopbits_cases stopbits checked with ⟨stop_there, stopped, moved, stop, stop_confined⟩ | ⟨absent, failed⟩
      · rw [moved, Option.bind_some]
        refine Or.inl ⟨⟨size_there, stop_there, asked ▸ rfl⟩, kind, setRaw stopped, asked, rfl, ?_, ?_, stop, ?_⟩
        · calc
            stopped.cCflag &&& cbaud = checked.cCflag &&& cbaud := stop_confined cbaud (by decide)
            _ = sized.cCflag &&& cbaud := parity_confined cbaud (by decide)
            _ = controlled.cCflag &&& cbaud := size_confined cbaud (by decide)
            _ = options.cCflag &&& cbaud := control cbaud (by decide)
        · refine (codedDatabits_congr ?_).trans size
          exact (stop_confined csize (by decide)).trans (parity_confined csize (by decide))
        · have same : codedParity stopped.cCflag = codedParity checked.cCflag :=
            codedParity_congr (stop_confined parenb (by decide)) (stop_confined cmspar (by decide))
              (stop_confined parodd (by decide))
          have constant : sized.cCflag &&& cmspar = options.cCflag &&& cmspar :=
            (size_confined cmspar (by decide)).trans (control cmspar (by decide))
          rw [Honoured, constant] at honoured
          change codedParity stopped.cCflag = kind ↔ _
          rw [same]
          exact honoured
      · rw [failed]
        exact Or.inr ⟨fun cases_there => absent cases_there.2.1, rfl⟩
    · rw [failed]
      refine Or.inr ⟨fun cases_there => ?_, rfl⟩
      have some_kind := cases_there.2.2
      rw [absent] at some_kind
      cases some_kind
  · rw [failed]
    exact Or.inr ⟨fun cases_there => absent cases_there.1, rfl⟩

end Configure

/-! ## What is handed to the device -/

/-- The settings that a call asks for, if each argument is supported. -/
def askedSettings (baundrate databits stopbits : UInt32) (parity : UInt8) : Option LineSettings :=
  if baundrate ∈ nameArr.toList ∧ CasesThere databits stopbits parity then
    (askedParity parity).map (fun kind =>
      { rate := baundrate
        databits := databits
        stopbits := stopbits
        parity := kind })
  else none

/-- A call that returns true has handed over the settings it was asked for, and
one that was asked for something unsupported returns false and has handed over
nothing. -/
def Opened.Correct (opened : Opened) (asked : Option LineSettings) : Prop :=
  (opened.code = uartTrue -> asked.isSome ∧ opened.handed.bind Termios.lineSettings = asked) ∧
    (asked = none -> opened.code = uartFalse ∧ opened.handed = none)

instance (opened : Opened) (asked : Option LineSettings) : Decidable (opened.Correct asked) :=
  inferInstanceAs (Decidable ((_ -> _ ∧ _) ∧ (_ -> _ ∧ _)))

/-- Whatever stands behind the two arrays, a call with these arguments is correct
and does not read there. -/
structure Tty.AllOrNothing (tty : Tty) (isnormal : Int32) (baundrate databite stopbite : UInt32) (parity : UInt8) :
    Prop where
  correct : forall behind opened, tty.openPort behind isnormal baundrate databite stopbite parity = .ok opened ->
    opened.Correct (askedSettings baundrate databite stopbite parity)
  inside : forall behind, tty.openPort behind isnormal baundrate databite stopbite parity ≠ .error .outOfBounds

section Opening

variable {tty : Tty} {prior : Termios}

/-- What `Open` leaves for the result of the switches. -/
def Opened.ofConfigured (fd : Int32) (configured : Option Termios) : Opened where
  fd := fd
  isnormal := if configured.isSome then uartTrue else uartFalse
  code := if configured.isSome then uartTrue else uartFalse
  handed := configured

/-- With a device that answers, `Open` hands over what the switches make of its
settings. -/
theorem openPort_eq (opens : exists portId, tty.openDev portId ≠ uartFalse) (reads : tty.tcgetattr = some prior)
    (writes : forall options, tty.tcsetattrFails options = false) (isnormal : Int32)
    (baundrate databite stopbite : UInt32) (parity : UInt8) :
    exists fd, forall behind, tty.openPort behind isnormal baundrate databite stopbite parity =
      (speedRounds behind baundrate prior).map (fun options =>
        Opened.ofConfigured fd (configure 0 databite stopbite parity options)) := by
  cases found : (List.finRange 3).find? (fun portId => tty.openDev portId ≠ uartFalse) with
  | none =>
      rcases opens with ⟨portId, opened⟩
      have closed := List.find?_eq_none.mp found portId (List.mem_finRange portId)
      exact absurd (decide_eq_true opened) closed
  | some portId =>
      refine ⟨tty.openDev portId, ?_⟩
      intro behind
      simp only [Tty.openPort, found, Tty.set, reads]
      cases speedRounds behind baundrate prior with
      | error fault => rfl
      | ok options =>
          cases configured : configure 0 databite stopbite parity options with
          | none => simp [Except.map, configured, Opened.ofConfigured]
          | some after => simp [Except.map, configured, Opened.ofConfigured, writes]

theorem ofConfigured_none_correct (fd : Int32) (asked : Option LineSettings) :
    (Opened.ofConfigured fd none).Correct asked := by
  constructor
  · intro returned
    exact absurd returned (by decide : uartFalse ≠ uartTrue)
  · exact fun _ => ⟨rfl, rfl⟩

theorem ofConfigured_some_correct (fd : Int32) (after : Termios) (asked : Option LineSettings) :
    (Opened.ofConfigured fd (some after)).Correct asked ↔ asked.isSome ∧ after.lineSettings = asked := by
  constructor
  · exact fun correct => correct.1 rfl
  · rintro ⟨some_asked, same⟩
    constructor
    · exact fun _ => ⟨some_asked, same⟩
    · intro none_asked
      rw [none_asked] at some_asked
      cases some_asked

/-- No call reads inside the arrays only.  In memory that does not hold the rate
a call is correct exactly when an argument other than the rate is unsupported,
or the rate is supported and the parity comes out as asked for. -/
theorem set_never_all_or_nothing (opens : exists portId, tty.openDev portId ≠ uartFalse)
    (reads : tty.tcgetattr = some prior) (writes : forall options, tty.tcsetattrFails options = false)
    (isnormal : Int32) (baundrate databite stopbite : UInt32) (parity : UInt8) :
    ¬ tty.AllOrNothing isnormal baundrate databite stopbite parity ∧
      forall behind, Quiet behind baundrate ->
        exists opened, tty.openPort behind isnormal baundrate databite stopbite parity = .ok opened ∧
          (opened.Correct (askedSettings baundrate databite stopbite parity) ↔
            ¬ CasesThere databite stopbite parity ∨
              baundrate ∈ nameArr.toList ∧
                exists kind, askedParity parity = some kind ∧ Honoured prior.cCflag kind) := by
  rcases openPort_eq opens reads writes isnormal baundrate databite stopbite parity with ⟨fd, called⟩
  constructor
  · rintro ⟨-, inside⟩
    refine inside (fun _ => none) ?_
    rw [called, speedRounds_trap rfl]
    rfl
  · intro behind quiet
    refine ⟨Opened.ofConfigured fd (configure 0 databite stopbite parity (setSpeed baundrate prior)), ?_, ?_⟩
    · rw [called, speedRounds_quiet quiet]
      rfl
    rcases configure_cases databite stopbite parity (setSpeed baundrate prior) with
      ⟨there, kind, after, asked, configured, rate, size, stop, honoured⟩ | ⟨absent, failed⟩
    · rw [configured, ofConfigured_some_correct]
      have constant : (setSpeed baundrate prior).cCflag &&& cmspar = prior.cCflag &&& cmspar :=
        setSpeed_confined baundrate prior cmspar (by decide)
      rw [Honoured, constant] at honoured
      by_cases supported : baundrate ∈ nameArr.toList
      · have settings : askedSettings baundrate databite stopbite parity =
            some { rate := baundrate, databits := databite, stopbits := stopbite, parity := kind } := by
          rw [askedSettings, if_pos ⟨supported, there⟩, asked]
          rfl
        have line : after.lineSettings = some
            { rate := baundrate, databits := databite, stopbits := stopbite, parity := codedParity after.cCflag } := by
          rw [Termios.lineSettings, rate, setSpeed_rate supported, size, stop]
          rfl
        rw [settings, line, Option.some.injEq, LineSettings.mk.injEq]
        simp only [Option.isSome_some, true_and, honoured, there, not_true_eq_false, false_or, supported, asked,
          Option.some.injEq, exists_eq_left', Honoured]
      · have settings : askedSettings baundrate databite stopbite parity = none :=
          if_neg (fun both => supported both.1)
        rw [settings]
        refine iff_of_false (fun correct => Bool.false_ne_true correct.1) ?_
        rintro (absent | ⟨present, -⟩)
        · exact absent there
        · exact supported present
    · rw [failed]
      exact iff_of_true (ofConfigured_none_correct fd _) (Or.inl absent)

end Opening

/-- A device that is set to 9600 baud, eight bits and no parity, and takes every change. -/
def plainPort : Tty where
  openDev := fun _ => 3
  tcgetattr := some
    { cIflag := 0
      cOflag := 0
      cCflag := b9600 ||| cs8
      cLflag := 0
      cCc := Vector.replicate 32 0
      cIspeed := b9600
      cOspeed := b9600 }
  tcsetattrFails := fun _ => false

/-- The program's own call. -/
theorem program_call_reads_behind :
    ¬ plainPort.AllOrNothing 0 115200 8 1 'N'.toUInt8 ∧
      exists opened, plainPort.openPort (fun _ => some (0, 0)) 0 115200 8 1 'N'.toUInt8 = .ok opened ∧
        opened.Correct (askedSettings 115200 8 1 'N'.toUInt8) := by
  have quiet : Quiet (fun _ => some (0, 0)) 115200 := fun i inRange => ⟨0, 0, rfl, by decide⟩
  have opens : exists portId, plainPort.openDev portId ≠ uartFalse := ⟨0, by decide⟩
  rcases set_never_all_or_nothing opens rfl (fun _ => rfl) 0 115200 8 1 'N'.toUInt8 with ⟨never, result⟩
  rcases result _ quiet with ⟨opened, called, correct⟩
  exact ⟨never, opened, called, correct.mpr (Or.inr ⟨by decide, .none, rfl, Or.inl rfl⟩)⟩

/-- A rate that no array holds is accepted, and the old one handed over; memory
that cannot be read stops the look-up. -/
theorem unsupported_rate_accepted :
    (exists opened, plainPort.openPort (fun _ => some (0, 0)) 0 57600 8 1 'N'.toUInt8 = .ok opened ∧
      opened.code = uartTrue ∧ askedSettings 57600 8 1 'N'.toUInt8 = none ∧
      opened.handed.bind Termios.lineSettings =
        some { rate := 9600, databits := 8, stopbits := 1, parity := .none }) ∧
      plainPort.openPort (fun _ => none) 0 57600 8 1 'N'.toUInt8 = .error .outOfBounds ∧
      ¬ plainPort.AllOrNothing 0 57600 8 1 'N'.toUInt8 := by
  have trapped : plainPort.openPort (fun _ => none) 0 57600 8 1 'N'.toUInt8 = .error .outOfBounds := rfl
  exact ⟨⟨_, rfl, rfl, rfl, rfl⟩, trapped, fun claimed => claimed.inside _ trapped⟩

end SerialPort
end MotionDetectAlarm
