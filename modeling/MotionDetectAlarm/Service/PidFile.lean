import MotionDetectAlarm.Foundation.Decimal

namespace MotionDetectAlarm
namespace Service

open Foundation

/-!
# The pid file

`main` writes the number of its process to a file in a directory that it makes
if it has to, and removes the file when it leaves.  A call that fails on the way
leaves a message for the log and stops the service from running, not the start.

The descriptor is not closed on the ways out that fail, which nothing here
depends on.
-/

/-- The directory `/var/run/mdalarm`, with or without `mdalarm.pid` in it. -/
inductive RunDirectory where
  | missing
  | empty
  | holding (pidFile : Bytes)
  deriving DecidableEq

/-- The directory after `mkdir`, which is not called where it is there. -/
def RunDirectory.made : RunDirectory -> RunDirectory
  | missing => empty
  | found => found

/-- The directory with a file in it, which is empty unless it was there. -/
def RunDirectory.opened : RunDirectory -> RunDirectory
  | holding pidFile => holding pidFile
  | _ => holding []

/-- What the system makes of the calls.  A failure comes with the text of its
`errno`. -/
structure PidCalls where
  getpid : Int32
  mkdir : Option Bytes
  openFile : Option Bytes
  ftruncate : Option Bytes
  /-- The return value of `write`, which is at most the number of bytes. -/
  write : Int
  writeErrno : Bytes
  /-- `remove` returns a non-zero code. -/
  removeFails : Bool

/-- The text that `%d` prints. -/
def formatSigned (value : Int32) : Bytes :=
  (if value < 0 then ascii "-" else []) ++ decimalText value.toInt.natAbs

/-- `snprintf(u8PidBuf, 64, "%d\n", s32ServicePid)`. -/
def pidText (s32ServicePid : Int32) : Bytes :=
  (formatSigned s32ServicePid ++ [0x0A]).take 63

namespace PidCalls

variable (calls : PidCalls)

/-- `snprintf(pMsg, u32MsgSize, "... : %s\n", strerror(errno))` with a size of 256. -/
def message (format errno : Bytes) : Bytes :=
  (format ++ ascii " : " ++ errno ++ [0x0A]).take 255

/-- `CreatePidFile`: its result, the message if there is one, and what it leaves. -/
def createPidFile (found : RunDirectory) : Int32 × Option Bytes × RunDirectory :=
  match (if found = .missing then calls.mkdir else none) with
  | some errno => (-1, some (message (ascii "mkdir /var/run/mdalarm fail") errno), found)
  | none =>
      match calls.openFile with
      | some errno => (-1, some (message (ascii "open /var/run/mdalarm/mdalarm pid file fail") errno), found.made)
      | none =>
          match calls.ftruncate with
          | some errno =>
              (-1, some (message (ascii "clear /var/run/mdalarm/mdalarm pid file fail") errno),
                found.opened)
          | none =>
              let written := .holding ((pidText calls.getpid).take calls.write.toNat)
              if calls.write < (pidText calls.getpid).length then
                (-1, some (message (ascii "write pid to /var/run/mdalarm/mdalarm file fail") calls.writeErrno), written)
              else (0, none, written)

/-- `remove("/var/run/mdalarm/mdalarm.pid")`. -/
def remove (left : RunDirectory) : RunDirectory :=
  if calls.removeFails ∨ left = .missing then left else .empty

end PidCalls

/-- The number of a process is not cut off. -/
theorem pidText_eq (s32ServicePid : Int32) : pidText s32ServicePid = formatSigned s32ServicePid ++ [0x0A] := by
  apply List.take_of_length_le
  have digits : (decimalText s32ServicePid.toInt.natAbs).length ≤ 10 := by
    rw [decimalText, List.length_map]
    apply (Nat.length_toDigits_le_iff (by decide) (by decide)).mpr
    have low := s32ServicePid.le_toInt
    have high := s32ServicePid.toInt_lt
    omega
  rw [formatSigned, List.length_append, List.length_append, List.length_singleton]
  split
  · rw [show (ascii "-").length = 1 by decide]
    omega
  · rw [List.length_nil]
    omega

/-- Whoever reads the file up to its line feed reads the number of the process. -/
theorem pidText_reads_back {s32ServicePid : Int32} (process : 0 ≤ s32ServicePid) :
    numeralValue ((pidText s32ServicePid).takeWhile (fun byte => byte ≠ 0x0A)) = some s32ServicePid.toInt.toNat := by
  have plain : formatSigned s32ServicePid = decimalText s32ServicePid.toInt.natAbs := by
    rw [formatSigned, if_neg (Int32.not_lt.mpr process), List.nil_append]
  have number : s32ServicePid.toInt.natAbs = s32ServicePid.toInt.toNat := by
    have positive := Int32.le_iff_toInt_le.mp process
    have zero : (0 : Int32).toInt = 0 := rfl
    omega
  have digits : forall byte, byte ∈ decimalText s32ServicePid.toInt.natAbs -> byte ≠ 0x0A := by
    intro byte member same
    rcases List.mem_map.mp member with ⟨digit, listed, rfl⟩
    have value := digitValue_digit (Nat.isDigit_of_mem_toDigits (by decide) (by decide) listed)
    rw [same] at value
    cases value
  rw [pidText_eq, plain, List.takeWhile_append_of_pos (fun byte member => decide_eq_true (digits byte member)),
    List.takeWhile_cons_of_neg (by decide), List.append_nil, numeralValue_decimalText, number]

/-- A call that returns 0 has written the whole text; any other one has a message. -/
theorem createPidFile_cases (calls : PidCalls) (found : RunDirectory) :
    calls.createPidFile found = (0, none, .holding (pidText calls.getpid)) ∨
      exists text left, calls.createPidFile found = (-1, some text, left) := by
  unfold PidCalls.createPidFile
  split
  · exact Or.inr ⟨_, _, rfl⟩
  · split
    · exact Or.inr ⟨_, _, rfl⟩
    · split
      · exact Or.inr ⟨_, _, rfl⟩
      · dsimp only
        split
        · exact Or.inr ⟨_, _, rfl⟩
        · rename_i whole
          have all : (pidText calls.getpid).take calls.write.toNat = pidText calls.getpid := by
            apply List.take_of_length_le
            omega
          rw [all]
          exact Or.inl rfl

end Service
end MotionDetectAlarm
