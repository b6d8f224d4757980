import MotionDetectAlarm.Foundation.Framing
import MotionDetectAlarm.SerialPort.Message

namespace MotionDetectAlarm
namespace SerialPort

open Foundation

/-!
# What the modem reads

The other end of the port is not part of the program.  What is assumed of it
here is no more than the form of a command: a line that names `send_message`
with two texts in quotes, the number and a text in hexadecimal UTF-16.

A command around a number without marks and a text of digits is one line, and it
reads back as its number and the characters of its text.
-/

def quote : UInt8 := 0x22

def lineFeed : UInt8 := 0x0A

/-- What closes a command before its line feed. -/
def ending : Bytes := ascii "\")\r"

/-- The number and the text of a command, from its line. -/
def readCommand (line : Bytes) : Option (Bytes × List Char) := do
  let text <- behind opening line
  let number := text.takeWhile (fun byte => byte ≠ quote)
  let text <- behind separator (text.drop number.length)
  let body := text.takeWhile (fun byte => byte ≠ quote)
  if text.drop body.length = ending then (readUtf16Be body).map (fun characters => (number, characters)) else none

section Frame

variable {phone text : Bytes}

/-- The line of a command. -/
theorem frame_line (phone text : Bytes) :
    frame phone text = opening ++ (phone ++ (separator ++ (text ++ ending))) ++ [lineFeed] := by
  have closed : closing = ending ++ [lineFeed] := by decide
  simp only [frame, closed, List.append_assoc]

/-- A text without quotes is read up to the quote behind it. -/
theorem takeWhile_quoted (clean : quote ∉ text) (rest : Bytes) :
    (text ++ quote :: rest).takeWhile (fun byte => byte ≠ quote) = text :=
  (takeWhile_ne_append_cons text rest).trans (takeWhile_ne_eq_self clean)

/-- The line of a command reads back as its parts. -/
theorem readCommand_frame {characters : List Char} (number : quote ∉ phone) (body : quote ∉ text)
    (reads : readUtf16Be text = some characters) :
    readCommand (frame phone text).dropLast = some (phone, characters) := by
  have between : separator = quote :: ascii ",\"" := by decide
  have closes : ending = quote :: ascii ")\r" := by decide
  have first : (phone ++ (separator ++ (text ++ ending))).takeWhile (fun byte => byte ≠ quote) = phone := by
    rw [between]
    exact takeWhile_quoted number _
  have second : (text ++ ending).takeWhile (fun byte => byte ≠ quote) = text := by
    rw [closes]
    exact takeWhile_quoted body _
  rw [frame_line, List.dropLast_concat, readCommand, behind_append, Option.bind_eq_bind, Option.bind_some]
  simp only [first, List.drop_left, behind_append, Option.bind_some, second, if_true, reads,
    Option.map_some]

/-- A command around a number and a text of digits is one line. -/
theorem frame_isLine (number : forall byte, byte ∈ phone -> IsDecimalDigit byte)
    (digits : forall byte, byte ∈ text -> IsHexDigit byte) : IsLine lineFeed (frame phone text) := by
  have feed : ¬ IsHexDigit lineFeed := by decide
  have constant : lineFeed ∉ opening ∧ lineFeed ∉ separator ∧ lineFeed ∉ ending := by decide
  refine ⟨_, frame_line phone text, ?_⟩
  simp only [List.mem_append, not_or]
  exact ⟨constant.1, fun member => feed (Or.inl (number _ member)), constant.2.1, fun member => feed (digits _ member),
    constant.2.2⟩

end Frame

end SerialPort
end MotionDetectAlarm
