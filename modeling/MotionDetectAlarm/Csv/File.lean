import MotionDetectAlarm.Csv.Reader

namespace MotionDetectAlarm
namespace Csv

open Foundation

/-!
# Reading a file to its end

A caller that goes on calling `next_line` gets the lines of the file one after
the other and then null pointers, wherever the blocks of the reader end.  A line
as long as a block ends the reading with an exception that has its number.

The lines are those of the text: cut at the line feeds, with no line behind the
last one.
-/

/-! ## Lines -/

/-- The lines of a file. -/
def linesOf (file : Bytes) : List Bytes :=
  if (file.splitOn newline).getLast? = some [] then (file.splitOn newline).dropLast else file.splitOn newline

theorem linesOf_nil : linesOf [] = [] := rfl

/-- A file that is not empty has a first line, and the lines of what follows. -/
theorem linesOf_of_ne_nil {file : Bytes} (some_file : file ≠ []) :
    linesOf file = firstLineOf file :: linesOf (afterFirstLine file) := by
  have pieces : file.splitOn newline = firstLineOf file :: _ := splitOn_eq_takeWhile_cons file
  have whole : firstLineOf file ++ file.dropWhile (fun byte => byte ≠ newline) = file :=
    List.takeWhile_append_dropWhile
  rw [afterFirstLine, linesOf, pieces]
  cases found : file.dropWhile (fun byte => byte ≠ newline) with
  | nil =>
      rw [found, List.append_nil] at whole
      have unended : ¬ [firstLineOf file].getLast? = some [] := by
        rw [whole]
        simpa using some_file
      exact if_neg unended
  | cons byte rest =>
      have more := List.splitOn_ne_nil newline rest
      have last : (firstLineOf file :: rest.splitOn newline).getLast? = (rest.splitOn newline).getLast? := by
        rcases List.exists_cons_of_ne_nil more with ⟨head, tail, same⟩
        rw [same, List.getLast?_cons_cons]
      change (if (firstLineOf file :: rest.splitOn newline).getLast? = some [] then
        (firstLineOf file :: rest.splitOn newline).dropLast else firstLineOf file :: rest.splitOn newline) =
          firstLineOf file :: linesOf rest
      rw [last, List.dropLast_cons_of_ne_nil more, linesOf]
      split <;> rfl

/-! ## Answers -/

/-- What a caller of `next_line` gets: a line, a null pointer, or an exception. -/
abbrev Answer := Except CsvError (Option Bytes)

/-- The exception for a line that is too long. -/
def tooLong (fileName : Bytes) (fileLine : UInt32) : CsvError :=
  { kind := .lineLengthLimitExceeded
    fileName := fileName
    fileLine := fileLine.toInt32 }

/-- The answers to a number of calls.  An exception ends them. -/
def LineReader.answers (reader : LineReader) : Nat -> List Answer
  | 0 => []
  | number + 1 =>
      match reader.nextLine with
      | .error err => [.error err]
      | .ok none => .ok none :: answers reader number
      | .ok (some (line, after)) => .ok (some line) :: answers after number

/-- What the answers should be, from the file alone. -/
def answersOf (fileName : Bytes) : (fileLine : UInt32) -> (file : Bytes) -> Nat -> List Answer
  | _, _, 0 => []
  | fileLine, file, number + 1 =>
      if file = [] then .ok none :: answersOf fileName fileLine file number
      else if blockLen ≤ (firstLineOf file).length then [.error (tooLong fileName (fileLine + 1))]
      else .ok (some (lineText (firstLineOf file)).text) ::
        answersOf fileName (fileLine + 1) (afterFirstLine file) number

/-- Every call takes the first line of what is left. -/
theorem LineReader.answers_eq {reader : LineReader} {rest : Bytes} (fronts : reader.Fronts rest) (number : Nat) :
    reader.answers number = answersOf reader.fileName reader.fileLine rest number := by
  induction number generalizing reader rest with
  | zero => rfl
  | succ number ih =>
      rw [answers, answersOf]
      rcases nextLine_cases fronts with ⟨empty, atEnd⟩ | ⟨some_rest, long, refused⟩ |
        ⟨some_rest, short, after, taken, next, fileName, fileLine⟩
      · rw [atEnd, if_pos empty, ih fronts]
      · rw [refused, if_neg some_rest, if_pos long]
        rfl
      · rw [taken, if_neg some_rest, if_neg (Nat.not_le.mpr short), ← fileName, ← fileLine, ← ih next]

/-- The answer with a line. -/
def lineAnswer (line : Bytes) : Answer :=
  .ok (some (lineText line).text)

/-- The lines that are short enough, up to the first that is not. -/
def shortLines (lines : List Bytes) : List Bytes :=
  lines.takeWhile (fun line => line.length < blockLen)

/-- What follows the lines: the exception for one that is too long, or null
pointers. -/
def afterLines (fileName : Bytes) (fileLine : UInt32) (lines : List Bytes) (number : Nat) : List Answer :=
  if (shortLines lines).length < lines.length then
    [.error (tooLong fileName (fileLine + UInt32.ofNat (shortLines lines).length + 1))]
  else List.replicate number (.ok none)

/-- The answers are the lines in their order, and what follows them. -/
theorem answersOf_eq (fileName : Bytes) (fileLine : UInt32) (file : Bytes) (number : Nat) :
    answersOf fileName fileLine file number =
      ((shortLines (linesOf file)).map lineAnswer ++
        afterLines fileName fileLine (linesOf file) number).take number := by
  induction number generalizing fileLine file with
  | zero => rw [answersOf, List.take_zero]
  | succ number ih =>
      rw [answersOf]
      by_cases empty : file = []
      · rw [if_pos empty, ih, empty, linesOf_nil]
        simp [shortLines, afterLines, List.replicate_succ, List.take_replicate]
      · rw [if_neg empty, linesOf_of_ne_nil empty]
        by_cases long : blockLen ≤ (firstLineOf file).length
        · have none_short : shortLines (firstLineOf file :: linesOf (afterFirstLine file)) = [] := by
            rw [shortLines, List.takeWhile_cons_of_neg (by simpa using long)]
          have refused : afterLines fileName fileLine (firstLineOf file :: linesOf (afterFirstLine file)) (number + 1) =
              [.error (tooLong fileName (fileLine + 1))] := by
            rw [afterLines, none_short, if_pos (by exact Nat.succ_pos _)]
            simp
          rw [if_pos long, none_short, refused, List.map_nil, List.nil_append, List.take_of_length_le]
          exact Nat.succ_pos number
        · have one_more : shortLines (firstLineOf file :: linesOf (afterFirstLine file)) =
              firstLineOf file :: shortLines (linesOf (afterFirstLine file)) := by
            rw [shortLines, List.takeWhile_cons_of_pos (by simpa using long), shortLines]
          rw [if_neg long, ih, one_more, List.map_cons, List.cons_append, List.take_succ_cons, afterLines, afterLines,
            one_more, List.length_cons, List.length_cons]
          congr 1
          by_cases more : (shortLines (linesOf (afterFirstLine file))).length < (linesOf (afterFirstLine file)).length
          · rw [if_pos more, if_pos (Nat.succ_lt_succ more)]
            congr 4
            rw [UInt32.ofNat_add]
            ac_rfl
          · rw [if_neg more, if_neg (fun less => more (Nat.lt_of_succ_lt_succ less)), List.replicate_succ',
              ← List.append_assoc]
            refine (List.take_append_of_le_length ?_).symm
            rw [List.length_append, List.length_replicate]
            exact Nat.le_add_left _ _

/-! ## From the constructor -/

/-- Whatever the blocks hold at first and wherever they end in the file: a caller
gets the lines of the file in their order, each without its line end, up to the
first that is as long as a block. -/
theorem lines_of_file (buffer : Nat -> UInt8) (fileName file : Bytes) (number : Nat) :
    (LineReader.init buffer fileName file).answers number =
      ((shortLines (linesOf (withoutBom file))).map lineAnswer ++
        afterLines fileName 0 (linesOf (withoutBom file)) number).take number := by
  rw [LineReader.answers_eq (LineReader.init_fronts buffer fileName file)]
  exact answersOf_eq fileName 0 (withoutBom file) number

end Csv
end MotionDetectAlarm
