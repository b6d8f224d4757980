import MotionDetectAlarm.Foundation.Bytes
import MotionDetectAlarm.Foundation.Separated
import MotionDetectAlarm.Foundation.Slice

namespace MotionDetectAlarm
namespace Csv

open Foundation

/-!
# Reading lines of a file

`LineReader` keeps three blocks of a file.  It hands out the lines of the first
two; when a line starts in the second, the second becomes the first and what has
been read ahead into the third becomes the second.  A line is a C string: the
line feed, or the byte behind the last one, becomes a NUL, and so does a
carriage return before it.

The read ahead is taken where its result is awaited, as in the synchronous
reader.  The blocks are not initialised, so what they hold before anything is
stored is an argument of the model.

To the rest of the file every call takes its first line off, as long as that
line is shorter than a block.
-/

/-! ## Errors -/

/-- The exceptions that can be thrown here. -/
inductive ErrorKind where
  | canNotOpenFile
  | lineLengthLimitExceeded
  | extraColumnInHeader
  | missingColumnInHeader
  | duplicatedColumnInHeader
  | headerMissing
  | tooFewColumns
  | tooManyColumns
  deriving DecidableEq, Repr

/-- `strncpy` of a C text into a `char[size + 1]` whose last byte is a NUL. -/
def truncate (size : Nat) (text : Bytes) : Bytes :=
  text.take size

def maxFileNameLength : Nat := 255

def maxColumnNameLength : Nat := 63

/-- An exception with the data that its kind carries; what it does not carry
keeps its default. -/
structure CsvError where
  kind : ErrorKind
  fileName : Bytes := []
  fileLine : Int32 := -1
  columnName : Bytes := []
  errnoValue : Int32 := 0
  deriving DecidableEq, Repr

/-- The kinds that derive from `with_file_line`. -/
def ErrorKind.withFileLine : ErrorKind -> Bool
  | .lineLengthLimitExceeded => true
  | .tooFewColumns => true
  | .tooManyColumns => true
  | _ => false

/-- The handler for `with_file_name`, from which every kind derives. -/
def CsvError.setFileName (err : CsvError) (fileName : Bytes) : CsvError :=
  { err with fileName := fileName }

/-- The handler for `with_file_line`. -/
def CsvError.setFileLine (err : CsvError) (fileLine : UInt32) : CsvError :=
  if err.kind.withFileLine then { err with fileLine := fileLine.toInt32 } else err

/-! ## The reader -/

/-- `block_len`. -/
def blockLen : Nat := 1 <<< 20

def newline : UInt8 := 0x0A

def carriageReturn : UInt8 := 0x0D

/-- The members of `LineReader`.  A reader that is valid still has the rest of
the file to read. -/
structure LineReader where
  buffer : Nat -> UInt8
  reader : Option Bytes
  dataBegin : Nat
  dataEnd : Nat
  fileName : Bytes
  fileLine : UInt32

/-- What `fopen` answers: the contents of the file, or an error number. -/
abbrev Fopen := CText -> Except Int32 Bytes

namespace LineReader

/-- `init`, on blocks that hold anything. -/
def init (buffer : Nat -> UInt8) (fileName : Bytes) (byteSource : Bytes) : LineReader :=
  let arrived := byteSource.take (2 * blockLen)
  let buffer := store buffer 0 arrived
  let dataEnd := arrived.length
  { buffer := buffer
    reader := if dataEnd = 2 * blockLen then some (byteSource.drop (2 * blockLen)) else none
    dataBegin := if 3 ≤ dataEnd ∧ buffer 0 = 0xEF ∧ buffer 1 = 0xBB ∧ buffer 2 = 0xBF then 3 else 0
    dataEnd := dataEnd
    fileName := fileName
    fileLine := 0 }

/-- The constructor, with `open_file`. -/
def constructed (fopen : Fopen) (buffer : Nat -> UInt8) (fileName : CText) : Except CsvError LineReader :=
  match fopen fileName with
  | .error errnoValue =>
      .error
        { kind := .canNotOpenFile
          fileName := truncate maxFileNameLength fileName.text
          errnoValue := errnoValue }
  | .ok byteSource => .ok (init buffer (truncate maxFileNameLength fileName.text) byteSource)

variable (reader : LineReader)

/-- The move to the next block, with `finish_read`. -/
def shift : LineReader :=
  if blockLen ≤ reader.dataBegin then
    let reader :=
      { reader with
        buffer := copy reader.buffer 0 blockLen blockLen
        dataBegin := reader.dataBegin - blockLen
        dataEnd := reader.dataEnd - blockLen }
    match reader.reader with
    | none => reader
    | some byteSource =>
        let arrived := byteSource.take blockLen
        { reader with
          buffer := copy (store reader.buffer (2 * blockLen) arrived) blockLen (2 * blockLen) blockLen
          reader := some (byteSource.drop blockLen)
          dataEnd := reader.dataEnd + arrived.length }
  else reader

/-- The loop that looks for the end of a line, with the number of bytes left
before `data_end`. -/
def findLineEnd (buffer : Nat -> UInt8) : (left lineEnd : Nat) -> Nat
  | 0, lineEnd => lineEnd
  | left + 1, lineEnd => if buffer lineEnd ≠ newline then findLineEnd buffer left (lineEnd + 1) else lineEnd

/-- The NULs that end the line. -/
def terminate (buffer : Nat -> UInt8) (dataBegin lineEnd : Nat) : Nat -> UInt8 :=
  let buffer := Function.update buffer lineEnd 0
  if lineEnd ≠ dataBegin ∧ buffer (lineEnd - 1) = carriageReturn then Function.update buffer (lineEnd - 1) 0
  else buffer

/-- `next_line` from the scan on, with the C string at the returned pointer. -/
def cutLine : Except CsvError (Bytes × LineReader) :=
  let lineEnd := findLineEnd reader.buffer (reader.dataEnd - reader.dataBegin) reader.dataBegin
  if blockLen < lineEnd - reader.dataBegin + 1 then
    .error
      { kind := .lineLengthLimitExceeded
        fileName := reader.fileName
        fileLine := reader.fileLine.toInt32 }
  else
    let dataEnd :=
      if reader.buffer lineEnd = newline ∧ lineEnd ≠ reader.dataEnd then reader.dataEnd else reader.dataEnd + 1
    let buffer := terminate reader.buffer reader.dataBegin lineEnd
    .ok ((slice buffer reader.dataBegin (lineEnd + 1)).takeWhile (fun byte => byte ≠ 0),
      { reader with
        buffer := buffer
        dataBegin := lineEnd + 1
        dataEnd := dataEnd })

/-- `next_line`, with `none` for a null pointer. -/
def nextLine : Except CsvError (Option (Bytes × LineReader)) :=
  if reader.dataBegin = reader.dataEnd then .ok none
  else (cutLine (shift { reader with fileLine := reader.fileLine + 1 })).map some

end LineReader

/-! ## Lines of a file -/

/-- The bytes of a file without the mark at its start. -/
def withoutBom (file : Bytes) : Bytes :=
  if [0xEF, 0xBB, 0xBF].isPrefixOf file then file.drop 3 else file

/-- The first line of a file, without its line feed. -/
def firstLineOf (file : Bytes) : Bytes :=
  file.takeWhile (fun byte => byte ≠ newline)

/-- What follows the first line. -/
def afterFirstLine (file : Bytes) : Bytes :=
  (file.dropWhile (fun byte => byte ≠ newline)).tail

/-- The line without a carriage return at its end. -/
def withoutReturn (line : Bytes) : Bytes :=
  if line.getLast? = some carriageReturn then line.dropLast else line

/-- The C string that a line is read as. -/
def lineText (line : Bytes) : CText :=
  cStr (withoutReturn line)

/-! ## The window -/

theorem blockLen_pos : 0 < blockLen := by decide

/-- A mark of three bytes is a prefix if it stands in the first three places. -/
theorem isPrefixOf_three {first second third : UInt8} {file : Bytes} :
    [first, second, third].isPrefixOf file ↔
      file[0]? = some first ∧ file[1]? = some second ∧ file[2]? = some third := by
  rw [List.isPrefixOf_iff_prefix, List.prefix_iff_getElem?]
  constructor
  · intro places
    exact ⟨places 0 (show 0 < 3 by decide), places 1 (show 1 < 3 by decide), places 2 (show 2 < 3 by decide)⟩
  · rintro ⟨here, next, last⟩ i inside
    match i, inside with
    | 0, _ => exact here
    | 1, _ => exact next
    | 2, _ => exact last

namespace LineReader

variable {reader : LineReader} {rest : Bytes}

/-- What has not been read ahead. -/
def unread (reader : LineReader) : Bytes :=
  reader.reader.getD []

/-- The reader stands before the rest of the file.  While something is unread
the blocks are full, and the next line starts inside. -/
structure Fronts (reader : LineReader) (rest : Bytes) : Prop where
  ordered : reader.dataBegin ≤ reader.dataEnd
  bounded : reader.dataEnd ≤ 2 * blockLen
  full : reader.unread ≠ [] -> reader.dataEnd = 2 * blockLen ∧ reader.dataBegin < reader.dataEnd
  window : slice reader.buffer reader.dataBegin reader.dataEnd ++ reader.unread = rest

theorem Fronts.empty_iff (fronts : reader.Fronts rest) : rest = [] ↔ reader.dataBegin = reader.dataEnd := by
  constructor
  · intro empty
    have size := congrArg List.length (fronts.window.trans empty)
    rw [List.length_append, slice_length, List.length_nil] at size
    have ordered := fronts.ordered
    omega
  · intro same
    have read : reader.unread = [] := by
      by_contra some_unread
      exact absurd same (Nat.ne_of_lt (fronts.full some_unread).2)
    rw [← fronts.window, read, same, slice_self, List.append_nil]

section Init

variable (buffer : Nat -> UInt8) (fileName byteSource : Bytes)

theorem init_unread : (init buffer fileName byteSource).unread = byteSource.drop (2 * blockLen) := by
  have size : (byteSource.take (2 * blockLen)).length = min (2 * blockLen) byteSource.length := List.length_take
  change ((if (byteSource.take (2 * blockLen)).length = 2 * blockLen then some (byteSource.drop (2 * blockLen))
    else none).getD []) = _
  split
  · rfl
  · rw [List.drop_eq_nil_of_le (by omega)]
    rfl

/-- What has been read and what has not make up the file. -/
theorem init_whole :
    slice (init buffer fileName byteSource).buffer 0 (init buffer fileName byteSource).dataEnd ++
      (init buffer fileName byteSource).unread = byteSource := by
  have shown : slice (store buffer 0 (byteSource.take (2 * blockLen))) 0
      (0 + (byteSource.take (2 * blockLen)).length) = byteSource.take (2 * blockLen) := slice_store _ 0
  rw [Nat.zero_add] at shown
  rw [init_unread]
  change slice (store buffer 0 (byteSource.take (2 * blockLen))) 0 (byteSource.take (2 * blockLen)).length ++ _ = _
  rw [shown, List.take_append_drop]

theorem init_full (some_unread : (init buffer fileName byteSource).unread ≠ []) :
    (init buffer fileName byteSource).dataEnd = 2 * blockLen := by
  rw [init_unread] at some_unread
  have beyond := List.length_pos_iff.mpr some_unread
  rw [List.length_drop] at beyond
  exact List.length_take_of_le (by omega)

/-- The reader starts behind a mark. -/
theorem init_dataBegin :
    (init buffer fileName byteSource).dataBegin = if [0xEF, 0xBB, 0xBF].isPrefixOf byteSource then 3 else 0 := by
  let arrived := byteSource.take (2 * blockLen)
  let filled := store buffer 0 arrived
  have size : arrived.length = min (2 * blockLen) byteSource.length := List.length_take
  have large : 3 < 2 * blockLen := by decide
  have read : 3 ≤ arrived.length -> forall i, i < 3 -> byteSource[i]? = some (filled i) := by
    intro enough i inside
    have stored : arrived[i]? = some (filled (0 + i)) := store_getElem? (by omega) 0
    rwa [Nat.zero_add, List.getElem?_take_of_lt (by omega)] at stored
  have marked : (3 ≤ arrived.length ∧ filled 0 = 0xEF ∧ filled 1 = 0xBB ∧ filled 2 = 0xBF) ↔
      [0xEF, 0xBB, 0xBF].isPrefixOf byteSource := by
    rw [isPrefixOf_three]
    constructor
    · rintro ⟨enough, first, second, third⟩
      rw [read enough 0 (by decide), read enough 1 (by decide), read enough 2 (by decide), first, second, third]
      exact ⟨rfl, rfl, rfl⟩
    · rintro ⟨first, second, third⟩
      have inside := (List.getElem?_eq_some_iff.mp third).1
      have enough : 3 ≤ arrived.length := by omega
      rw [read enough 0 (by decide), Option.some.injEq] at first
      rw [read enough 1 (by decide), Option.some.injEq] at second
      rw [read enough 2 (by decide), Option.some.injEq] at third
      exact ⟨enough, first, second, third⟩
  change (if 3 ≤ arrived.length ∧ filled 0 = 0xEF ∧ filled 1 = 0xBB ∧ filled 2 = 0xBF then 3 else 0) = _
  by_cases mark : [0xEF, 0xBB, 0xBF].isPrefixOf byteSource
  · rw [if_pos mark, if_pos (marked.mpr mark)]
  · rw [if_neg mark, if_neg (fun found => mark (marked.mp found))]

/-- The first read shows the file behind its mark. -/
theorem init_fronts : (init buffer fileName byteSource).Fronts (withoutBom byteSource) := by
  have large : 3 < 2 * blockLen := by decide
  have start := init_dataBegin buffer fileName byteSource
  have whole := init_whole buffer fileName byteSource
  have full := init_full buffer fileName byteSource
  have bounded : (init buffer fileName byteSource).dataEnd ≤ 2 * blockLen := List.length_take_le _ _
  rw [withoutBom]
  by_cases mark : [0xEF, 0xBB, 0xBF].isPrefixOf byteSource
  · rw [if_pos mark] at start ⊢
    have inside : 0 + 3 ≤ (init buffer fileName byteSource).dataEnd := by
      have third := (List.getElem?_eq_some_iff.mp (isPrefixOf_three.mp mark).2.2).1
      change 3 ≤ (byteSource.take (2 * blockLen)).length
      rw [List.length_take]
      omega
    refine ⟨start ▸ inside, bounded, ?_, ?_⟩
    · intro some_unread
      exact ⟨full some_unread, by rw [start, full some_unread]; exact large⟩
    · rw [start, ← slice_drop inside, ← List.drop_append_of_le_length (by rw [slice_length]; exact inside), whole]
  · rw [if_neg mark] at start ⊢
    refine ⟨start ▸ Nat.zero_le _, bounded, ?_, ?_⟩
    · intro some_unread
      exact ⟨full some_unread, by rw [start, full some_unread]; omega⟩
    · rw [start]
      exact whole

end Init

section Shift

variable {buffer : Nat -> UInt8} {first last : Nat} {arrived : Bytes}

/-- The second block is shown in the place of the first. -/
theorem moved_shown (second : blockLen ≤ first) (inside : last ≤ 2 * blockLen) :
    slice (copy buffer 0 blockLen blockLen) (first - blockLen) (last - blockLen) = slice buffer first last := by
  refine slice_ext (by omega) ?_
  intro k below
  rw [copy, if_pos (by omega)]
  congr 1
  omega

/-- Behind a full second block what has been read ahead is shown. -/
theorem refilled_shown (second : blockLen ≤ first) (ordered : first ≤ last) (inside : last ≤ 2 * blockLen)
    (fits : arrived.length ≤ blockLen) (full : 0 < arrived.length -> last = 2 * blockLen) :
    slice (copy (store (copy buffer 0 blockLen blockLen) (2 * blockLen) arrived) blockLen (2 * blockLen) blockLen)
      (first - blockLen) (last - blockLen + arrived.length) = slice buffer first last ++ arrived := by
  let moved := copy buffer 0 blockLen blockLen
  let refilled := copy (store moved (2 * blockLen) arrived) blockLen (2 * blockLen) blockLen
  have kept : slice refilled (first - blockLen) (last - blockLen) = slice moved (first - blockLen) (last - blockLen) := by
    apply slice_congr
    intro i _ below
    have front : ¬ (blockLen ≤ i ∧ i < blockLen + blockLen) := by omega
    have read : i < 2 * blockLen := by omega
    exact (copy_outside front).trans (store_before read arrived)
  have added : slice refilled (last - blockLen) (last - blockLen + arrived.length) = arrived := by
    rcases Nat.eq_zero_or_pos arrived.length with none_arrived | arrived_some
    · rw [none_arrived, Nat.add_zero, slice_self, List.length_eq_zero_iff.mp none_arrived]
    · have start : last - blockLen = blockLen + 0 := by
        have whole := full arrived_some
        omega
      rw [start]
      change slice (copy (store moved (2 * blockLen) arrived) blockLen (2 * blockLen) blockLen) _ _ = _
      rw [slice_copy (by omega), Nat.add_zero, slice_store]
  change slice refilled (first - blockLen) (last - blockLen + arrived.length) = _
  rw [← slice_append (show first - blockLen ≤ last - blockLen by omega) (Nat.le_add_right _ _), kept, added,
    moved_shown second inside]

/-- Where there is a line, the move to the next block leaves the reader in front
of it, with the start of the line in the first block. -/
theorem shift_fronts (fronts : reader.Fronts rest) (some_rest : rest ≠ []) :
    reader.shift.Fronts rest ∧ reader.shift.dataBegin < blockLen ∧ reader.shift.fileName = reader.fileName ∧
      reader.shift.fileLine = reader.fileLine := by
  have positive := blockLen_pos
  have below : reader.dataBegin < reader.dataEnd :=
    Nat.lt_of_le_of_ne fronts.ordered (fun same => some_rest (fronts.empty_iff.mpr same))
  have bounded := fronts.bounded
  unfold shift
  by_cases second : blockLen ≤ reader.dataBegin
  · rw [if_pos second]
    cases more : reader.reader with
    | none =>
        have window := fronts.window
        have nothing : reader.unread = [] := by rw [unread, more]; rfl
        rw [nothing] at window
        refine ⟨⟨by change _ - _ ≤ _ - _; omega, by change _ - _ ≤ _; omega, ?_, ?_⟩,
          by change _ - _ < _; omega, rfl, rfl⟩
        · exact fun some_unread => absurd rfl some_unread
        · change slice (copy reader.buffer 0 blockLen blockLen) _ _ ++ [] = rest
          rw [moved_shown second bounded, window]
    | some byteSource =>
        have window := fronts.window
        have full := fronts.full
        have source : reader.unread = byteSource := by rw [unread, more]; rfl
        rw [source] at window full
        let arrived := byteSource.take blockLen
        have size : arrived.length = min blockLen byteSource.length := List.length_take
        have some_arrived : 0 < arrived.length -> reader.dataEnd = 2 * blockLen := by
          intro arrived_some
          exact (full (List.length_pos_iff.mp (by omega))).1
        refine ⟨⟨by change _ - _ ≤ _ - _ + _; omega, ?_, ?_, ?_⟩, by change _ - _ < _; omega, rfl, rfl⟩
        · change reader.dataEnd - blockLen + arrived.length ≤ 2 * blockLen
          omega
        · intro some_unread
          have beyond := List.length_pos_iff.mpr some_unread
          change 0 < (byteSource.drop blockLen).length at beyond
          rw [List.length_drop] at beyond
          have whole := some_arrived (by omega)
          change reader.dataEnd - blockLen + arrived.length = 2 * blockLen ∧
            reader.dataBegin - blockLen < reader.dataEnd - blockLen + arrived.length
          omega
        · change slice (copy (store (copy reader.buffer 0 blockLen blockLen) (2 * blockLen) arrived) blockLen
            (2 * blockLen) blockLen) _ (reader.dataEnd - blockLen + arrived.length) ++ byteSource.drop blockLen = rest
          rw [refilled_shown second fronts.ordered bounded (by omega) some_arrived, List.append_assoc,
            List.take_append_drop, window]
  · rw [if_neg second]
    exact ⟨fronts, Nat.lt_of_not_le second, rfl, rfl⟩

end Shift

/-- The scan stops at the first line feed that is shown. -/
theorem findLineEnd_eq (buffer : Nat -> UInt8) (left first : Nat) :
    findLineEnd buffer left first =
      first + (firstLineOf (slice buffer first (first + left))).length := by
  induction left generalizing first with
  | zero => rw [findLineEnd, Nat.add_zero, slice_self]; rfl
  | succ left ih =>
      have next : first + (left + 1) = first + 1 + left := by omega
      rw [findLineEnd, slice_cons (by omega), firstLineOf, List.takeWhile_cons]
      by_cases other : buffer first ≠ newline
      · rw [if_pos other, if_pos (decide_eq_true other), ih, next, firstLineOf, List.length_cons]
        omega
      · rw [if_neg other, if_neg (by simpa using other)]
        rfl

/-- From the first block on, a line that is shorter than a block is shown whole,
and of a longer one at least a block is shown. -/
theorem Fronts.line_shown (fronts : reader.Fronts rest) (start : reader.dataBegin < blockLen) :
    ((firstLineOf rest).length < blockLen ->
      firstLineOf (slice reader.buffer reader.dataBegin reader.dataEnd) = firstLineOf rest) ∧
    (blockLen ≤ (firstLineOf rest).length ->
      blockLen ≤ (firstLineOf (slice reader.buffer reader.dataBegin reader.dataEnd)).length) := by
  let shown := slice reader.buffer reader.dataBegin reader.dataEnd
  have size : shown.length = reader.dataEnd - reader.dataBegin := slice_length
  have split : firstLineOf rest =
      if (firstLineOf shown).length = shown.length then shown ++ firstLineOf reader.unread else firstLineOf shown := by
    rw [← fronts.window]
    exact List.takeWhile_append
  change ((firstLineOf rest).length < blockLen -> firstLineOf shown = firstLineOf rest) ∧
    (blockLen ≤ (firstLineOf rest).length -> blockLen ≤ (firstLineOf shown).length)
  by_cases whole : (firstLineOf shown).length = shown.length
  · rw [if_pos whole] at split
    have same : firstLineOf shown = shown := (List.takeWhile_prefix _).eq_of_length whole
    by_cases read : reader.unread = []
    · rw [read] at split
      have line : firstLineOf rest = shown := split.trans (List.append_nil shown)
      rw [line, same]
      exact ⟨fun _ => rfl, id⟩
    · rcases fronts.full read with ⟨full, -⟩
      rw [split, List.length_append]
      constructor
      · intro short
        omega
      · intro _
        omega
  · rw [if_neg whole] at split
    rw [split]
    exact ⟨fun _ => rfl, id⟩

/-- With the NULs that are written behind it, a line is read as its text. -/
theorem terminate_line {buffer : Nat -> UInt8} {first : Nat} {line : Bytes}
    (shown : slice buffer first (first + line.length) = line) :
    (slice (terminate buffer first (first + line.length)) first (first + line.length + 1)).takeWhile
      (fun byte => byte ≠ 0) = (lineText line).text := by
  let ended := Function.update buffer (first + line.length) 0
  -- The NUL that is always written stands behind the line.
  have closed : slice ended first (first + line.length + 1) = line ++ [0] := by
    rw [slice_succ (Nat.le_add_right _ _), slice_update (Or.inr (Nat.le_refl _)), shown]
    exact congrArg (fun byte => line ++ [byte]) (Function.update_self _ _ _)
  rcases List.eq_nil_or_concat line with empty | ⟨body, byte, ends⟩
  · subst empty
    have kept : terminate buffer first (first + 0) = ended := if_neg (fun both => both.1 rfl)
    rw [List.length_nil, kept]
    change List.takeWhile _ (slice ended first (first + ([] : Bytes).length + 1)) = _
    rw [closed, takeWhile_ne_append_cons]
    rfl
  · rw [List.concat_eq_append] at ends
    have size : line.length = body.length + 1 := by rw [ends, List.length_append, List.length_singleton]
    have last : first + line.length - 1 = first + body.length := by omega
    have parts : slice ended first (first + body.length) = body ∧ ended (first + body.length) = byte := by
      have split : slice ended first (first + body.length) ++ [ended (first + body.length)] = body ++ [byte] := by
        rw [← slice_succ (Nat.le_add_right _ _), Nat.add_assoc, ← size, slice_update (Or.inr (Nat.le_refl _)), shown,
          ends]
      rcases List.append_inj' split rfl with ⟨front, back⟩
      exact ⟨front, List.singleton_inj.mp back⟩
    have filled : first + line.length ≠ first := by omega
    have text : (lineText line).text =
        (if byte = carriageReturn then body else line).takeWhile (fun byte => byte ≠ 0) := by
      have tail : line.getLast? = some byte := by rw [ends, List.getLast?_concat]
      have front : line.dropLast = body := by rw [ends, List.dropLast_concat]
      simp only [lineText, withoutReturn, tail, front, Option.some.injEq]
      rfl
    rw [text]
    by_cases returned : byte = carriageReturn
    · have stored : terminate buffer first (first + line.length) = Function.update ended (first + body.length) 0 := by
        rw [terminate, last]
        exact if_pos ⟨filled, parts.2.trans returned⟩
      have behind : ended (first + line.length) = 0 := Function.update_self _ _ _
      have chopped : slice (Function.update ended (first + body.length) 0) first (first + line.length + 1) =
          body ++ 0 :: [0] := by
        rw [slice_succ (by omega), Function.update_of_ne (by omega), behind, size, ← Nat.add_assoc,
          slice_succ (Nat.le_add_right _ _), slice_update (Or.inr (Nat.le_refl _)), parts.1, Function.update_self,
          List.append_assoc]
        rfl
      rw [stored, chopped, takeWhile_ne_append_cons, if_pos returned]
    · have kept : terminate buffer first (first + line.length) = ended := by
        rw [terminate, last]
        exact if_neg (fun both => returned (parts.2.symm.trans both.2))
      rw [kept, closed, takeWhile_ne_append_cons, if_neg returned]

/-- A line as long as a block is refused. -/
theorem cutLine_long (fronts : reader.Fronts rest) (start : reader.dataBegin < blockLen)
    (long : blockLen ≤ (firstLineOf rest).length) :
    reader.cutLine = .error
      { kind := .lineLengthLimitExceeded
        fileName := reader.fileName
        fileLine := reader.fileLine.toInt32 } := by
  have shown := (fronts.line_shown start).2 long
  have stop := findLineEnd_eq reader.buffer (reader.dataEnd - reader.dataBegin) reader.dataBegin
  rw [Nat.add_sub_cancel' fronts.ordered] at stop
  exact if_pos (by omega)

/-- A shorter line is taken off the file and handed out as its text. -/
theorem cutLine_line (fronts : reader.Fronts rest) (start : reader.dataBegin < blockLen)
    (short : (firstLineOf rest).length < blockLen) :
    exists after, reader.cutLine = .ok ((lineText (firstLineOf rest)).text, after) ∧
      after.Fronts (afterFirstLine rest) ∧ after.fileName = reader.fileName ∧ after.fileLine = reader.fileLine := by
  have positive := blockLen_pos
  have ordered := fronts.ordered
  have line := (fronts.line_shown start).1 short
  let shown := slice reader.buffer reader.dataBegin reader.dataEnd
  let lineEnd := reader.dataBegin + (firstLineOf rest).length
  have stop : findLineEnd reader.buffer (reader.dataEnd - reader.dataBegin) reader.dataBegin = lineEnd := by
    rw [findLineEnd_eq, Nat.add_sub_cancel' ordered, line]
  have inside : lineEnd ≤ reader.dataEnd := by
    have size : (firstLineOf shown).length ≤ shown.length := (List.takeWhile_prefix _).length_le
    rw [line, slice_length] at size
    omega
  -- The blocks show the line, and behind it what is left of them.
  have parts : slice reader.buffer reader.dataBegin lineEnd = firstLineOf rest ∧
      slice reader.buffer lineEnd reader.dataEnd = shown.dropWhile (fun byte => byte ≠ newline) := by
    have whole : firstLineOf shown ++ shown.dropWhile (fun byte => byte ≠ newline) = shown :=
      List.takeWhile_append_dropWhile
    rw [line] at whole
    refine List.append_inj ((slice_append (Nat.le_add_right _ _) inside).trans whole.symm) ?_
    rw [slice_length]
    omega
  have remaining : rest.dropWhile (fun byte => byte ≠ newline) =
      slice reader.buffer lineEnd reader.dataEnd ++ reader.unread := by
    have whole : firstLineOf rest ++ rest.dropWhile (fun byte => byte ≠ newline) = rest :=
      List.takeWhile_append_dropWhile
    have shown_rest : firstLineOf rest ++ (slice reader.buffer lineEnd reader.dataEnd ++ reader.unread) = rest := by
      rw [← List.append_assoc, ← parts.1, slice_append (Nat.le_add_right _ _) inside, fronts.window]
    exact List.append_cancel_left (whole.trans shown_rest.symm)
  have behind : forall last, slice (terminate reader.buffer reader.dataBegin lineEnd) (lineEnd + 1) last =
      slice reader.buffer (lineEnd + 1) last := by
    intro last
    simp only [terminate]
    split
    · rw [slice_update (Or.inl (by omega)), slice_update (Or.inl (Nat.lt_succ_self _))]
    · rw [slice_update (Or.inl (Nat.lt_succ_self _))]
  have text := terminate_line parts.1
  unfold cutLine
  rw [stop]
  dsimp only
  rw [if_neg (by omega), text]
  refine ⟨_, rfl, ?_, rfl, rfl⟩
  rcases Nat.lt_or_eq_of_le inside with before | atEnd
  · have cut : slice reader.buffer lineEnd reader.dataEnd =
        reader.buffer lineEnd :: slice reader.buffer (lineEnd + 1) reader.dataEnd := slice_cons before
    have stopped : reader.buffer lineEnd = newline :=
      eq_of_dropWhile_ne (remaining.trans (congrArg (fun shown => shown ++ reader.unread) cut))
    rw [if_pos ⟨stopped, Nat.ne_of_lt before⟩]
    refine ⟨before, fronts.bounded, ?_, ?_⟩
    · intro some_unread
      have full := (fronts.full some_unread).1
      exact ⟨full, by change lineEnd + 1 < reader.dataEnd; omega⟩
    · change slice (terminate reader.buffer reader.dataBegin lineEnd) (lineEnd + 1) reader.dataEnd ++ reader.unread = _
      rw [behind, afterFirstLine, remaining, cut]
      rfl
  · have read : reader.unread = [] := by
      by_contra some_unread
      have full := (fronts.full some_unread).1
      omega
    have changed : ¬ (reader.buffer lineEnd = newline ∧ lineEnd ≠ reader.dataEnd) := fun both => both.2 atEnd
    rw [if_neg changed]
    refine ⟨by change lineEnd + 1 ≤ reader.dataEnd + 1; omega, by change reader.dataEnd + 1 ≤ 2 * blockLen; omega,
      fun some_unread => absurd read some_unread, ?_⟩
    change slice (terminate reader.buffer reader.dataBegin lineEnd) (lineEnd + 1) (reader.dataEnd + 1) ++
      reader.unread = _
    rw [atEnd, slice_self, afterFirstLine, remaining, atEnd, slice_self, read]
    rfl

/-- What a call of `next_line` does to the rest of the file. -/
theorem nextLine_cases (fronts : reader.Fronts rest) :
    (rest = [] ∧ reader.nextLine = .ok none) ∨
    (rest ≠ [] ∧ blockLen ≤ (firstLineOf rest).length ∧
      reader.nextLine = .error
        { kind := .lineLengthLimitExceeded
          fileName := reader.fileName
          fileLine := (reader.fileLine + 1).toInt32 }) ∨
    (rest ≠ [] ∧ (firstLineOf rest).length < blockLen ∧
      exists after, reader.nextLine = .ok (some ((lineText (firstLineOf rest)).text, after)) ∧
        after.Fronts (afterFirstLine rest) ∧ after.fileName = reader.fileName ∧
        after.fileLine = reader.fileLine + 1) := by
  by_cases empty : rest = []
  · exact Or.inl ⟨empty, if_pos (fronts.empty_iff.mp empty)⟩
  · have other : ¬ reader.dataBegin = reader.dataEnd := fun same => empty (fronts.empty_iff.mpr same)
    let counted : LineReader := { reader with fileLine := reader.fileLine + 1 }
    have counted_fronts : counted.Fronts rest := ⟨fronts.ordered, fronts.bounded, fronts.full, fronts.window⟩
    rcases shift_fronts counted_fronts empty with ⟨shifted, start, fileName, fileLine⟩
    have called : reader.nextLine = counted.shift.cutLine.map some := if_neg other
    rcases Nat.lt_or_ge (firstLineOf rest).length blockLen with short | long
    · rcases cutLine_line shifted start short with ⟨after, cut, next, sameName, sameLine⟩
      refine Or.inr (Or.inr ⟨empty, short, after, ?_, next, sameName.trans fileName, sameLine.trans fileLine⟩)
      rw [called, cut]
      rfl
    · refine Or.inr (Or.inl ⟨empty, long, ?_⟩)
      rw [called, cutLine_long shifted start long, fileName, fileLine]
      rfl

end LineReader

end Csv
end MotionDetectAlarm
