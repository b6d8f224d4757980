import MotionDetectAlarm.Csv.Reader

namespace MotionDetectAlarm
namespace Csv

open Foundation

/-!
# Quoted columns

How a line is cut into columns is a policy of the reader.  With
`no_quote_escape` a column ends at the next separator.  With
`double_quote_escape` a separator between quotes belongs to the column, and a
column that begins and ends with a quote stands for what is between them, a
quote doubled.

Whatever the fields hold, a line of quoted fields is cut back into them.  On a
line without a quote the two policies agree.
-/

variable {columnCount : Nat}

/-! ## Policies -/

/-- The exceptions of `parse_line`. -/
inductive LineError where
  | escapedStringNotClosed
  | tooFewColumns
  | tooManyColumns
  deriving DecidableEq, Repr

/-- The number of bytes of the next column, and what its text stands for. -/
structure QuotePolicy where
  findNextColumnEnd : Bytes -> Except LineError Nat
  unescape : Bytes -> Bytes

/-- `no_quote_escape`. -/
def noQuoteEscape (sep : UInt8) : QuotePolicy where
  findNextColumnEnd := fun line => .ok (line.takeWhile (fun byte => byte ≠ sep)).length
  unescape := id

/-- Where the search for the end of a column is: outside of quotes, between two,
or behind a closing one. -/
inductive Scan where
  | outside
  | inside
  | closed
  deriving DecidableEq, Repr

/-- `find_next_column_end` with quotes.  A quote behind a closing one goes on with
the inner loop, before anything is compared with the separator. -/
def columnEnd (sep quote : UInt8) : Scan -> Bytes -> Except LineError Nat
  | .inside, [] => .error .escapedStringNotClosed
  | .outside, [] => .ok 0
  | .closed, [] => .ok 0
  | .inside, byte :: rest =>
      (columnEnd sep quote (if byte ≠ quote then .inside else .closed) rest).map (fun size => size + 1)
  | .outside, byte :: rest =>
      if byte = sep then .ok 0
      else (columnEnd sep quote (if byte ≠ quote then .outside else .inside) rest).map (fun size => size + 1)
  | .closed, byte :: rest =>
      if byte = quote then (columnEnd sep quote .inside rest).map (fun size => size + 1)
      else if byte = sep then .ok 0
      else (columnEnd sep quote .outside rest).map (fun size => size + 1)

/-- The loop of `unescape`, which keeps one quote of two. -/
def undouble (quote : UInt8) : Bytes -> Bytes
  | [] => []
  | [byte] => [byte]
  | byte :: next :: rest =>
      if byte = quote ∧ next = quote then quote :: undouble quote rest else byte :: undouble quote (next :: rest)

/-- `unescape`. -/
def unescapeQuotes (quote : UInt8) (column : Bytes) : Bytes :=
  if 2 ≤ column.length ∧ column.head? = some quote ∧ column.getLast? = some quote then
    undouble quote column.tail.dropLast
  else column

/-- `double_quote_escape`. -/
def doubleQuoteEscape (sep quote : UInt8) : QuotePolicy where
  findNextColumnEnd := columnEnd sep quote .outside
  unescape := unescapeQuotes quote

namespace QuotePolicy

variable (policy : QuotePolicy)

/-- `chop_next_column`. -/
def chop (line : Bytes) : Except LineError (Bytes × Option Bytes) :=
  match policy.findNextColumnEnd line with
  | .error err => .error err
  | .ok size =>
      .ok (line.take size,
        match line.drop size with
        | [] => none
        | _ :: rest => some rest)

/-- `parse_line`. -/
def parseLine : (colOrder : List (Option (Fin columnCount))) -> (line : Option Bytes) ->
    (sortedCol : Vector (Option Bytes) columnCount) -> Except LineError (Vector (Option Bytes) columnCount)
  | [], none, sortedCol => .ok sortedCol
  | [], some _, _ => .error .tooManyColumns
  | _ :: _, none, _ => .error .tooFewColumns
  | i :: colOrder, some line, sortedCol =>
      match policy.chop line with
      | .error err => .error err
      | .ok (column, rest) =>
          parseLine colOrder rest
            (i.elim sortedCol (fun i => sortedCol.set i (some (policy.unescape (trim column))) i.isLt))

end QuotePolicy

/-! ## Cutting a line -/

section Cutting

variable {policy : QuotePolicy}

/-- The columns that a line is cut into. -/
inductive Columns (policy : QuotePolicy) : Option Bytes -> List Bytes -> Prop
  | nil : Columns policy none []
  | cons {line column : Bytes} {rest : Option Bytes} {columns : List Bytes} :
      policy.chop line = .ok (column, rest) -> Columns policy rest columns ->
      Columns policy (some line) (column :: columns)

/-- A row with the columns put in under their entries of an order. -/
def put (policy : QuotePolicy) (colOrder : List (Option (Fin columnCount))) (columns : List Bytes)
    (sortedCol : Vector (Option Bytes) columnCount) : Vector (Option Bytes) columnCount :=
  (colOrder.zip columns).foldl (fun sortedCol entry =>
    entry.1.elim sortedCol (fun i => sortedCol.set i (some (policy.unescape (trim entry.2))) i.isLt)) sortedCol

/-- A line of as many columns as the order has entries fills a row. -/
theorem parseLine_of_columns {line : Option Bytes} {columns : List Bytes} (cut : Columns policy line columns)
    {colOrder : List (Option (Fin columnCount))} (wide : colOrder.length = columns.length)
    (sortedCol : Vector (Option Bytes) columnCount) :
    policy.parseLine colOrder line sortedCol = .ok (put policy colOrder columns sortedCol) := by
  induction cut generalizing colOrder sortedCol with
  | nil =>
      cases colOrder with
      | nil => rfl
      | cons i colOrder => cases wide
  | cons chopped _ ih =>
      cases colOrder with
      | nil => cases wide
      | cons i colOrder =>
          rw [QuotePolicy.parseLine, chopped]
          exact ih (Nat.succ.inj wide) _

/-- In an order without repetition every entry has its column. -/
theorem put_get {indices : List (Fin columnCount)} (different : indices.Nodup) {columns : List Bytes}
    (wide : columns.length = indices.length) (sortedCol : Vector (Option Bytes) columnCount) (r : Fin columnCount) :
    (put policy (indices.map some) columns sortedCol).get r =
      ((indices.zip columns).lookup r).elim (sortedCol.get r) (fun column => some (policy.unescape (trim column))) := by
  have cell : forall (entries : List (Fin columnCount × Bytes)) (sortedCol : Vector (Option Bytes) columnCount),
      (entries.foldl (fun sortedCol entry => sortedCol.set entry.1 (some (policy.unescape (trim entry.2))))
        sortedCol).get r =
        entries.foldl (fun cell entry => if r = entry.1 then some (policy.unescape (trim entry.2)) else cell)
          (sortedCol.get r) := by
    intro entries
    induction entries with
    | nil => exact fun _ => rfl
    | cons entry rest ih =>
        intro sortedCol
        rw [List.foldl_cons, ih, List.foldl_cons]
        apply congrArg (fun first => List.foldl _ first rest)
        by_cases same : r = entry.1
        · rw [if_pos same, same]
          exact Vector.getElem_set_self _
        · rw [if_neg same]
          exact Vector.getElem_set_ne _ _ (fun equal => same (Fin.ext equal.symm))
  have keys : (indices.zip columns).map Prod.fst = indices := List.map_fst_zip (Nat.le_of_eq wide.symm)
  have ordered : put policy (indices.map some) columns sortedCol =
      (indices.zip columns).foldl
        (fun sortedCol entry => sortedCol.set entry.1 (some (policy.unescape (trim entry.2)))) sortedCol := by
    rw [put, List.zip_map_left, List.foldl_map]
    rfl
  rw [ordered, cell]
  apply foldl_lookup (fun column _ => some (policy.unescape (trim column)))
  rwa [keys]

end Cutting

/-! ## Quoting -/

section Quoting

variable {sep quote : UInt8}

/-- A field with its quotes doubled. -/
def doubled (quote : UInt8) (field : Bytes) : Bytes :=
  field.flatMap (fun byte => if byte = quote then [quote, quote] else [byte])

/-- A field between quotes. -/
def quoted (quote : UInt8) (field : Bytes) : Bytes :=
  quote :: (doubled quote field ++ [quote])

theorem doubled_cons (byte : UInt8) (field : Bytes) :
    doubled quote (byte :: field) = (if byte = quote then [quote, quote] else [byte]) ++ doubled quote field := rfl

theorem undouble_doubled (field : Bytes) : undouble quote (doubled quote field) = field := by
  induction field with
  | nil => rfl
  | cons byte field ih =>
      rw [doubled_cons]
      by_cases same : byte = quote
      · rw [if_pos same, same]
        change undouble quote (quote :: quote :: doubled quote field) = quote :: field
        rw [undouble, if_pos ⟨rfl, rfl⟩, ih]
      · rw [if_neg same, List.singleton_append]
        cases later : doubled quote field with
        | nil =>
            rw [later] at ih
            rw [← ih]
            rfl
        | cons next rest =>
            rw [undouble, if_neg (fun both => same both.1), ← later, ih]

theorem unescape_quoted (field : Bytes) : unescapeQuotes quote (quoted quote field) = field := by
  have long : 2 ≤ (quoted quote field).length := by
    rw [quoted, List.length_cons, List.length_append, List.length_singleton]
    omega
  have last : (quoted quote field).getLast? = some quote := by
    rw [quoted, ← List.cons_append, List.getLast?_concat]
  rw [unescapeQuotes, if_pos ⟨long, rfl, last⟩]
  change undouble quote (doubled quote field ++ [quote]).dropLast = field
  rw [List.dropLast_concat, undouble_doubled]

theorem trim_quoted (visible : isTrimChar quote = false) (field : Bytes) : trim (quoted quote field) = quoted quote field := by
  have front : (quoted quote field).dropWhile isTrimChar = quoted quote field :=
    List.dropWhile_cons_of_neg (by rw [visible]; decide)
  rw [trim, front, quoted, ← List.cons_append]
  exact List.rdropWhile_concat_neg _ _ _ (by rw [visible]; decide)

/-- What can stand behind a column: nothing, or the separator. -/
def EndsAt (sep : UInt8) (behind : Bytes) : Prop :=
  behind = [] ∨ behind.head? = some sep

/-- Between the quotes the search passes the field, whatever it holds. -/
theorem columnEnd_inside (different : sep ≠ quote) (field : Bytes) {behind : Bytes} (ends : EndsAt sep behind) :
    columnEnd sep quote .inside (doubled quote field ++ quote :: behind) = .ok ((doubled quote field).length + 1) := by
  induction field with
  | nil =>
      have closing : columnEnd sep quote .closed behind = .ok 0 := by
        cases behind with
        | nil => rfl
        | cons byte rest =>
            rcases ends with nothing | separator
            · cases nothing
            · cases separator
              rw [columnEnd, if_neg different, if_pos rfl]
      change (columnEnd sep quote (if quote ≠ quote then .inside else .closed) behind).map _ = _
      rw [if_neg (not_not.mpr rfl), closing]
      rfl
  | cons byte field ih =>
      rw [doubled_cons]
      by_cases same : byte = quote
      · rw [if_pos same]
        change (columnEnd sep quote (if quote ≠ quote then .inside else .closed)
          (quote :: (doubled quote field ++ quote :: behind))).map _ = _
        rw [if_neg (not_not.mpr rfl), columnEnd, if_pos rfl, ih]
        rfl
      · rw [if_neg same]
        change (columnEnd sep quote (if byte ≠ quote then .inside else .closed)
          (doubled quote field ++ quote :: behind)).map _ = _
        rw [if_pos same, ih]
        rfl

/-- A quoted field is the next column. -/
theorem columnEnd_quoted (different : sep ≠ quote) (field : Bytes) {behind : Bytes} (ends : EndsAt sep behind) :
    columnEnd sep quote .outside (quoted quote field ++ behind) = .ok (quoted quote field).length := by
  have text : quoted quote field ++ behind = quote :: (doubled quote field ++ quote :: behind) := by
    rw [quoted, List.cons_append, List.append_assoc, List.singleton_append]
  rw [text, columnEnd, if_neg (Ne.symm different), if_neg (not_not.mpr rfl), columnEnd_inside different field ends]
  change Except.ok ((doubled quote field).length + 1 + 1) = _
  rw [quoted, List.length_cons, List.length_append, List.length_singleton]

theorem chop_quoted (different : sep ≠ quote) (field : Bytes) :
    (doubleQuoteEscape sep quote).chop (quoted quote field) = .ok (quoted quote field, none) := by
  have found : columnEnd sep quote .outside (quoted quote field) = .ok (quoted quote field).length := by
    have whole := columnEnd_quoted different field (Or.inl rfl : EndsAt sep [])
    rwa [List.append_nil] at whole
  simp only [QuotePolicy.chop, doubleQuoteEscape, found, List.take_length, List.drop_length]

theorem chop_quoted_sep (different : sep ≠ quote) (field rest : Bytes) :
    (doubleQuoteEscape sep quote).chop (quoted quote field ++ sep :: rest) = .ok (quoted quote field, some rest) := by
  have found := columnEnd_quoted different field (Or.inr rfl : EndsAt sep (sep :: rest))
  simp only [QuotePolicy.chop, doubleQuoteEscape, found, List.take_left, List.drop_left]

/-- A line of quoted fields is cut into them. -/
theorem columns_quoted (different : sep ≠ quote) {fields : List Bytes} (some_field : fields ≠ []) :
    Columns (doubleQuoteEscape sep quote) (some ([sep].intercalate (fields.map (quoted quote))))
      (fields.map (quoted quote)) := by
  induction fields with
  | nil => exact absurd rfl some_field
  | cons field fields ih =>
      cases fields with
      | nil =>
          apply Columns.cons _ Columns.nil
          rw [List.map_singleton, List.intercalate_singleton]
          exact chop_quoted different field
      | cons next fields =>
          apply Columns.cons _ (ih (List.cons_ne_nil _ _))
          have text : [sep].intercalate ((field :: next :: fields).map (quoted quote)) =
              quoted quote field ++ sep :: [sep].intercalate ((next :: fields).map (quoted quote)) := by
            rw [List.map_cons, List.map_cons, List.intercalate_cons_cons, ← List.map_cons, List.append_assoc,
              List.singleton_append]
          rw [text]
          exact chop_quoted_sep different field _

/-- Quoted fields are read back whatever they hold: separators, quotes, and blanks
at their ends. -/
theorem quoted_line_read_back (different : sep ≠ quote) (visible : isTrimChar quote = false) {fields : List Bytes}
    (some_field : fields ≠ []) {indices : List (Fin columnCount)} (unrepeated : indices.Nodup)
    (wide : fields.length = indices.length) (sortedCol : Vector (Option Bytes) columnCount) :
    exists row, (doubleQuoteEscape sep quote).parseLine (indices.map some)
        (some ([sep].intercalate (fields.map (quoted quote)))) sortedCol = .ok row ∧
      forall r, row.get r = ((indices.zip fields).lookup r).elim (sortedCol.get r) some := by
  have size : (indices.map some).length = (fields.map (quoted quote)).length := by
    rw [List.length_map, List.length_map, wide]
  refine ⟨_, parseLine_of_columns (columns_quoted different some_field) size sortedCol, ?_⟩
  intro r
  have read : forall field, unescapeQuotes quote (trim (quoted quote field)) = field := by
    intro field
    rw [trim_quoted visible, unescape_quoted]
  rw [put_get unrepeated (by rw [List.length_map]; exact wide), List.zip_map_right, lookup_map_snd]
  cases (indices.zip fields).lookup r with
  | none => rfl
  | some field => exact congrArg some (read field)

theorem separators_read_back : exists row : Vector (Option Bytes) 2,
    (doubleQuoteEscape comma 0x22).parseLine ([1, 0].map some)
        (some ([comma].intercalate ([ascii " a,b ", [0x22]].map (quoted 0x22)))) (Vector.replicate 2 none) = .ok row ∧
      forall r, row.get r = (([1, 0].zip [ascii " a,b ", [0x22]]).lookup r).elim
        ((Vector.replicate 2 none : Vector (Option Bytes) 2).get r) some :=
  quoted_line_read_back (by decide) (by decide) (List.cons_ne_nil _ _) (by decide) rfl _

end Quoting

/-! ## Lines without a quote -/

section Unquoted

variable {sep quote : UInt8}

/-- Without a quote the search stops at the next separator. -/
theorem columnEnd_unquoted {line : Bytes} (clean : quote ∉ line) :
    columnEnd sep quote .outside line = (noQuoteEscape sep).findNextColumnEnd line := by
  induction line with
  | nil => rfl
  | cons byte rest ih =>
      have other : byte ≠ quote := fun same => clean (same ▸ List.mem_cons_self)
      have later := ih (fun member => clean (List.mem_cons_of_mem _ member))
      rw [columnEnd, if_pos other, later]
      by_cases ended : byte = sep
      · rw [if_pos ended, ended]
        apply congrArg Except.ok
        simp
      · have taken : (byte :: rest).takeWhile (fun byte => byte ≠ sep) = byte :: rest.takeWhile (fun byte => byte ≠ sep) :=
          List.takeWhile_cons_of_pos (decide_eq_true ended)
        rw [if_neg ended]
        apply congrArg Except.ok
        rw [taken]
        rfl

theorem unescapeQuotes_unquoted {column : Bytes} (clean : quote ∉ column) : unescapeQuotes quote column = column := by
  apply if_neg
  rintro ⟨-, first, -⟩
  exact clean (List.mem_of_head? first)

theorem mem_of_mem_trim {byte : UInt8} {column : Bytes} (member : byte ∈ trim column) : byte ∈ column :=
  List.dropWhile_subset _ (List.rdropWhile_prefix _ _ |>.subset member)

theorem chop_unquoted {line : Bytes} (clean : quote ∉ line) :
    (doubleQuoteEscape sep quote).chop line = (noQuoteEscape sep).chop line := by
  have same : (doubleQuoteEscape sep quote).findNextColumnEnd line = (noQuoteEscape sep).findNextColumnEnd line :=
    columnEnd_unquoted clean
  rw [QuotePolicy.chop, QuotePolicy.chop, same]

/-- The plain policy cuts as `chop_next_column` does without one. -/
theorem chop_noQuoteEscape (line : Bytes) : (noQuoteEscape comma).chop line = .ok (chopNextColumn line) := by
  have whole : line.takeWhile (fun byte => byte ≠ comma) ++ line.dropWhile (fun byte => byte ≠ comma) = line :=
    List.takeWhile_append_dropWhile
  have front : line.take (line.takeWhile (fun byte => byte ≠ comma)).length = line.takeWhile (fun byte => byte ≠ comma) := by
    conv_lhs => rw [← whole]
    exact List.take_left' (by rw [whole])
  have back : line.drop (line.takeWhile (fun byte => byte ≠ comma)).length = line.dropWhile (fun byte => byte ≠ comma) := by
    conv_lhs => rw [← whole]
    exact List.drop_left' (by rw [whole])
  change Except.ok (line.take (line.takeWhile (fun byte => byte ≠ comma)).length,
    match line.drop (line.takeWhile (fun byte => byte ≠ comma)).length with
    | [] => none
    | _ :: rest => some rest) = _
  rw [front, back]
  rfl

/-- The exception of `parse_line` as the reader without quotes has it. -/
def LineError.of (err : CsvError) : LineError :=
  if err.kind = .tooFewColumns then .tooFewColumns else .tooManyColumns

/-- Where no quote stands in a line, the policy for quotes gives what the reader
without them gives. -/
theorem unquoted_line_agrees {line : Option Bytes} (clean : forall text, line = some text -> quote ∉ text)
    (colOrder : List (Option (Fin columnCount))) (sortedCol : Vector (Option Bytes) columnCount) :
    (doubleQuoteEscape comma quote).parseLine colOrder line sortedCol =
      (parseLine colOrder line sortedCol).mapError LineError.of := by
  induction colOrder generalizing line sortedCol with
  | nil => cases line <;> rfl
  | cons i colOrder ih =>
      cases line with
      | none => rfl
      | some line =>
          have here := clean line rfl
          have whole : line.takeWhile (fun byte => byte ≠ comma) ++ line.dropWhile (fun byte => byte ≠ comma) = line :=
            List.takeWhile_append_dropWhile
          have column : quote ∉ trim (chopNextColumn line).1 := by
            intro member
            apply here
            rw [← whole]
            exact List.mem_append_left _ (mem_of_mem_trim member)
          have later : forall text, (chopNextColumn line).2 = some text -> quote ∉ text := by
            intro text found member
            apply here
            rw [← whole]
            apply List.mem_append_right
            rw [chopNextColumn] at found
            cases behind : line.dropWhile (fun byte => byte ≠ comma) with
            | nil => rw [behind] at found; cases found
            | cons byte rest =>
                rw [behind] at found
                cases found
                exact List.mem_cons_of_mem _ member
          have stored : (doubleQuoteEscape comma quote).unescape (trim (chopNextColumn line).1) =
              trim (chopNextColumn line).1 := unescapeQuotes_unquoted column
          rw [QuotePolicy.parseLine, chop_unquoted here, chop_noQuoteEscape, parseLine]
          dsimp only
          rw [stored]
          exact ih later _

theorem plain_line_agrees :
    (doubleQuoteEscape comma 0x22).parseLine [some (1 : Fin 2), some 0] (some (ascii "7,a")) (Vector.replicate 2 none) =
      (parseLine [some 1, some 0] (some (ascii "7,a")) (Vector.replicate 2 none)).mapError LineError.of := by
  apply unquoted_line_agrees
  rintro text ⟨⟩
  decide

end Unquoted

end Csv
end MotionDetectAlarm
