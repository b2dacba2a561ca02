import AnDbg.Process.PSHelper

/-
  Which lines of `ps` become items.

  A line becomes one item exactly if a piece of it has all of
  its fields, of which the first may be cut.  Every other
  piece of the line then has one field at most.  That a line
  is cut elsewhere cannot be made good by another line.

  Main declarations:
    * `AnDbg.PSHelper.YieldsItems`
    * `AnDbg.PSHelper.ReadWhole`
    * `AnDbg.PSHelper.readWhole_of_short`
    * `AnDbg.PSHelper.yieldsItems_iff`
-/

------------------------------------------------------------
-- Lines And Items
------------------------------------------------------------

namespace AnDbg

namespace PSHelper

open Conversion Fields InputStream Lines Utils

/- The titles of the columns. -/
structure IsHeader (header : StdString) : Prop where
  oneLine : newline ∉ header
  noDigit : ∀ c ∈ header, digitValue 10 c = none

/- A line with at least nine fields, four of them numbers. -/
structure IsProcessLine (line : StdString) : Prop where
  oneLine : newline ∉ line
  nine : 9 ≤ (fields isSpace line).length
  pid : ∃ v, stoi ((fields isSpace line).getD 1 []) = .ok v
  ppid : ∃ v, stoi ((fields isSpace line).getD 2 []) = .ok v
  vsz : Fits 10 ((fields isSpace line).getD 3 [])
  rss : Fits 10 ((fields isSpace line).getD 4 [])

/- An item has the pid and the name of a line. -/
structure ItemOf (line : StdString) (item : PSItem) : Prop where
  pid : stoi ((fields isSpace line).getD 1 []) = .ok item.pid
  name :
    item.name =
      (ascii " ").intercalate ((fields isSpace line).drop 8)

/- There is one item for each line, in order. -/
def YieldsItems
    (header : StdString)
    (list : List StdString) : Prop :=
  ∃ items,
    getItems (some (unlines newline (header :: list))) =
        .ok items ∧
      List.Forall₂ ItemOf list items

/- A piece has the fields of a line from the second on. -/
def HasFields
    (line : StdString)
    (piece : List Byte) : Prop :=
  (fields isSpace (lineOf piece)).tail =
    (fields isSpace line).tail

/-
  Nothing of a header that is cut looks like a process, and
  some piece of each line has its fields.
-/
structure ReadWhole
    (header : StdString)
    (list : List StdString) : Prop where
  header :
    ∀ piece ∈ (pieces (header ++ [newline])).tail,
      (fields isSpace (lineOf piece)).length < 9
  line :
    ∀ line ∈ list, ∃ piece ∈ pieces (line ++ [newline]),
      HasFields line piece

variable {line : StdString} {item : PSItem}

/- Names are joined token by token. -/
theorem foldl_join
    (first : StdString)
    (tokens : List StdString) :
    tokens.foldl (fun name token => name ++ ascii " " ++ token)
        first =
      (ascii " ").intercalate (first :: tokens) := by
  have hJoin (a b : StdString) (rest : List StdString) :
      (ascii " ").intercalate ((a ++ b) :: rest) =
        a ++ (ascii " ").intercalate (b :: rest) := by
    rcases rest with - | ⟨c, cs⟩
    · simp
    · simp
  induction tokens generalizing first with
  | nil => simp
  | cons token tokens ih =>
      rw [List.foldl_cons, ih, hJoin]
      simp

/- A line with too few fields is skipped. -/
theorem parseSingleLine_of_lt
    (hFew : (fields isSpace line).length < 9) :
    parseSingleLine line = .ok none := by
  rw [parseSingleLine, splitBySpace_eq]
  dsimp only
  rw [if_pos hFew]

/- The item of a line is made of its fields. -/
theorem parseSingleLine_of_numbers
    (hNine : 9 ≤ (fields isSpace line).length)
    (hPid :
      ∃ v, stoi ((fields isSpace line).getD 1 []) = .ok v)
    (hPpid :
      ∃ v, stoi ((fields isSpace line).getD 2 []) = .ok v)
    (hVsz : Fits 10 ((fields isSpace line).getD 3 []))
    (hRss : Fits 10 ((fields isSpace line).getD 4 [])) :
    ∃ item, parseSingleLine line = .ok (some item) := by
  rcases hPid with ⟨pid, hPid⟩
  rcases hPpid with ⟨ppid, hPpid⟩
  rcases stoull_isOk_iff.mpr hVsz with ⟨vsz, hVsz⟩
  rcases stoull_isOk_iff.mpr hRss with ⟨rss, hRss⟩
  rw [parseSingleLine, splitBySpace_eq]
  dsimp only
  rw [if_neg (Nat.not_lt.mpr hNine), hPid, hPpid, hVsz, hRss]
  exact ⟨_, rfl⟩

/- What is accepted has nine fields, and is their item. -/
theorem itemOf_of_parseSingleLine
    (hItem : parseSingleLine line = .ok (some item)) :
    9 ≤ (fields isSpace line).length ∧ ItemOf line item := by
  rw [parseSingleLine, splitBySpace_eq] at hItem
  dsimp only at hItem
  split at hItem
  next => cases hItem
  next hMany =>
    have hNine := Nat.not_lt.mp hMany
    refine ⟨hNine, ?_⟩
    rcases bind_eq_ok_iff.mp hItem with ⟨pid, hPid, hItem⟩
    rcases bind_eq_ok_iff.mp hItem with ⟨ppid, -, hItem⟩
    rcases bind_eq_ok_iff.mp hItem with ⟨vsz, -, hItem⟩
    rcases bind_eq_ok_iff.mp hItem with ⟨rss, -, hItem⟩
    cases hItem
    refine ⟨hPid, ?_⟩
    dsimp only
    rw [foldl_join, List.drop_eq_getElem_cons hNine,
      List.getElem_eq_getD []]

end PSHelper

end AnDbg

------------------------------------------------------------
-- Fields Of A Piece
------------------------------------------------------------

namespace AnDbg

namespace PSHelper

open Conversion Fields InputStream

variable {line : StdString} {piece before after : List Byte}

theorem fields_ended
    (line : StdString) :
    fields isSpace (line ++ [newline]) =
      fields isSpace line := by
  rw [fields_append_sep (by decide)]
  exact List.append_nil _

/- What the buffer loses are a rest and line ends. -/
theorem fields_lineOf
    (piece : List Byte) :
    fields isSpace (lineOf piece) =
        fields isSpace (cStr piece) ∨
      (fields isSpace (lineOf piece)).length <
        (fields isSpace (cStr piece)).length := by
  rw [lineOf, List.filter_filter]
  apply fields_filter
  intro c hDrop
  rw [Bool.and_eq_false_iff, bne_eq_false_iff_eq,
    bne_eq_false_iff_eq] at hDrop
  rcases hDrop with rfl | rfl
  · decide
  · decide

theorem length_fields_lineOf_le
    (piece : List Byte) :
    (fields isSpace (lineOf piece)).length ≤
      (fields isSpace (cStr piece)).length := by
  rcases fields_lineOf piece with hSame | hFewer
  · rw [hSame]
  · exact hFewer.le

theorem cStr_append
    (piece : List Byte) :
    ∃ rest, piece = cStr piece ++ rest :=
  ⟨_, List.takeWhile_append_dropWhile.symm⟩

theorem length_fields_lineOf_le_piece
    (piece : List Byte) :
    (fields isSpace (lineOf piece)).length ≤
      (fields isSpace piece).length := by
  rcases cStr_append piece with ⟨rest, hPiece⟩
  have hCut :=
    length_fields_left_le isSpace (cStr piece) rest
  rw [← hPiece] at hCut
  exact (length_fields_lineOf_le piece).trans hCut

/- Lists that agree but for the last, and from a place on. -/
theorem tail_eq_of_parts
    {α : Type}
    {list middle whole : List α}
    (hLength : list.length = whole.length)
    (hMiddle : middle.length = whole.length)
    (hNine : 9 ≤ whole.length)
    (hInit : list.dropLast = middle.dropLast)
    (hTail : middle.tail = whole.tail)
    (hDrop : list.drop 8 = whole.drop 8) :
    list.tail = whole.tail := by
  apply List.ext_getElem?
  intro i
  rw [List.getElem?_tail, List.getElem?_tail]
  by_cases hi : i + 1 < whole.length - 1
  · have hHere := congrArg (·[i + 1]?) hInit
    have hThere := congrArg (·[i]?) hTail
    simp only [List.getElem?_dropLast, hLength, hMiddle,
      if_pos hi] at hHere
    simp only [List.getElem?_tail] at hThere
    rw [hHere, hThere]
  · have hLast := congrArg (·[i + 1 - 8]?) hDrop
    simp only [List.getElem?_drop] at hLast
    rwa [Nat.add_sub_cancel' (by omega)] at hLast

/- A piece that has all fields of the name has all fields. -/
theorem hasFields_of_drop
    (hText : line ++ [newline] = before ++ (piece ++ after))
    (hNine : 9 ≤ (fields isSpace line).length)
    (hDrop :
      (fields isSpace (lineOf piece)).drop 8 =
        (fields isSpace line).drop 8) :
    HasFields line piece := by
  rcases cStr_append piece with ⟨rest, hPiece⟩
  have hAll :
      line ++ [newline] =
        before ++ (cStr piece ++ (rest ++ after)) := by
    rw [← List.append_assoc (cStr piece), ← hPiece, hText]
  have hFields := fields_ended line
  rw [hAll] at hFields
  have hSame :
      (fields isSpace (lineOf piece)).length =
        (fields isSpace line).length := by
    have hLength := congrArg List.length hDrop
    rw [List.length_drop, List.length_drop] at hLength
    omega
  have hLine := length_fields_lineOf_le piece
  have hCut := length_fields_left_le isSpace (cStr piece)
    (rest ++ after)
  have hBehind := length_fields_right_le isSpace before
    (cStr piece ++ (rest ++ after))
  rw [hFields] at hBehind
  have hLineOf :
      fields isSpace (lineOf piece) =
        fields isSpace (cStr piece) := by
    rcases fields_lineOf piece with hEq | hFewer
    · exact hEq
    · omega
  have hInit :
      (fields isSpace (cStr piece)).dropLast =
        (fields isSpace
          (cStr piece ++ (rest ++ after))).dropLast :=
    dropLast_fields_left (by omega)
  have hTail :
      (fields isSpace
          (cStr piece ++ (rest ++ after))).tail =
        (fields isSpace line).tail := by
    rw [← hFields]
    exact tail_fields_right (by rw [hFields]; omega)
  unfold HasFields
  rw [hLineOf] at hSame hDrop ⊢
  exact tail_eq_of_parts hSame (by omega) hNine hInit hTail
    hDrop

theorem length_fields_of_hasFields
    (hNine : 9 ≤ (fields isSpace line).length)
    (hPiece : HasFields line piece) :
    (fields isSpace (lineOf piece)).length =
      (fields isSpace line).length := by
  have hLength := congrArg List.length hPiece
  rw [List.length_tail, List.length_tail] at hLength
  omega

/- Beside such a piece there is no more than a field. -/
theorem length_fields_beside
    (hText : line ++ [newline] = before ++ (piece ++ after))
    (hNine : 9 ≤ (fields isSpace line).length)
    (hPiece : HasFields line piece) :
    (fields isSpace before).length ≤ 1 ∧
      (fields isSpace after).length ≤ 1 := by
  have hFields := fields_ended line
  have hSame := length_fields_of_hasFields hNine hPiece
  have hOwn := length_fields_lineOf_le_piece piece
  have hLeft := length_fields_left_le isSpace piece after
  have hRight := length_fields_right_le isSpace before piece
  have hBefore := length_fields_add_le isSpace before
    (piece ++ after)
  have hAfter := length_fields_add_le isSpace
    (before ++ piece) after
  rw [List.append_assoc] at hAfter
  rw [← hText, hFields] at hBefore hAfter
  omega

/- A piece has no more fields than all pieces. -/
theorem length_fields_lineOf_le_flatten
    {list : List (List Byte)}
    (hMem : piece ∈ list) :
    (fields isSpace (lineOf piece)).length ≤
      (fields isSpace list.flatten).length := by
  rcases List.append_of_mem hMem with ⟨init, rest, rfl⟩
  rw [List.flatten_append, List.flatten_cons]
  have hOwn := length_fields_lineOf_le_piece piece
  have hLeft :=
    length_fields_left_le isSpace piece rest.flatten
  have hRight := length_fields_right_le isSpace
    init.flatten (piece ++ rest.flatten)
  omega

end PSHelper

end AnDbg

------------------------------------------------------------
-- One Item For Each Line
------------------------------------------------------------

namespace AnDbg

namespace PSHelper

open Collecting Conversion Fields InputStream Lines

/- What the loop does with what is in the buffer. -/
def parsePiece
    (buffer : List Byte) :
    Except ConversionError (Option PSItem) :=
  parseSingleLine (lineOf buffer)

/- The items of the pieces of a line. -/
def lineItems (line : StdString) : List PSItem :=
  (pieces (line ++ [newline])).filterMap (kept parsePiece)

variable {header line : StdString} {list : List StdString}
variable {piece : List Byte} {item : PSItem}

theorem getD_succ_of_tail
    {a b : List StdString}
    (hTail : a.tail = b.tail)
    (i : Nat) :
    a.getD (i + 1) [] = b.getD (i + 1) [] := by
  have hHere := congrArg (·.getD i []) hTail
  simpa [List.getD_eq_getElem?_getD] using hHere

theorem drop_of_tail
    {a b : List StdString}
    (hTail : a.tail = b.tail) :
    a.drop 8 = b.drop 8 := by
  have hHere := congrArg (·.drop 7) hTail
  simpa [← List.drop_one, List.drop_drop] using hHere

/- An item of a piece with the fields is the line's item. -/
theorem ItemOf.of_hasFields
    (hPiece : HasFields line piece)
    (hItem : ItemOf (lineOf piece) item) :
    ItemOf line item where
  pid := by
    rw [← getD_succ_of_tail hPiece 0]
    exact hItem.pid
  name := by
    rw [← drop_of_tail hPiece]
    exact hItem.name

/- A piece with the fields of a line is accepted. -/
theorem parsePiece_of_hasFields
    (hLine : IsProcessLine line)
    (hPiece : HasFields line piece) :
    ∃ item, parsePiece piece = .ok (some item) ∧
      ItemOf line item := by
  have hNine :
      9 ≤ (fields isSpace (lineOf piece)).length := by
    rw [length_fields_of_hasFields hLine.nine hPiece]
    exact hLine.nine
  have hField := getD_succ_of_tail hPiece
  rcases parseSingleLine_of_numbers hNine
      (by rw [hField 0]; exact hLine.pid)
      (by rw [hField 1]; exact hLine.ppid)
      (by rw [hField 2]; exact hLine.vsz)
      (by rw [hField 3]; exact hLine.rss) with
    ⟨item, hItem⟩
  exact ⟨item, hItem,
    (itemOf_of_parseSingleLine hItem).2.of_hasFields hPiece⟩

/- The item of a line comes from a piece with its fields. -/
theorem hasFields_of_itemOf
    (hLine : IsProcessLine line)
    (hMem : piece ∈ pieces (line ++ [newline]))
    (hPiece : parsePiece piece = .ok (some item))
    (hItem : ItemOf line item) :
    HasFields line piece := by
  rcases List.append_of_mem hMem with ⟨before, after, hSplit⟩
  have hText := flatten_pieces (line ++ [newline])
  rw [hSplit, List.flatten_append, List.flatten_cons] at hText
  apply hasFields_of_drop hText.symm hLine.nine
  have hOwn := (itemOf_of_parseSingleLine hPiece).2.name
  have hWords (text : StdString) :
      fields isSpace ((ascii " ").intercalate
          ((fields isSpace text).drop 8)) =
        (fields isSpace text).drop 8 := by
    apply fields_intercalate (by decide)
    intro word hWord
    exact field_spec (List.mem_of_mem_drop hWord)
  rw [← hWords (lineOf piece), ← hWords line, ← hOwn,
    hItem.name]

/- Pieces with too few fields are skipped. -/
theorem parsePiece_of_few
    {buffers : List (List Byte)}
    (hFew :
      ∀ buffer ∈ buffers,
        (fields isSpace (lineOf buffer)).length < 9) :
    (∀ buffer ∈ buffers, parsePiece buffer = .ok none) ∧
      buffers.filterMap (kept parsePiece) = [] := by
  have hSkipped :
      ∀ buffer ∈ buffers, parsePiece buffer = .ok none :=
    fun buffer hBuffer =>
      parseSingleLine_of_lt (hFew buffer hBuffer)
  refine ⟨hSkipped, List.filterMap_eq_nil_iff.mpr ?_⟩
  intro buffer hBuffer
  rw [kept, hSkipped buffer hBuffer]

/- A line with such a piece has that item and no other. -/
theorem lineItems_of_hasFields
    (hLine : IsProcessLine line)
    (hMem : piece ∈ pieces (line ++ [newline]))
    (hPiece : HasFields line piece) :
    (∀ buffer ∈ pieces (line ++ [newline]),
        ∃ result, parsePiece buffer = .ok result) ∧
      ∃ item, lineItems line = [item] ∧ ItemOf line item := by
  rcases List.append_of_mem hMem with ⟨before, after, hSplit⟩
  have hText := flatten_pieces (line ++ [newline])
  rw [hSplit, List.flatten_append, List.flatten_cons] at hText
  rcases length_fields_beside hText.symm hLine.nine hPiece with
    ⟨hBefore, hAfter⟩
  rcases parsePiece_of_hasFields hLine hPiece with
    ⟨item, hItem, hItemOf⟩
  have hFew {list : List (List Byte)}
      (hOne : (fields isSpace list.flatten).length ≤ 1) :
      ∀ buffer ∈ list,
        (fields isSpace (lineOf buffer)).length < 9 := by
    intro buffer hBuffer
    have hLe := length_fields_lineOf_le_flatten hBuffer
    omega
  have hInit := parsePiece_of_few (hFew hBefore)
  have hRest := parsePiece_of_few (hFew hAfter)
  have hKept : kept parsePiece piece = some item := by
    rw [kept, hItem]
  rw [lineItems, hSplit]
  refine ⟨?_, item, ?_, hItemOf⟩
  · intro buffer hBuffer
    rcases List.mem_append.mp hBuffer with hBuffer | hBuffer
    · exact ⟨none, hInit.1 buffer hBuffer⟩
    · rcases List.mem_cons.mp hBuffer with rfl | hBuffer
      · exact ⟨some item, hItem⟩
      · exact ⟨none, hRest.1 buffer hBuffer⟩
  · rw [List.filterMap_append, List.filterMap_cons, hKept,
      hInit.2, hRest.2]
    rfl

end PSHelper

end AnDbg

------------------------------------------------------------
-- When Every Line Yields Its Item
------------------------------------------------------------

namespace AnDbg

namespace PSHelper

open Collecting Conversion Fields InputStream Lines

variable {header line : StdString} {list : List StdString}
variable {piece : List Byte}

/- A piece of the header is skipped, or is no process. -/
theorem fields_lt_of_header
    {result : Option PSItem}
    (hHeader : IsHeader header)
    (hMem : piece ∈ pieces (header ++ [newline]))
    (hPiece : parsePiece piece = .ok result) :
    (fields isSpace (lineOf piece)).length < 9 := by
  by_contra hMany
  have hNine := Nat.not_lt.mp hMany
  have hIn :
      (fields isSpace (lineOf piece)).getD 1 [] ∈
        fields isSpace (lineOf piece) := by
    rw [← List.getElem_eq_getD (h := by omega)]
    exact List.getElem_mem _
  have hThrows :
      stoi ((fields isSpace (lineOf piece)).getD 1 []) =
        .error .invalidArgument := by
    apply stoi_of_noDigit
    intro c hc
    have hLine := (isInfix_of_mem_fields hIn).subset hc
    have hPiece : c ∈ piece :=
      (List.takeWhile_sublist _).subset
        (List.mem_of_mem_filter (List.mem_of_mem_filter hLine))
    have hText : c ∈ header ++ [newline] := by
      rw [← flatten_pieces (header ++ [newline])]
      exact List.mem_flatten_of_mem hMem hPiece
    rcases List.mem_append.mp hText with hc | hc
    · exact hHeader.noDigit c hc
    · rw [List.mem_singleton.mp hc]
      decide
  rw [parsePiece, parseSingleLine, Utils.splitBySpace_eq]
    at hPiece
  dsimp only at hPiece
  rw [if_neg hMany, hThrows] at hPiece
  cases hPiece

/- What the loop goes through. -/
theorem tail_pieces_unlines
    (hHeader : newline ∉ header)
    (hList : ∀ line ∈ list, newline ∉ line) :
    (pieces (unlines newline (header :: list))).tail =
      (pieces (header ++ [newline])).tail ++
        list.flatMap fun line => pieces (line ++ [newline]) := by
  have hNonempty : pieces (header ++ [newline]) ≠ [] := by
    rw [pieces_of_ne_nil (by simp)]
    exact List.cons_ne_nil _ _
  rw [pieces_unlines, List.flatMap_cons,
    List.tail_append_of_ne_nil hNonempty]
  exact List.forall_mem_cons.mpr ⟨hHeader, hList⟩

theorem filterMap_flatMap_pieces
    (list : List StdString) :
    (list.flatMap fun line =>
        pieces (line ++ [newline])).filterMap
        (kept parsePiece) =
      (list.map lineItems).flatten := by
  rw [List.filterMap_flatMap, List.flatMap_def]
  rfl

/- With its fields in a piece every line yields its item. -/
theorem ReadWhole.yieldsItems
    (hWhole : ReadWhole header list)
    (hHeader : IsHeader header)
    (hList : ∀ line ∈ list, IsProcessLine line) :
    YieldsItems header list := by
  have hLines (line : StdString) (hLine : line ∈ list) :
      (∀ buffer ∈ pieces (line ++ [newline]),
          ∃ result, parsePiece buffer = .ok result) ∧
        ∃ item, lineItems line = [item] ∧ ItemOf line item := by
    rcases hWhole.line line hLine with ⟨piece, hMem, hPiece⟩
    exact lineItems_of_hasFields (hList line hLine) hMem hPiece
  rcases parsePiece_of_few hWhole.header with
    ⟨hSkipped, hNothing⟩
  refine ⟨(list.map lineItems).flatten, ?_, ?_⟩
  · apply collect_eq_ok_iff.mpr
    rw [tail_pieces_unlines hHeader.oneLine
      fun line hLine => (hList line hLine).oneLine]
    refine ⟨?_, ?_⟩
    · intro buffer hBuffer
      rcases List.mem_append.mp hBuffer with hFirst | hRest
      · exact ⟨none, hSkipped buffer hFirst⟩
      · rcases List.mem_flatMap.mp hRest with
          ⟨line, hLine, hBuffer⟩
        exact (hLines line hLine).1 buffer hBuffer
    · change _ = List.filterMap (kept parsePiece) _
      rw [List.filterMap_append, hNothing,
        filterMap_flatMap_pieces]
      rfl
  · clear hWhole hHeader hSkipped hNothing hList
    induction list with
    | nil => exact .nil
    | cons line list ih =>
        rcases (hLines line List.mem_cons_self).2 with
          ⟨item, hItems, hItem⟩
        rw [List.map_cons, List.flatten_cons, hItems]
        exact .cons hItem (ih fun line' hLine' =>
          hLines line' (List.mem_cons_of_mem line hLine'))

/- The item of a line, among those of its pieces. -/
theorem exists_of_mem_lineItems
    {item : PSItem}
    (hLine : IsProcessLine line)
    (hItem : ItemOf line item)
    (hMem : item ∈ lineItems line) :
    ∃ piece ∈ pieces (line ++ [newline]),
      HasFields line piece := by
  rcases List.mem_filterMap.mp hMem with
    ⟨piece, hPiece, hKept⟩
  refine ⟨piece, hPiece, ?_⟩
  unfold kept at hKept
  split at hKept
  next result hParse =>
    rw [hKept] at hParse
    exact hasFields_of_itemOf hLine hPiece hParse hItem
  next => cases hKept

/- No other line makes good for a line that is cut. -/
theorem YieldsItems.readWhole
    (hYields : YieldsItems header list)
    (hHeader : IsHeader header)
    (hList : ∀ line ∈ list, IsProcessLine line) :
    ReadWhole header list := by
  rcases hYields with ⟨items, hItems, hOf⟩
  rcases collect_eq_ok_iff.mp hItems with ⟨hOk, hKept⟩
  change items = List.filterMap (kept parsePiece) _ at hKept
  rw [tail_pieces_unlines hHeader.oneLine
    fun line hLine => (hList line hLine).oneLine] at hOk hKept
  have hSkipped :
      ∀ piece ∈ (pieces (header ++ [newline])).tail,
        (fields isSpace (lineOf piece)).length < 9 := by
    intro piece hPiece
    rcases hOk piece (List.mem_append_left _ hPiece) with
      ⟨result, hResult⟩
    exact fields_lt_of_header hHeader
      (List.mem_of_mem_tail hPiece) hResult
  rw [List.filterMap_append, (parsePiece_of_few hSkipped).2,
    filterMap_flatMap_pieces, List.nil_append] at hKept
  have hBoth :=
    (List.forall₂_and_left list items).mpr ⟨hList, hOf⟩
  have hOnly :
      List.Forall₂ (fun group item =>
        item ∈ group → group = [item])
        (list.map lineItems) items := by
    rw [List.forall₂_map_left_iff]
    refine hBoth.imp ?_
    rintro line item ⟨hLine, hItem⟩ hMem
    rcases exists_of_mem_lineItems hLine hItem hMem with
      ⟨piece, hPiece, hHas⟩
    rcases (lineItems_of_hasFields hLine hPiece hHas).2 with
      ⟨item', hAlone, -⟩
    rw [hAlone] at hMem ⊢
    rw [List.mem_singleton.mp hMem]
  have hSingle := (eq_singletons_of_flatten_eq hOnly
    (hKept.symm.trans (List.nil_append items).symm)).2
  rw [List.forall₂_map_left_iff] at hSingle
  refine ⟨hSkipped, ?_⟩
  have hPieces :
      List.Forall₂ (fun line item =>
        (∃ piece ∈ pieces (line ++ [newline]),
          HasFields line piece) ∧ ItemOf line item)
        list items := by
    refine List.Forall₂.mp ?_ hBoth hSingle
    rintro line item ⟨hLine, hItem⟩ hAlone
    refine ⟨exists_of_mem_lineItems hLine hItem ?_, hItem⟩
    rw [hAlone]
    exact List.mem_singleton_self item
  exact ((List.forall₂_and_left list items).mp hPieces).1

theorem lineOf_short
    (hEnd : newline ∉ line)
    (hNul : 0#8 ∉ line)
    (hReturn : 0x0d#8 ∉ line) :
    lineOf (line ++ [newline]) = line := by
  have hKeep (c : Byte)
      (hMem : c ∉ line) : line.filter (· != c) = line := by
    apply List.filter_eq_self.mpr
    intro d hd
    exact bne_iff_ne.mpr fun hEq => hMem (hEq ▸ hd)
  have hNoNul : 0#8 ∉ line ++ [newline] := by
    rw [List.mem_append, not_or]
    exact ⟨hNul, by decide⟩
  have hDrop : [newline].filter (· != newline) = [] := by
    decide
  rw [lineOf, cStr_eq_self hNoNul, List.filter_append,
    hKeep newline hEnd, hDrop, List.append_nil]
  exact hKeep 0x0d#8 hReturn

/- Lines that the buffer has room for are read whole. -/
theorem readWhole_of_short
    (hHeader : newline ∉ header)
    (hTitles : header.length < bufferSize - 1)
    (hShort :
      ∀ line ∈ list, newline ∉ line ∧ 0#8 ∉ line ∧
        0x0d#8 ∉ line ∧ line.length < bufferSize - 1) :
    ReadWhole header list where
  header piece hPiece := by
    rw [pieces_of_short hHeader hTitles] at hPiece
    cases hPiece
  line line hLine := by
    rcases hShort line hLine with
      ⟨hEnd, hNul, hReturn, hLength⟩
    rw [pieces_of_short hEnd hLength]
    refine ⟨_, List.mem_singleton_self _, ?_⟩
    unfold HasFields
    rw [lineOf_short hEnd hNul hReturn]

theorem length_lineOf_le
    (piece : List Byte) :
    (lineOf piece).length ≤ piece.length := by
  rw [lineOf]
  exact (List.length_filter_le _ _).trans
    ((List.length_filter_le _ _).trans
      (List.takeWhile_sublist _).length_le)

theorem yieldsItems_iff
    (hHeader : IsHeader header)
    (hList : ∀ line ∈ list, IsProcessLine line) :
    YieldsItems header list ↔ ReadWhole header list :=
  ⟨fun hYields => hYields.readWhole hHeader hList,
    fun hWhole => hWhole.yieldsItems hHeader hList⟩

/- The output of a system with one process. -/
theorem yieldsItems_iff_init :
    YieldsItems (ascii "USER PID NAME")
      [ascii "root 1 0 99 9 0 0 S init --user"] := by
  have hHeader : IsHeader (ascii "USER PID NAME") :=
    ⟨by decide, by decide⟩
  have hFields :
      fields isSpace (ascii "root 1 0 99 9 0 0 S init --user") =
        [ascii "root", ascii "1", ascii "0", ascii "99",
          ascii "9", ascii "0", ascii "0", ascii "S",
          ascii "init", ascii "--user"] := by
    decide
  have hLine :
      IsProcessLine (ascii "root 1 0 99 9 0 0 S init --user") :=
    { oneLine := by decide
      nine := by rw [hFields]; decide
      pid := ⟨1, by rw [hFields]; decide⟩
      ppid := ⟨0, by rw [hFields]; decide⟩
      vsz := stoull_isOk_iff.mp ⟨99, by rw [hFields]; decide⟩
      rss := stoull_isOk_iff.mp ⟨9, by rw [hFields]; decide⟩ }
  apply (yieldsItems_iff hHeader (by simpa using hLine)).mpr
  apply readWhole_of_short (by decide) (by decide)
  decide

/- The name of a process that does not fit the buffer. -/
theorem not_yieldsItems_long :
    let line : StdString :=
      ascii "root 1 0 99 9 0 0 S" ++
        0x20 :: List.replicate 2048 0x78
    IsHeader (ascii "USER PID NAME") ∧ IsProcessLine line ∧
      ¬ YieldsItems (ascii "USER PID NAME") [line] := by
  intro line
  have hHeader : IsHeader (ascii "USER PID NAME") :=
    ⟨by decide, by decide⟩
  have hFields :
      fields isSpace line =
        [ascii "root", ascii "1", ascii "0", ascii "99",
          ascii "9", ascii "0", ascii "0", ascii "S",
          List.replicate 2048 0x78] := by
    have hFront :
        fields isSpace (ascii "root 1 0 99 9 0 0 S") =
          [ascii "root", ascii "1", ascii "0", ascii "99",
            ascii "9", ascii "0", ascii "0", ascii "S"] := by
      decide
    have hBack :
        fields isSpace (List.replicate 2048 0x78) =
          [List.replicate 2048 0x78] := by
      apply fields_word
      · rw [ne_eq, List.replicate_eq_nil_iff]
        decide
      · intro c hc
        rw [List.eq_of_mem_replicate hc]
        decide
    rw [fields_append_sep (by decide), hFront, hBack]
    rfl
  have hLine : IsProcessLine line :=
    { oneLine := by
        intro hMem
        rcases List.mem_append.mp hMem with hMem | hMem
        · exact absurd hMem (by decide)
        · rcases List.mem_cons.mp hMem with hEq | hMem
          · exact absurd hEq (by decide)
          · exact absurd (List.eq_of_mem_replicate hMem)
              (by decide)
      nine := by rw [hFields]; decide
      pid := ⟨1, by rw [hFields]; decide⟩
      ppid := ⟨0, by rw [hFields]; decide⟩
      vsz := stoull_isOk_iff.mp ⟨99, by rw [hFields]; decide⟩
      rss := stoull_isOk_iff.mp ⟨9, by rw [hFields]; decide⟩ }
  refine ⟨hHeader, hLine, ?_⟩
  intro hYields
  have hWhole :=
    hYields.readWhole hHeader (by simpa using hLine)
  rcases hWhole.line line List.mem_cons_self with
    ⟨piece, hPiece, hHas⟩
  unfold HasFields at hHas
  have hName :
      List.replicate 2048 0x78 ∈
        (fields isSpace (lineOf piece)).tail := by
    rw [hHas, hFields]
    simp only [List.tail_cons, List.mem_cons, eq_self,
      true_or, or_true]
  have hPart :=
    isInfix_of_mem_fields (List.mem_of_mem_tail hName)
  have hLong := hPart.length_le
  have hCut := length_lineOf_le piece
  have hRead := length_le_of_mem_pieces hPiece
  have hSize : bufferSize = 2048 := rfl
  rw [List.length_replicate] at hLong
  omega

end PSHelper

end AnDbg
