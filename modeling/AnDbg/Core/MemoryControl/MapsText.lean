import AnDbg.Core.MemoryControl.Regions

/-
  The text of a memory map and the regions it stands for.

  A line gives the two addresses, the permissions, the
  offset, the device and the inode of a region, with blanks
  between them, and behind these the path, which may have
  blanks in it or be missing.  Whatever the numbers are
  written like and whatever the blanks are, the record of
  the line is what is read.

  Main declarations:
    * `AnDbg.MapsRecord` and `AnDbg.MapsRecord.region`
    * `AnDbg.WritesRecord` and `AnDbg.WritesMaps`
    * `AnDbg.MemoryControl.parseMapsLine_of_writes`
    * `AnDbg.MemoryControl.memory_map_read`
-/

------------------------------------------------------------
-- Records
------------------------------------------------------------

namespace AnDbg

open Conversion Fields InputStream MemoryControl

/- A word of a line. -/
structure IsWord (word : StdString) : Prop where
  nonempty : word ≠ []
  noSpace : ∀ c ∈ word, isSpace c = false

/- A path may be missing, and may have blanks in it. -/
structure IsPath (path : StdString) : Prop where
  starts : path = [] ∨ startsField isSpace path = true
  oneLine : newline ∉ path

/- White space within a line. -/
structure IsBlank (text : StdString) : Prop where
  space : ∀ c ∈ text, isSpace c = true
  oneLine : newline ∉ text

/- What a line says of a region. -/
structure MapsRecord where
  startAddress : Addr
  endAddress : Addr
  permissions : StdString
  offset : BitVec 64
  device : StdString
  inode : BitVec 64
  pathname : StdString
  ordered : startAddress < endAddress
  permissionsWord : IsWord permissions
  deviceWord : IsWord device
  isPath : IsPath pathname

/- The region that a record stands for. -/
def MapsRecord.region (record : MapsRecord) : MemoryRegion where
  startAddress := record.startAddress
  endAddress := record.endAddress
  size := record.endAddress - record.startAddress
  permissions := record.permissions
  offset := record.offset
  device := record.device
  inode := record.inode
  pathname :=
    if record.pathname = [] then ascii "[anonymous]"
    else record.pathname

/- A line that says what a record says. -/
inductive WritesRecord
    (record : MapsRecord) : StdString → Prop
  | line
      {startDigits endDigits offsetDigits inodeDigits :
        StdString}
      {gap₁ gap₂ gap₃ gap₄ padding : StdString}
      (hStart :
        WritesNumber 16 startDigits
          record.startAddress.toNat)
      (hEnd :
        WritesNumber 16 endDigits record.endAddress.toNat)
      (hOffset :
        WritesNumber 16 offsetDigits record.offset.toNat)
      (hInode :
        WritesNumber 10 inodeDigits record.inode.toNat)
      (hGaps :
        ∀ gap ∈ [gap₁, gap₂, gap₃, gap₄],
          IsBlank gap ∧ gap ≠ [])
      (hPadding : IsBlank padding)
      (hPath : record.pathname ≠ [] → padding ≠ []) :
      WritesRecord record
        ((startDigits ++ hyphen :: endDigits) ++
          (gap₁ ++ (record.permissions ++
            (gap₂ ++ (offsetDigits ++
              (gap₃ ++ (record.device ++
                (gap₄ ++ (inodeDigits ++
                  (padding ++ record.pathname))))))))))

/-
  A text that has a line for each record, blank lines in
  between, and perhaps no end of its last line.
-/
inductive WritesMaps : List MapsRecord → List Byte → Prop
  | nil : WritesMaps [] []
  | lastRecord
      {record : MapsRecord}
      {line : StdString}
      (hLine : WritesRecord record line) :
      WritesMaps [record] line
  | lastBlank
      {line : StdString}
      (hLine : IsBlank line) :
      WritesMaps [] line
  | record
      {record : MapsRecord}
      {line : StdString}
      {records : List MapsRecord}
      {text : List Byte}
      (hLine : WritesRecord record line)
      (hText : WritesMaps records text) :
      WritesMaps (record :: records)
        (line ++ newline :: text)
  | blank
      {line : StdString}
      {records : List MapsRecord}
      {text : List Byte}
      (hLine : IsBlank line)
      (hText : WritesMaps records text) :
      WritesMaps records (line ++ newline :: text)

end AnDbg

------------------------------------------------------------
-- Reading A Record
------------------------------------------------------------

namespace AnDbg

namespace MemoryControl

open Conversion Fields InputStream Lines

variable {record : MapsRecord} {line : StdString}
variable {base n : Nat} {digits gap text : StdString}

theorem isWord_of_writes
    (hWrites : WritesNumber base digits n) :
    IsWord digits where
  nonempty := hWrites.nonempty
  noSpace c hc := by
    rcases exists_digitValue_of_mem hWrites hc with
      ⟨value, hValue⟩
    exact (notMem_marks_of_digitValue hValue).1

theorem hyphen_notMem_of_writes
    (hWrites : WritesNumber base digits n) :
    hyphen ∉ digits := by
  intro hMem
  rcases exists_digitValue_of_mem hWrites hMem with
    ⟨value, hValue⟩
  exact (notMem_marks_of_digitValue hValue).2.1 rfl

/- The digits of a number of 64 bits are converted to it. -/
theorem stoull_of_writes_toNat
    {v : BitVec 64}
    (hWrites : WritesNumber base digits v.toNat) :
    stoull base digits = .ok v := by
  rw [stoull_of_writes hWrites v.isLt, BitVec.ofNat_toNat,
    BitVec.setWidth_eq]

theorem newline_notMem_word
    (hWord : IsWord text) :
    newline ∉ text := by
  intro hMem
  have hNoSpace := hWord.noSpace newline hMem
  exact absurd hNoSpace (by decide)

/- No word goes on where blanks begin. -/
theorem not_startsField_gap
    (hGap : IsBlank gap ∧ gap ≠ [])
    (text : StdString) :
    startsField isSpace (gap ++ text) = false := by
  rcases hGap with ⟨hBlank, hNonempty⟩
  rcases List.exists_cons_of_ne_nil hNonempty with ⟨c, cs, rfl⟩
  simp [startsField, hBlank.space c List.mem_cons_self]

/- The two addresses are a word. -/
theorem isWord_addressRange
    {startDigits endDigits : StdString}
    (hStart : IsWord startDigits)
    (hEnd : IsWord endDigits) :
    IsWord (startDigits ++ hyphen :: endDigits) where
  nonempty := by simp
  noSpace c hc := by
    rcases List.mem_append.mp hc with hc | hc
    · exact hStart.noSpace c hc
    · rcases List.mem_cons.mp hc with rfl | hc
      · decide
      · exact hEnd.noSpace c hc

theorem parseAddressRange_of_writes
    {startDigits endDigits : StdString}
    (hStart :
      WritesNumber 16 startDigits record.startAddress.toNat)
    (hEnd :
      WritesNumber 16 endDigits record.endAddress.toNat) :
    parseAddressRange (startDigits ++ hyphen :: endDigits) =
      .ok (some (record.startAddress, record.endAddress)) := by
  have hPosition :
      (startDigits ++ hyphen :: endDigits).idxOf hyphen =
        startDigits.length := by
    rw [List.idxOf_append_of_notMem
      (hyphen_notMem_of_writes hStart), List.idxOf_cons_self,
      Nat.add_zero]
  apply parseAddressRange_eq_some_iff.mpr
  rw [startText, endText, hPosition, List.take_left,
    ← List.drop_drop, List.drop_left, List.drop_one,
    List.tail_cons]
  exact ⟨by simp, stoull_of_writes_toNat hStart,
    stoull_of_writes_toNat hEnd, record.ordered⟩

/- The line of a record is read as its region. -/
theorem parseMapsLine_of_writes
    (hLine : WritesRecord record line) :
    parseMapsLine line = .ok (some record.region) := by
  cases hLine with
  | @line startDigits endDigits offsetDigits inodeDigits gap₁
      gap₂ gap₃ gap₄ padding hStart hEnd hOffset hInode hGaps
      hPadding hPath =>
    have hRange := isWord_addressRange
      (isWord_of_writes hStart) (isWord_of_writes hEnd)
    have hOffsetWord := isWord_of_writes hOffset
    have hInodeWord := isWord_of_writes hInode
    have hGap₁ := hGaps gap₁ (by simp)
    have hGap₂ := hGaps gap₂ (by simp)
    have hGap₃ := hGaps gap₃ (by simp)
    have hGap₄ := hGaps gap₄ (by simp)
    have hTail :
        startsField isSpace (padding ++ record.pathname) =
          false := by
      by_cases hNone : padding = []
      · by_cases hPathname : record.pathname = []
        · rw [hNone, hPathname]
          rfl
        · exact absurd hNone (hPath hPathname)
      · exact not_startsField_gap ⟨hPadding, hNone⟩ _
    have hOpened := before_opened
      ([] ++ ((startDigits ++ hyphen :: endDigits) ++
        (gap₁ ++ (record.permissions ++
          (gap₂ ++ (offsetDigits ++
            (gap₃ ++ (record.device ++
              (gap₄ ++ (inodeDigits ++
                (padding ++ record.pathname)))))))))))
    rcases hOpened.extract
        (fun c hc => absurd hc List.not_mem_nil)
        hRange.nonempty hRange.noSpace
        (not_startsField_gap hGap₁ _) [] with
      ⟨s₁, hExtract₁, hBefore₁⟩
    rcases hBefore₁.extract hGap₁.1.space
        record.permissionsWord.nonempty
        record.permissionsWord.noSpace
        (not_startsField_gap hGap₂ _) [] with
      ⟨s₂, hExtract₂, hBefore₂⟩
    rcases hBefore₂.extract hGap₂.1.space
        hOffsetWord.nonempty hOffsetWord.noSpace
        (not_startsField_gap hGap₃ _) [] with
      ⟨s₃, hExtract₃, hBefore₃⟩
    rcases hBefore₃.extract hGap₃.1.space
        record.deviceWord.nonempty record.deviceWord.noSpace
        (not_startsField_gap hGap₄ _) [] with
      ⟨s₄, hExtract₄, hBefore₄⟩
    rcases hBefore₄.extract hGap₄.1.space
        hInodeWord.nonempty hInodeWord.noSpace hTail [] with
      ⟨s₅, hExtract₅, hBefore₅⟩
    have hPathname :=
      hBefore₅.getline_skipSpace hPadding.space
        record.isPath.starts record.isPath.oneLine
    have hFields :
        parseFields record.startAddress record.endAddress s₁ =
          .ok record.region := by
      rw [parseFields, hExtract₂]
      dsimp only
      rw [hExtract₃]
      dsimp only
      rw [stoull_of_writes_toNat hOffset, hExtract₄]
      dsimp only
      rw [hExtract₅]
      dsimp only
      rw [stoull_of_writes_toNat hInode]
      dsimp only [bind, Except.bind, pure, Except.pure]
      rw [hPathname]
      rfl
    rw [List.nil_append] at hExtract₁
    rw [parseMapsLine, hExtract₁]
    dsimp only
    rw [parseAddressRange_of_writes hStart hEnd]
    dsimp only [bind, Except.bind]
    rw [hFields]
    rfl

end MemoryControl

end AnDbg

------------------------------------------------------------
-- Reading The Map Without Loss
------------------------------------------------------------

namespace AnDbg

namespace MemoryControl

open Conversion Fields InputStream Lines

variable {record : MapsRecord} {line : StdString}
variable {records : List MapsRecord} {text : List Byte}

/- A blank line has no region. -/
theorem parseMapsLine_of_blank
    (hLine : IsBlank line) :
    parseMapsLine line = .ok none := by
  have hRange := (extract_spec [] (opened line)).1
  rw [words_opened, fields_blanks hLine.space] at hRange
  rw [parseMapsLine]
  generalize (opened line).extract [] = done at hRange
  rcases done with ⟨addressRange, iss⟩
  have hNil : addressRange = [] := hRange
  rw [hNil]
  rfl

theorem newline_notMem_of_writes
    (hLine : WritesRecord record line) :
    newline ∉ line := by
  rcases hLine with
    ⟨hStart, hEnd, hOffset, hInode, hGaps, hPadding, -⟩
  have hRange := isWord_addressRange
    (isWord_of_writes hStart) (isWord_of_writes hEnd)
  simp only [List.mem_append, not_or]
  exact ⟨by simpa using newline_notMem_word hRange,
    (hGaps _ (by simp)).1.oneLine,
    newline_notMem_word record.permissionsWord,
    (hGaps _ (by simp)).1.oneLine,
    newline_notMem_word (isWord_of_writes hOffset),
    (hGaps _ (by simp)).1.oneLine,
    newline_notMem_word record.deviceWord,
    (hGaps _ (by simp)).1.oneLine,
    newline_notMem_word (isWord_of_writes hInode),
    hPadding.oneLine, record.isPath.oneLine⟩

theorem ne_nil_of_writes
    (hLine : WritesRecord record line) :
    line ≠ [] := by
  rcases hLine with
    ⟨hStart, hEnd, hOffset, hInode, hGaps, hPadding, -⟩
  simp

/- The lines of a map are read one by one. -/
theorem parsed_of_writesMaps
    (hText : WritesMaps records text) :
    (∀ line ∈ lines newline text,
        ∃ region, parseMapsLine line = .ok region) ∧
      (lines newline text).filterMap accepted =
        records.map MapsRecord.region := by
  have hRecord {record : MapsRecord} {line : StdString}
      (hLine : WritesRecord record line) :
      accepted line = some record.region := by
    rw [accepted, Collecting.kept, parseMapsLine_of_writes hLine]
  have hBlank {line : StdString} (hLine : IsBlank line) :
      accepted line = none := by
    rw [accepted, Collecting.kept, parseMapsLine_of_blank hLine]
  induction hText with
  | nil =>
      exact ⟨fun line hMem => absurd hMem List.not_mem_nil,
        rfl⟩
  | lastRecord hLine =>
      rw [lines_of_notMem (ne_nil_of_writes hLine)
        (newline_notMem_of_writes hLine), List.filterMap_cons,
        hRecord hLine]
      refine ⟨?_, rfl⟩
      intro line hMem
      rw [List.mem_singleton.mp hMem]
      exact ⟨_, parseMapsLine_of_writes hLine⟩
  | @lastBlank line hLine =>
      by_cases hNil : line = []
      · rw [hNil]
        exact ⟨fun line hMem => absurd hMem List.not_mem_nil,
          rfl⟩
      · rw [lines_of_notMem hNil hLine.oneLine,
          List.filterMap_cons, hBlank hLine]
        refine ⟨?_, rfl⟩
        intro line hMem
        rw [List.mem_singleton.mp hMem]
        exact ⟨_, parseMapsLine_of_blank hLine⟩
  | record hLine _ ih =>
      rw [lines_append_cons (newline_notMem_of_writes hLine),
        List.filterMap_cons, hRecord hLine, ih.2,
        List.map_cons]
      refine ⟨?_, rfl⟩
      intro line hMem
      rcases List.mem_cons.mp hMem with rfl | hMem
      · exact ⟨_, parseMapsLine_of_writes hLine⟩
      · exact ih.1 line hMem
  | blank hLine _ ih =>
      rw [lines_append_cons hLine.oneLine,
        List.filterMap_cons, hBlank hLine, ih.2]
      refine ⟨?_, rfl⟩
      intro line hMem
      rcases List.mem_cons.mp hMem with rfl | hMem
      · exact ⟨_, parseMapsLine_of_blank hLine⟩
      · exact ih.1 line hMem

/- The regions of the records are read, in ascending order. -/
theorem memory_map_read
    (std : RegionSort)
    (hText : WritesMaps records text) :
    ∃ regions,
      getMemoryRegions std (some text) = .ok regions ∧
        regions.Pairwise
          (fun a b => a.startAddress ≤ b.startAddress) ∧
        regions.Perm (records.map MapsRecord.region) := by
  rcases parsed_of_writesMaps hText with ⟨hNoThrow, hRegions⟩
  refine ⟨_, getMemoryRegions_of_noThrow hNoThrow std,
    std.sorted _, ?_⟩
  rw [hRegions]
  exact std.perm _

/- The map of a file whose path has a blank in it. -/
theorem memory_map_read_one :
    let record : MapsRecord :=
      { startAddress := 0x10
        endAddress := 0x2a
        permissions := ascii "r--p"
        offset := 0
        device := ascii "8:1"
        inode := 12
        pathname := ascii "/a b"
        ordered := by decide
        permissionsWord := ⟨by decide, by decide⟩
        deviceWord := ⟨by decide, by decide⟩
        isPath := ⟨by decide, by decide⟩ }
    ∃ regions,
      getMemoryRegions .merge
          (some (ascii "10-2a r--p 0 8:1 12  /a b\n")) =
          .ok regions ∧
        regions.Pairwise
          (fun a b => a.startAddress ≤ b.startAddress) ∧
        regions.Perm [record.region] := by
  intro record
  have hBlank : IsBlank (ascii " ") := ⟨by decide, by decide⟩
  have hLine :
      WritesRecord record (ascii "10-2a r--p 0 8:1 12  /a b") :=
    @WritesRecord.line record (ascii "10") (ascii "2a")
      (ascii "0") (ascii "12") (ascii " ") (ascii " ")
      (ascii " ") (ascii " ") (ascii "  ")
      ⟨by decide, [1, 0], by decide, by decide⟩
      ⟨by decide, [2, 10], by decide, by decide⟩
      ⟨by decide, [0], by decide, by decide⟩
      ⟨by decide, [1, 2], by decide, by decide⟩
      (by simpa using ⟨hBlank, by decide⟩)
      ⟨by decide, by decide⟩ (by decide)
  exact memory_map_read .merge (.record hLine .nil)

end MemoryControl

end AnDbg
