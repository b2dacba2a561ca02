import AnDbg.Base.File
import AnDbg.Core.Target
import AnDbg.Lib.Collecting

/-
  The memory map of a process, read from its text.

  A line is taken apart word by word.  Its numbers are
  converted by functions that throw, and what they throw is
  caught nowhere: one line with a word that is no number
  costs the regions of all the other lines.

  Main declarations:
    * `AnDbg.MemoryRegion`
    * `AnDbg.MemoryControl.parseMapsLine`
    * `AnDbg.MemoryControl.getMemoryRegions`
    * `AnDbg.MemoryControl.Convertible`
    * `AnDbg.MemoryControl.skipsMalformed_iff`
-/

------------------------------------------------------------
-- Reading The Map
------------------------------------------------------------

namespace AnDbg

structure MemoryRegion where
  startAddress : Addr
  endAddress : Addr
  size : BitVec 64
  permissions : StdString
  offset : BitVec 64
  device : StdString
  inode : BitVec 64
  pathname : StdString
deriving DecidableEq, Repr

/-
  `std::sort` by the start address; the order of regions
  that start alike is left open.
-/
structure RegionSort where
  sort : List MemoryRegion → List MemoryRegion
  perm : ∀ regions, (sort regions).Perm regions
  sorted :
    ∀ regions, (sort regions).Pairwise fun a b =>
      a.startAddress ≤ b.startAddress

namespace MemoryControl

open Collecting Conversion InputStream

/- The character between the two addresses. -/
def hyphen : Byte := 0x2d

/-
  The part of `parse_maps_line` on the addresses; none means
  that it returns false.
-/
def parseAddressRange
    (addressRange : StdString) :
    Except ConversionError (Option (Addr × Addr)) :=
  if addressRange.contains hyphen then do
    let hyphenPosition := addressRange.idxOf hyphen
    let startAddress ←
      stoull 16 (addressRange.take hyphenPosition)
    let endAddress ←
      stoull 16 (addressRange.drop (hyphenPosition + 1))
    if endAddress - startAddress = 0 then
      return none
    else if endAddress ≤ startAddress then
      return none
    else
      return some (startAddress, endAddress)
  else
    return none

/- The part on the other fields of the line. -/
def parseFields
    (startAddress endAddress : Addr)
    (iss : InputStream) :
    Except ConversionError MemoryRegion := do
  let (permissions, iss) := iss.extract []
  let (offsetStr, iss) := iss.extract []
  let offset ← stoull 16 offsetStr
  let (device, iss) := iss.extract []
  let (inodeStr, iss) := iss.extract []
  let inode ← stoull 10 inodeStr
  let (pathname, _) := iss.skipSpace.getline []
  let region : MemoryRegion :=
    { startAddress := startAddress
      endAddress := endAddress
      size := endAddress - startAddress
      permissions := permissions
      offset := offset
      device := device
      inode := inode
      pathname :=
        if pathname = [] then ascii "[anonymous]"
        else pathname }
  return region

/- `parse_maps_line`; the region of a line it accepts. -/
def parseMapsLine
    (line : StdString) :
    Except ConversionError (Option MemoryRegion) := do
  let (addressRange, iss) := (opened line).extract []
  match ← parseAddressRange addressRange with
  | none => return none
  | some (startAddress, endAddress) =>
    return some (← parseFields startAddress endAddress iss)

/- The body of the loop of `get_memory_regions`. -/
def parseLine
    (line : StdString) :
    Except ConversionError (Option MemoryRegion) :=
  if line = [] then .ok none else parseMapsLine line

/-
  `get_memory_regions`, given the content of the map, if it
  can be opened.
-/
def getMemoryRegions
    (std : RegionSort)
    (maps : Option (List Byte)) :
    Except ConversionError (List MemoryRegion) :=
  match maps with
  | none => .ok []
  | some content => do
    let regions ←
      collect parseLine (File.opened content).readLines.1
    return std.sort regions

end MemoryControl

end AnDbg

------------------------------------------------------------
-- Lines That Are Accepted
------------------------------------------------------------

namespace AnDbg

namespace MemoryControl

open Collecting Conversion Fields InputStream Lines

/- The region of a line that is accepted. -/
def accepted : StdString → Option MemoryRegion :=
  kept parseMapsLine

/- No line throws, and what is accepted is returned. -/
structure SkipsMalformed
    (std : RegionSort)
    (text : List Byte) : Prop where
  noThrow :
    ∀ line ∈ lines newline text,
      ∃ region, parseMapsLine line = .ok region
  returns :
    ∃ regions,
      getMemoryRegions std (some text) = .ok regions ∧
        regions.Pairwise
          (fun a b => a.startAddress ≤ b.startAddress) ∧
        regions.Perm ((lines newline text).filterMap accepted)

theorem readLines_opened
    (content : List Byte) :
    (File.opened content).readLines.1 =
      lines newline content :=
  (File.readLines_spec (File.hasContent_opened content)).1

/- An empty line has no region. -/
theorem parseMapsLine_nil :
    parseMapsLine [] = .ok none := by
  decide

/- That empty lines are left out makes no difference. -/
theorem parseLine_eq
    (line : StdString) :
    parseLine line = parseMapsLine line := by
  unfold parseLine
  split
  next hNil => rw [hNil, parseMapsLine_nil]
  next => rfl

theorem getMemoryRegions_of_noThrow
    {text : List Byte}
    (hNoThrow :
      ∀ line ∈ lines newline text, ∃ region,
        parseMapsLine line = .ok region)
    (std : RegionSort) :
    getMemoryRegions std (some text) =
      .ok (std.sort
        ((lines newline text).filterMap accepted)) := by
  rw [getMemoryRegions, readLines_opened,
    funext parseLine_eq, collect_of_noThrow hNoThrow]
  rfl

/- Only a line that throws keeps the regions from a caller. -/
theorem skipsMalformed_iff_noThrow
    (std : RegionSort)
    (text : List Byte) :
    SkipsMalformed std text ↔
      ∀ line ∈ lines newline text,
        ∃ region, parseMapsLine line = .ok region := by
  constructor
  · exact SkipsMalformed.noThrow
  · intro hNoThrow
    exact ⟨hNoThrow, _,
      getMemoryRegions_of_noThrow hNoThrow std,
      std.sorted _, std.perm _⟩

end MemoryControl

end AnDbg

------------------------------------------------------------
-- Lines That Throw
------------------------------------------------------------

namespace AnDbg

namespace MemoryControl

open Conversion Fields InputStream Lines

/- The texts before and behind the first hyphen of a word. -/
def startText (addressRange : StdString) : StdString :=
  addressRange.take (addressRange.idxOf hyphen)

def endText (addressRange : StdString) : StdString :=
  addressRange.drop (addressRange.idxOf hyphen + 1)

/-
  Unless the first word of a line has no hyphen, addresses
  are before and behind it, and if these are in order, the
  third and the fifth word begin with numbers.
-/
def Convertible (line : StdString) : Prop :=
  let words := fields isSpace line
  let addressRange := words.headD []
  hyphen ∈ addressRange →
    Fits 16 (startText addressRange) ∧
      Fits 16 (endText addressRange) ∧
      ∀ startAddress endAddress,
        stoull 16 (startText addressRange) =
            .ok startAddress →
        stoull 16 (endText addressRange) = .ok endAddress →
        startAddress < endAddress →
        Fits 16 (words.getD 2 []) ∧ Fits 10 (words.getD 4 [])

variable {addressRange : StdString}

/- Both checks of the addresses are for their order. -/
theorem parseAddressRange_of_mem
    (hHyphen : hyphen ∈ addressRange) :
    parseAddressRange addressRange = (do
      let startAddress ← stoull 16 (startText addressRange)
      let endAddress ← stoull 16 (endText addressRange)
      return if startAddress < endAddress then
        some (startAddress, endAddress) else none) := by
  rw [parseAddressRange,
    if_pos (List.contains_iff_mem.mpr hHyphen)]
  apply bind_congr
  intro startAddress
  apply bind_congr
  intro endAddress
  by_cases hOrder : startAddress < endAddress
  · have hSize : endAddress - startAddress ≠ 0 := by
      intro hZero
      rw [BitVec.sub_eq_iff_eq_add.mp hZero] at hOrder
      simp at hOrder
    rw [if_neg hSize, if_neg (BitVec.not_le.mpr hOrder),
      if_pos hOrder]
  · rw [if_neg hOrder, if_pos (BitVec.not_lt.mp hOrder)]
    split
    next => rfl
    next => rfl

theorem parseAddressRange_isOk_iff :
    (∃ addresses,
        parseAddressRange addressRange = .ok addresses) ↔
      (hyphen ∈ addressRange →
        Fits 16 (startText addressRange) ∧
          Fits 16 (endText addressRange)) := by
  by_cases hHyphen : hyphen ∈ addressRange
  · rw [parseAddressRange_of_mem hHyphen, bind_isOk_iff,
      ← stoull_isOk_iff, ← stoull_isOk_iff]
    simp only [bind_isOk_iff]
    constructor
    · rintro ⟨s, hStart, e, hEnd, -⟩ _
      exact ⟨⟨s, hStart⟩, e, hEnd⟩
    · intro hFits
      rcases hFits hHyphen with ⟨⟨s, hStart⟩, e, hEnd⟩
      exact ⟨s, hStart, e, hEnd, _, rfl⟩
  · rw [parseAddressRange,
      if_neg fun hMem => hHyphen (List.contains_iff_mem.mp hMem)]
    exact ⟨fun _ hMem => absurd hMem hHyphen,
      fun _ => ⟨none, rfl⟩⟩

/- The addresses of a line that is read on. -/
theorem parseAddressRange_eq_some_iff
    {startAddress endAddress : Addr} :
    parseAddressRange addressRange =
        .ok (some (startAddress, endAddress)) ↔
      hyphen ∈ addressRange ∧
        stoull 16 (startText addressRange) =
          .ok startAddress ∧
        stoull 16 (endText addressRange) = .ok endAddress ∧
        startAddress < endAddress := by
  by_cases hHyphen : hyphen ∈ addressRange
  · rw [parseAddressRange_of_mem hHyphen]
    cases hStart : stoull 16 (startText addressRange) with
    | error e => simp [bind, Except.bind]
    | ok s =>
        cases hEnd : stoull 16 (endText addressRange) with
        | error e => simp [bind, Except.bind]
        | ok e =>
            by_cases hOrder : s < e
            · simp only [bind, Except.bind, pure, Except.pure,
                if_pos hOrder]
              grind
            · simp only [bind, Except.bind, pure, Except.pure,
                if_neg hOrder]
              grind
  · rw [parseAddressRange,
      if_neg fun hMem => hHyphen (List.contains_iff_mem.mp hMem)]
    constructor
    · intro hNone
      cases hNone
    · rintro ⟨hMem, -⟩
      exact absurd hMem hHyphen

/- The words that must be numbers, behind the addresses. -/
theorem parseFields_isOk_iff
    (startAddress endAddress : Addr)
    (iss : InputStream) :
    (∃ region,
        parseFields startAddress endAddress iss =
          .ok region) ↔
      Fits 16 (iss.words.getD 1 []) ∧
        Fits 10 (iss.words.getD 3 []) := by
  have hSecond (iss : InputStream) :
      ((iss.extract []).2.extract []).1 =
        iss.words.getD 1 [] := by
    rw [(extract_spec [] _).1, (extract_spec [] iss).2.1]
    rcases iss.words with - | ⟨w, - | ⟨w', ws⟩⟩
    · rfl
    · rfl
    · rfl
  have hBehind (iss : InputStream) :
      ((iss.extract []).2.extract []).2.words =
        iss.words.drop 2 := by
    rw [(extract_spec [] _).2.1, (extract_spec [] iss).2.1,
      ← List.drop_one, ← List.drop_one, List.drop_drop]
  have hFourth :
      (iss.words.drop 2).getD 1 [] = iss.words.getD 3 [] := by
    simp
  rw [← hFourth, ← hBehind, ← hSecond, ← hSecond,
    ← stoull_isOk_iff, ← stoull_isOk_iff]
  unfold parseFields
  simp only [bind_isOk_iff]
  constructor
  · rintro ⟨offset, hOffset, inode, hInode, -⟩
    exact ⟨⟨offset, hOffset⟩, inode, hInode⟩
  · rintro ⟨⟨offset, hOffset⟩, inode, hInode⟩
    exact ⟨offset, hOffset, inode, hInode, _, rfl⟩

/- A line throws exactly if it is not convertible. -/
theorem parseMapsLine_isOk_iff
    (line : StdString) :
    (∃ region, parseMapsLine line = .ok region) ↔
      Convertible line := by
  rcases extract_spec [] (opened line) with ⟨hRange, hRest, -⟩
  rw [words_opened] at hRange hRest
  unfold parseMapsLine Convertible
  dsimp only
  rw [bind_isOk_iff, ← hRange]
  generalize (opened line).extract [] = done at *
  rcases done with ⟨addressRange, iss⟩
  have hWords (i : Nat) :
      iss.words.getD i [] =
        (fields isSpace line).getD (i + 1) [] := by
    rw [hRest]
    rcases fields isSpace line with - | ⟨w, ws⟩
    · rfl
    · rfl
  rw [← hWords 1, ← hWords 3]
  constructor
  · rintro ⟨addresses, hParse, region, hRegion⟩ hHyphen
    rcases parseAddressRange_isOk_iff.mp ⟨_, hParse⟩ hHyphen
      with ⟨hStart, hEnd⟩
    refine ⟨hStart, hEnd, ?_⟩
    intro startAddress endAddress hs he hOrder
    have hSome := parseAddressRange_eq_some_iff.mpr
      ⟨hHyphen, hs, he, hOrder⟩
    rw [hParse] at hSome
    cases hSome
    rcases bind_isOk_iff.mp ⟨_, hRegion⟩ with ⟨found, hFound, -⟩
    exact (parseFields_isOk_iff _ _ iss).mp ⟨found, hFound⟩
  · intro hConvertible
    rcases parseAddressRange_isOk_iff.mpr
        (fun hMem => ⟨(hConvertible hMem).1,
          (hConvertible hMem).2.1⟩) with
      ⟨addresses, hParse⟩
    refine ⟨addresses, hParse, ?_⟩
    rcases addresses with - | ⟨startAddress, endAddress⟩
    · exact ⟨none, rfl⟩
    · rcases parseAddressRange_eq_some_iff.mp hParse with
        ⟨hMem, hs, he, hOrder⟩
      have hFits :=
        (hConvertible hMem).2.2 _ _ hs he hOrder
      rcases (parseFields_isOk_iff startAddress endAddress
        iss).mpr hFits with ⟨region, hRegion⟩
      dsimp only
      rw [hRegion]
      exact ⟨some region, rfl⟩

theorem skipsMalformed_iff
    (std : RegionSort)
    (text : List Byte) :
    SkipsMalformed std text ↔
      ∀ line ∈ lines newline text, Convertible line := by
  rw [skipsMalformed_iff_noThrow]
  simp only [parseMapsLine_isOk_iff]

end MemoryControl

/- The merge sort of the regions. -/
def RegionSort.merge : RegionSort where
  sort regions :=
    regions.mergeSort fun a b => a.startAddress ≤ b.startAddress
  perm regions := List.mergeSort_perm regions _
  sorted regions := by
    let le (a b : MemoryRegion) : Bool :=
      decide (a.startAddress ≤ b.startAddress)
    have hTrans (a b c : MemoryRegion)
        (hab : le a b = true)
        (hbc : le b c = true) : le a c = true :=
      decide_eq_true (BitVec.le_trans (of_decide_eq_true hab)
        (of_decide_eq_true hbc))
    have hTotal (a b : MemoryRegion) :
        (le a b || le b a) = true := by
      simpa [le] using
        BitVec.le_total a.startAddress b.startAddress
    have hSorted :=
      List.pairwise_mergeSort hTrans hTotal regions
    exact hSorted.imp fun hLe => of_decide_eq_true hLe

namespace MemoryControl

open InputStream

/- A line that throws costs the region of another line. -/
theorem not_skipsMalformed_letters :
    let text := ascii "1-2 r--p 0 0:0 5\nx-y r--p 0 0:0 5\n"
    getMemoryRegions .merge (some text) =
        .error .invalidArgument ∧
      (accepted (ascii "1-2 r--p 0 0:0 5")).isSome ∧
      ¬ SkipsMalformed .merge text := by
  intro text
  refine ⟨?_, by decide, ?_⟩
  · rw [getMemoryRegions, readLines_opened]
    decide
  · intro hSkips
    rcases hSkips.noThrow (ascii "x-y r--p 0 0:0 5")
      (by decide) with ⟨region, hRegion⟩
    have hThrows :
        parseMapsLine (ascii "x-y r--p 0 0:0 5") =
          .error .invalidArgument := by
      decide
    rw [hThrows] at hRegion
    cases hRegion

end MemoryControl

end AnDbg
