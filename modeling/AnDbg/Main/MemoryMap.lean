import AnDbg.Core.MemoryControl.MapsText
import AnDbg.Main.SavedMemory

/-
  What `get_memory_regions` sends of a memory map.

  The reply has an object for each region, in ascending
  order.  The end of a region is not sent; it is the start
  and the size, so a client has the whole map, and it has
  the records of the map's text.

  Main declarations:
    * `AnDbg.Main.describedRegion`
    * `AnDbg.Main.describedRegion_regionEntry`
    * `AnDbg.Main.mapReply`
    * `AnDbg.Main.memory_map_sent`
-/

------------------------------------------------------------
-- Entries
------------------------------------------------------------

namespace AnDbg

namespace Main

/- The text of a field. -/
def textField
    (key : String)
    (entry : Json) : Option StdString :=
  match entry.field (ascii key) with
  | some (.string s) => some s
  | _ => none

/- The number of a field. -/
def numberField
    (lib : Nlohmann)
    (key : String)
    (entry : Json) : Option (BitVec 64) :=
  (entry.field (ascii key)).bind lib.number

/- The region that a client makes of an entry. -/
def describedRegion
    (lib : Nlohmann)
    (entry : Json) : Option MemoryRegion := do
  let startAddress ← numberField lib "start_address" entry
  let size ← numberField lib "size" entry
  let offset ← numberField lib "offset" entry
  let device ← textField "device" entry
  let inode ← numberField lib "inode" entry
  let permissions ← textField "permissions" entry
  let pathname ← textField "pathname" entry
  return {
    startAddress := startAddress
    endAddress := startAddress + size
    size := size
    permissions := permissions
    offset := offset
    device := device
    inode := inode
    pathname := pathname }

/- An entry describes its region. -/
theorem describedRegion_regionEntry
    (lib : Nlohmann)
    {region : MemoryRegion}
    (hSize :
      region.size = region.endAddress - region.startAddress) :
    describedRegion lib (regionEntry region) = some region := by
  have hNumber (key : String) (number : BitVec 64)
      (hField :
        (regionEntry region).field (ascii key) =
          some (.integer number.toNat)) :
      numberField lib key (regionEntry region) =
        some number := by
    rw [numberField, hField]
    exact number_integer lib number
  have hText (key : String) (text : StdString)
      (hField :
        (regionEntry region).field (ascii key) =
          some (.string text)) :
      textField key (regionEntry region) = some text := by
    rw [textField, hField]
  have hEnd :
      region.startAddress + region.size = region.endAddress := by
    rw [hSize, BitVec.add_comm, BitVec.sub_add_cancel]
  unfold describedRegion
  rw [hNumber "start_address" region.startAddress rfl,
    hNumber "size" region.size rfl,
    hNumber "offset" region.offset rfl,
    hText "device" region.device rfl,
    hNumber "inode" region.inode rfl,
    hText "permissions" region.permissions rfl,
    hText "pathname" region.pathname rfl]
  simp only [Option.bind_eq_bind, Option.bind_some,
    Option.pure_def, hEnd]

/- All regions are found again, in their order. -/
theorem mapM_describedRegion
    (lib : Nlohmann)
    {regions : List MemoryRegion}
    (hSizes :
      ∀ region ∈ regions,
        region.size = region.endAddress - region.startAddress) :
    (regions.map regionEntry).mapM (describedRegion lib) =
      some regions := by
  induction regions with
  | nil => rfl
  | cons region regions ih =>
      rcases List.forall_mem_cons.mp hSizes with
        ⟨hHere, hLater⟩
      rw [List.map_cons, List.mapM_cons,
        describedRegion_regionEntry lib hHere, ih hLater]
      rfl

end Main

end AnDbg

------------------------------------------------------------
-- The Map And The Reply
------------------------------------------------------------

namespace AnDbg

namespace Main

open InputStream Lines MemoryControl

variable {κ : Type}
variable [ProcFiles κ]
variable {records : List MapsRecord} {text : List Byte}
variable {c : DebuggerCore} {k k' : κ}

/- The reply to a request, given the regions of the map. -/
theorem getMemoryRegionsHandler_of_read
    {regions : List MemoryRegion}
    (lib : Library)
    (std : RegionSort)
    (params : StdString)
    (hMaps : ProcFiles.maps c.pid k = (some text, k'))
    (hRead : getMemoryRegions std (some text) = .ok regions) :
    getMemoryRegionsHandler lib std params (c, k) =
      some
        (if regions = [] then
          .ok (.fail (utf8 "get_memory_regions 失败"))
        else
          (lib.tryDump
            (.array (regions.map regionEntry))).map .success,
          (c, k')) := by
  unfold getMemoryRegionsHandler
  dsimp only
  rw [hMaps]
  dsimp only
  unfold DebuggerCore.getMemoryRegions
  rw [hRead]
  by_cases hNone : regions = []
  · rw [if_pos hNone, hNone]
    rfl
  · have hEntries :
        pushAll regionEntry regions =
          .array (regions.map regionEntry) :=
      foldl_pushBack hNone regionEntry
    rw [if_neg hNone, ← hEntries]
    simp only [bind, Except.bind, if_neg hNone]
    rfl

/- The value that is sent for the records of a map. -/
def mapReply
    (std : RegionSort)
    (records : List MapsRecord) : Json :=
  .array
    ((std.sort (records.map MapsRecord.region)).map regionEntry)

/-
  However the text of a map is laid out, a client parses the
  reply to a list and gets from it the regions that the
  records stand for, each as often as it is there, by
  ascending start, and nothing else.  Where the list cannot
  be dumped the reply is the error, and a map without
  records is reported as a failure.  The debugger is as it
  was.
-/
theorem memory_map_sent
    (lib : Library)
    (std : RegionSort)
    (params : StdString)
    (hText : WritesMaps records text)
    (hMaps : ProcFiles.maps c.pid k = (some text, k'))
    (hInverse :
      ∀ reply, lib.tryDump (mapReply std records) = .ok reply →
        lib.parse reply = .ok (mapReply std records)) :
    let done := getMemoryRegionsHandler lib std params (c, k)
    (records = [] →
      done =
        some (.ok (.fail (utf8 "get_memory_regions 失败")),
          (c, k'))) ∧
      (records ≠ [] →
        (∀ reply,
          lib.tryDump (mapReply std records) = .ok reply →
            done = some (.ok (.success reply), (c, k')) ∧
              ∃ entries regions,
                lib.parse reply = .ok (.array entries) ∧
                  entries.mapM
                      (describedRegion lib.toNlohmann) =
                    some regions ∧
                  regions.Pairwise
                    (fun a b =>
                      a.startAddress ≤ b.startAddress) ∧
                  regions.Perm
                    (records.map MapsRecord.region)) ∧
          ∀ what,
            lib.tryDump (mapReply std records) = .error what →
              done = some (.error what, (c, k'))) := by
  intro done
  rcases parsed_of_writesMaps hText with ⟨hNoThrow, hParsed⟩
  have hRead := getMemoryRegions_of_noThrow hNoThrow std
  have hPerm := std.perm (records.map MapsRecord.region)
  rw [hParsed] at hRead
  have hDone :=
    getMemoryRegionsHandler_of_read lib std params hMaps hRead
  change done = _ at hDone
  constructor
  · intro hNone
    rw [hNone] at hPerm hDone
    rw [hDone, if_pos hPerm.eq_nil]
  · intro hSome
    have hRegions :
        std.sort (records.map MapsRecord.region) ≠ [] := by
      intro hEmpty
      rw [hEmpty] at hPerm
      exact hSome (List.map_eq_nil_iff.mp hPerm.symm.eq_nil)
    rw [if_neg hRegions] at hDone
    change done =
      some ((lib.tryDump (mapReply std records)).map .success,
        (c, k')) at hDone
    constructor
    · intro reply hDump
      rw [hDone, hDump]
      refine ⟨rfl, _, _, hInverse reply hDump,
        mapM_describedRegion _ ?_, std.sorted _, hPerm⟩
      intro region hMem
      rcases List.mem_map.mp (hPerm.mem_iff.mp hMem) with
        ⟨record, -, rfl⟩
      rfl
    · intro what hThrows
      rw [hDone, hThrows]
      rfl

end Main

end AnDbg

------------------------------------------------------------
-- A Map In The Model
------------------------------------------------------------

namespace AnDbg

/- A system of which only a memory map is looked at. -/
structure MapsFile where
  text : List Byte

instance : ProcFiles MapsFile where
  procTable t := (⟨none, fun _ => none⟩, t)
  maps _ t := (some t.text, t)

namespace Main

open InputStream MemoryControl

/- A file with a blank in its path. -/
def mappedFile : MapsRecord where
  startAddress := 0x20
  endAddress := 0x2a
  permissions := ascii "r--p"
  offset := 0
  device := ascii "8:1"
  inode := 12
  pathname := ascii "/a b"
  ordered := by decide
  permissionsWord := ⟨by decide, by decide⟩
  deviceWord := ⟨by decide, by decide⟩
  isPath := ⟨by decide, by decide⟩

/- Memory below it. -/
def anonymous : MapsRecord where
  startAddress := 0x10
  endAddress := 0x1f
  permissions := ascii "rw-p"
  offset := 0
  device := ascii "0:0"
  inode := 0
  pathname := []
  ordered := by decide
  permissionsWord := ⟨by decide, by decide⟩
  deviceWord := ⟨by decide, by decide⟩
  isPath := ⟨by decide, by decide⟩

/- The text that is sent for the two. -/
def mapText : StdString :=
  ascii ("[\x7b\"device\":\"0:0\",\"inode\":0,\"offset\":0,"
    ++ "\"pathname\":\"[anonymous]\","
    ++ "\"permissions\":\"rw-p\","
    ++ "\"size\":15,\"start_address\":16\x7d,"
    ++ "\x7b\"device\":\"8:1\",\"inode\":12,\"offset\":0,"
    ++ "\"pathname\":\"/a b\",\"permissions\":\"r--p\","
    ++ "\"size\":10,\"start_address\":32\x7d]")

/- The library, for this text. -/
def mapLibrary : Library where
  parse text :=
    if text = mapText then
      .ok (.array
        [regionEntry anonymous.region,
          regionEntry mappedFile.region])
    else
      .error (ascii "parse error")
  dump := rowsText
  castFloat _ := 0
  what _ := []
  castInt _ := 0
  castByte _ := 0
  tryDump json := .ok (rowsText json)
  whatConversion _ := []

/- The two in a map, the file first. -/
def twoMaps : MapsFile where
  text :=
    ascii "20-2a r--p 0 8:1 12  /a b"
      ++ newline :: ascii "10-1f rw-p 0 0:0 0"

/- They are sorted by their starts. -/
theorem mapReply_two :
    mapReply .merge [mappedFile, anonymous] =
      .array
        [regionEntry anonymous.region,
          regionEntry mappedFile.region] := by
  have hStart :
      ¬ mappedFile.region.startAddress ≤
        anonymous.region.startAddress := by decide
  unfold mapReply RegionSort.merge
  dsimp only [List.map_cons, List.map_nil]
  rw [List.mergeSort.eq_def]
  simp [List.MergeSort.Internal.splitInTwo, hStart]

/- The two are sent by ascending start. -/
theorem memory_map_sent_two :
    getMemoryRegionsHandler mapLibrary .merge []
        (DebuggerCore.init, twoMaps) =
      some (.ok (.success mapText),
        (DebuggerCore.init, twoMaps)) ∧
    ∃ entries regions,
      mapLibrary.parse mapText = .ok (.array entries) ∧
        entries.mapM (describedRegion mapLibrary.toNlohmann) =
          some regions ∧
        regions.Pairwise
          (fun a b => a.startAddress ≤ b.startAddress) ∧
        regions.Perm
          ([mappedFile, anonymous].map MapsRecord.region) := by
  have hBlank : IsBlank (ascii " ") := ⟨by decide, by decide⟩
  have hFile :
      WritesRecord mappedFile
        (ascii "20-2a r--p 0 8:1 12  /a b") :=
    @WritesRecord.line mappedFile (ascii "20") (ascii "2a")
      (ascii "0") (ascii "12") (ascii " ") (ascii " ")
      (ascii " ") (ascii " ") (ascii "  ")
      ⟨by decide, [2, 0], by decide, by decide⟩
      ⟨by decide, [2, 10], by decide, by decide⟩
      ⟨by decide, [0], by decide, by decide⟩
      ⟨by decide, [1, 2], by decide, by decide⟩
      (by simpa using ⟨hBlank, by decide⟩)
      ⟨by decide, by decide⟩ (by decide)
  have hAnonymous :
      WritesRecord anonymous (ascii "10-1f rw-p 0 0:0 0") :=
    @WritesRecord.line anonymous (ascii "10") (ascii "1f")
      (ascii "0") (ascii "0") (ascii " ") (ascii " ")
      (ascii " ") (ascii " ") []
      ⟨by decide, [1, 0], by decide, by decide⟩
      ⟨by decide, [1, 15], by decide, by decide⟩
      ⟨by decide, [0], by decide, by decide⟩
      ⟨by decide, [0], by decide, by decide⟩
      (by simpa using ⟨hBlank, by decide⟩)
      ⟨by decide, by decide⟩ (by decide)
  have hText : WritesMaps [mappedFile, anonymous] twoMaps.text :=
    .record hFile (.lastRecord hAnonymous)
  have hMaps :
      ProcFiles.maps DebuggerCore.init.pid twoMaps =
        (some twoMaps.text, twoMaps) := rfl
  have hDump :
      mapLibrary.tryDump
          (mapReply .merge [mappedFile, anonymous]) =
        .ok mapText := by
    rw [mapReply_two]
    exact congrArg Except.ok (by decide +kernel)
  have hInverse :
      ∀ reply,
        mapLibrary.tryDump
            (mapReply .merge [mappedFile, anonymous]) =
          .ok reply →
        mapLibrary.parse reply =
          .ok (mapReply .merge [mappedFile, anonymous]) := by
    intro reply hReplied
    rw [hDump] at hReplied
    rw [← Except.ok.inj hReplied]
    rw [mapReply_two]
    unfold mapLibrary
    dsimp only
    rw [if_pos rfl]
  have hSome : [mappedFile, anonymous] ≠ [] := List.cons_ne_nil _ _
  exact ((memory_map_sent mapLibrary .merge [] hText hMaps
    hInverse).2 hSome).1 mapText hDump

end Main

end AnDbg
