import AnDbg.Core.MemoryControl.Writing
import AnDbg.Main.Actions

/-
  What `read_memory` has sent can be sent back.

  The reply carries the bytes of a range as numbers, and
  `write_memory` takes numbers for bytes, so a client that
  returns the address and the data of a reply has the range
  as it was when it was read.  Nothing is asked of what
  happened in between.

  Main declarations:
    * `AnDbg.Main.readMemoryHandler_of_canRead`
    * `AnDbg.Main.writeMemoryHandler_of_reply`
    * `AnDbg.Main.memory_restored`
-/

------------------------------------------------------------
-- Replies To Reads
------------------------------------------------------------

namespace AnDbg

namespace Main

open ByteMemory ProcessMemory RPCServer

variable {κ : Type}
variable [Kernel κ] [ProcessMemory κ]
variable {memory : κ → Memory}
variable {lib : Nlohmann} {host : Host}
variable {params : StdString} {jsonData : Json}
variable {address : Addr} {size : BitVec 64}
variable {c : DebuggerCore} {k : κ}

/- The object that describes a range of the memory. -/
def rangeReply
    (memory : Memory)
    (address : Addr)
    (size : BitVec 64) : Json :=
  memoryReply address size (read memory address size.toNat)

omit [Kernel κ] in
/- The buffer of a read that can be made. -/
theorem readMemory_of_canRead
    (hLaws : ReadLaws memory)
    (hFits : size.toNat < 2 ^ 63)
    (hCan :
      CanRead c.pid address (List.replicate size.toNat 0)
        size.toNat k) :
    (readMemory c.pid address (List.replicate size.toNat 0)
        size.toNat k).2.1 =
      read (memory k) address size.toNat := by
  have hLength :
      (List.replicate size.toNat 0#8).length = size.toNat :=
    List.length_replicate
  have hDone :=
    readMemory_done hLaws c.pid address hFits hLength.ge k
  have hTrue := (readMemory_fst_iff _ _ _ _ _).mpr hCan
  rcases hDone with ⟨hSame, -, hBytes⟩
  have hAll := List.take_of_length_le (hSame.trans hLength).le
  exact hAll.symm.trans (hBytes hTrue)

/- The handler ends with a reply if it has its buffer. -/
theorem readMemoryHandler_ends
    (hParse : lib.parse params = .ok jsonData)
    (hRange :
      addressAndSize lib jsonData = some (address, size))
    (hAllocate : allocate host size.toNat = .ok ())
    (c : DebuggerCore)
    (k : κ) :
    ∃ status,
      (readMemoryHandler lib host params (c, k)).1 =
        .ok status := by
  unfold readMemoryHandler
  simp only [hParse, hRange, hAllocate]
  split
  next => exact ⟨_, rfl⟩
  next => exact ⟨_, rfl⟩

/- The reply to a request for a range that can be read. -/
theorem readMemoryHandler_of_canRead
    (hLaws : ReadLaws memory)
    (hParse : lib.parse params = .ok jsonData)
    (hRange :
      addressAndSize lib jsonData = some (address, size))
    (hAllocate : allocate host size.toNat = .ok ())
    (hAddress : address ≠ 0)
    (hSize : size ≠ 0)
    (hCan :
      CanRead c.pid address (List.replicate size.toNat 0)
        size.toNat k) :
    (readMemoryHandler lib host params (c, k)).1 =
      .ok (.success
        (lib.dump (rangeReply (memory k) address size))) := by
  rcases readMemoryHandler_ends hParse hRange hAllocate c k with
    ⟨status, hStatus⟩
  rcases readMemoryHandler_proper hParse hRange hAddress hSize
      hStatus with ⟨hFits, rfl⟩
  rw [hStatus, readMemory_of_canRead hLaws hFits hCan]
  rfl

/- A reply was sent only if there was room for the range. -/
theorem allocate_of_reply
    {status : Status}
    (hParse : lib.parse params = .ok jsonData)
    (hRange :
      addressAndSize lib jsonData = some (address, size))
    (hStatus :
      (readMemoryHandler lib host params (c, k)).1 =
        .ok status) :
    allocate host size.toNat = .ok () := by
  unfold readMemoryHandler at hStatus
  simp only [hParse, hRange] at hStatus
  cases hAllocate : allocate host size.toNat with
  | error e =>
      rw [hAllocate] at hStatus
      cases hStatus
  | ok _ => rfl

end Main

end AnDbg

------------------------------------------------------------
-- Writing A Reply Back
------------------------------------------------------------

namespace AnDbg

namespace Main

open ByteMemory ProcessMemory RPCServer

variable {lib : Library}

/- A byte that was sent as a number is the byte again. -/
theorem byte_integer
    (lib : Library)
    (b : Byte) :
    lib.byte (.integer b.toNat) = some b := by
  change some (BitVec.ofInt 8 b.toNat) = some b
  rw [BitVec.ofInt_natCast, BitVec.ofNat_toNat,
    BitVec.setWidth_eq]

theorem mapM_byte
    (lib : Library)
    (data : List Byte) :
    (data.map fun b => Json.integer b.toNat).mapM lib.byte =
      some data := by
  induction data with
  | nil => rfl
  | cons b data ih =>
      rw [List.map_cons, List.mapM_cons, byte_integer, ih]
      rfl

/- An address that was sent as a number is the address. -/
theorem number_integer
    (lib : Nlohmann)
    (address : Addr) :
    lib.number (.integer address.toNat) = some address := by
  change some (BitVec.ofInt 64 address.toNat) = some address
  rw [BitVec.ofInt_natCast, BitVec.ofNat_toNat,
    BitVec.setWidth_eq]

/- The parameters that a reply names. -/
theorem addressAndData_of_reply
    {request : Json}
    {address : Addr}
    {size : BitVec 64}
    {data : List Byte}
    (hAddress :
      request.field (ascii "address") =
        (memoryReply address size data).field
          (ascii "address"))
    (hData :
      request.field (ascii "data") =
        (memoryReply address size data).field
          (ascii "data")) :
    addressAndData lib request =
      some (address,
        data.map fun b => Json.integer b.toNat) := by
  have hHere :
      (memoryReply address size data).field
          (ascii "address") =
        some (.integer address.toNat) := rfl
  have hThere :
      (memoryReply address size data).field (ascii "data") =
        some (.array (data.map fun b => .integer b.toNat)) :=
    rfl
  unfold addressAndData
  rw [hAddress, hData, hHere, hThere]
  dsimp only
  rw [number_integer]
  rfl

variable {κ : Type}
variable [Kernel κ] [MemoryControl κ]

/- A reply that is sent back is written. -/
theorem writeMemoryHandler_of_reply
    {params : StdString}
    {request : Json}
    {address : Addr}
    {size : BitVec 64}
    {data : List Byte}
    (hParse : lib.parse params = .ok request)
    (hAddress :
      request.field (ascii "address") =
        (memoryReply address size data).field
          (ascii "address"))
    (hData :
      request.field (ascii "data") =
        (memoryReply address size data).field (ascii "data"))
    (s : DebuggerCore × κ) :
    writeMemoryHandler lib params s =
      some (returned
        (keeping s.1 (s.1.writeMemory address data s.2))) := by
  unfold writeMemoryHandler parsing
  rw [hParse]
  dsimp only
  rw [addressAndData_of_reply hAddress hData]
  dsimp only
  rw [mapM_byte]

end Main

end AnDbg

------------------------------------------------------------
-- Saving And Restoring
------------------------------------------------------------

namespace AnDbg

namespace Main

open ByteMemory ProcessMemory RPCServer

variable {κ : Type}
variable [Kernel κ] [ProcessMemory κ]
variable {memory : κ → Memory}

/- What a write of a whole range in one call leaves. -/
theorem writeMemory_of_whole
    (hLaws : WriteLaws memory)
    {c : DebuggerCore}
    {address : Addr}
    {data : List Byte}
    {k : κ}
    (hAddress : address ≠ 0)
    (hData : data ≠ [])
    (hFits : data.length < 2 ^ 63)
    (hWhole :
      (processVmWritev c.pid address data data.length k).1 =
        data.length) :
    (c.writeMemory address data k).1.isSuccess = true ∧
      memory (c.writeMemory address data k).2 =
        write (memory k) address data := by
  have hDone :
      MemoryControl.writeMemory c.pid address data k =
        (true,
          (processVmWritev c.pid address data data.length
            k).2) := by
    change ProcessMemory.writeMemory _ _ _ _ _ = _
    unfold ProcessMemory.writeMemory
    dsimp only
    rw [ssize_of_lt hFits, if_pos hWhole]
  unfold DebuggerCore.writeMemory
  rw [if_neg hAddress, if_neg hData, hDone]
  refine ⟨rfl, ?_⟩
  rcases hLaws.writev_done c.pid address data data.length k
      (le_refl _) with ⟨hNone, -⟩ | ⟨n, -, hCount, hMemory⟩
  · omega
  · have hAll : n = data.length := by omega
    rw [hAll, List.take_length] at hMemory
    exact hMemory

/-
  A client reads a range, and later, whatever has happened
  to the debugger and the target, sends the address and the
  data of the reply back.  If one call writes the range, the
  write is a success; every byte of the range is as it was
  when it was read, every other byte as it was before the
  write; and the first request, if it can be made, is
  answered with the same reply.
-/
theorem memory_restored
    (hReads : ReadLaws memory)
    (hWrites : WriteLaws memory)
    (lib : Library)
    (host : Host)
    (params params' text : StdString)
    (jsonData reply request : Json)
    (address : Addr)
    (size : BitVec 64)
    (c c' : DebuggerCore)
    (k k' : κ)
    (hParse : lib.parse params = .ok jsonData)
    (hRange :
      addressAndSize lib.toNlohmann jsonData =
        some (address, size))
    (hAddress : address ≠ 0)
    (hSize : size ≠ 0)
    (hCan :
      CanRead c.pid address (List.replicate size.toNat 0)
        size.toNat k)
    (hText :
      (readMemoryHandler lib.toNlohmann host params (c, k)).1 =
        .ok (.success text))
    (hReply : lib.parse text = .ok reply)
    (hInverse :
      let sent := rangeReply (memory k) address size
      lib.parse (lib.dump sent) = .ok sent)
    (hRequest : lib.parse params' = .ok request)
    (hBack :
      request.field (ascii "address") =
        reply.field (ascii "address"))
    (hData :
      request.field (ascii "data") =
        reply.field (ascii "data"))
    (hWhole :
      (processVmWritev c'.pid address
          (read (memory k) address size.toNat) size.toNat
          k').1 = size.toNat) :
    ∃ status k'',
      writeMemoryHandler lib params' (c', k') =
          some (.ok status, (c', k'')) ∧
        status.isSuccess = true ∧
        (∀ x,
          memory k'' x =
            if Covers address size.toNat x then memory k x
            else memory k' x) ∧
        (CanRead c'.pid address (List.replicate size.toNat 0)
            size.toNat k'' →
          (readMemoryHandler lib.toNlohmann host params
            (c', k'')).1 = .ok (.success text)) := by
  let saved := read (memory k) address size.toNat
  have hLength : saved.length = size.toNat := length_read _ _ _
  have hAllocate := allocate_of_reply hParse hRange hText
  have hFits : size.toNat < 2 ^ 63 :=
    (readMemoryHandler_proper hParse hRange hAddress hSize
      hText).1
  have hNonempty : saved ≠ [] := by
    intro hNil
    apply hSize
    apply BitVec.eq_of_toNat_eq
    rw [← hLength, hNil]
    rfl
  -- the text is the reply for the range as it was read
  have hSent :
      text = lib.dump (rangeReply (memory k) address size) := by
    rw [readMemoryHandler_of_canRead hReads hParse hRange
      hAllocate hAddress hSize hCan] at hText
    cases hText
    rfl
  have hFound :
      reply = rangeReply (memory k) address size := by
    rw [hSent, hInverse] at hReply
    exact (Except.ok.inj hReply).symm
  rw [hFound] at hBack hData
  have hWhole :
      (processVmWritev c'.pid address saved saved.length
          k').1 = saved.length := by
    rw [hLength]
    exact hWhole
  have hWritten :=
    writeMemory_of_whole hWrites hAddress hNonempty
      (hLength ▸ hFits) hWhole
  have hMemory (x : Addr) :
      memory (c'.writeMemory address saved k').2 x =
        if Covers address size.toNat x then memory k x
        else memory k' x := by
    rw [hWritten.2]
    exact write_read (memory k) (memory k') address _ x
  refine ⟨(c'.writeMemory address saved k').1,
    (c'.writeMemory address saved k').2,
    writeMemoryHandler_of_reply hRequest hBack hData (c', k'),
    hWritten.1, hMemory, ?_⟩
  intro hCanAgain
  rw [readMemoryHandler_of_canRead hReads hParse hRange
    hAllocate hAddress hSize hCanAgain, hSent]
  have hSame :
      read (memory (c'.writeMemory address saved k').2) address
          size.toNat =
        saved := by
    apply read_congr
    intro i hi
    rw [hMemory, if_pos]
    unfold Covers
    rw [offset_add address (by omega)]
    exact hi
  unfold rangeReply
  rw [hSame]

/-
  The library, as far as four bytes at `0x1000` that are
  zero need it.
-/
def savingLibrary : Library where
  parse text :=
    if text = ascii "\x7b\"address\":4096,\"size\":4\x7d" then
      .ok (.object
        [(ascii "address", .integer 4096),
          (ascii "size", .integer 4)])
    else if text = ascii ("\x7b\"address\":4096,"
        ++ "\"data\":[0,0,0,0],\"size\":4\x7d") then
      .ok (memoryReply 0x1000 4 [0, 0, 0, 0])
    else if text = ascii ("\x7b\"address\":4096,"
        ++ "\"data\":[0,0,0,0]\x7d") then
      .ok (.object
        [(ascii "address", .integer 4096),
          (ascii "data",
            .array (List.replicate 4 (.integer 0)))])
    else
      .error []
  dump := (simulatedLibrary 0x1000 4).dump
  castFloat _ := 0
  what _ := []
  castInt _ := 0
  castByte _ := 0
  tryDump json := .ok ((simulatedLibrary 0x1000 4).dump json)
  whatConversion _ := []

/- The page is read as zeros and has other bytes later. -/
theorem memory_restored_page :
    let p := SimulatedProcess.page true
    let p' := { p with memory := fun _ => 0x5A }
    let c := { DebuggerCore.init with pid := 7 }
    ∃ status p'',
      writeMemoryHandler savingLibrary
          (ascii ("\x7b\"address\":4096,"
            ++ "\"data\":[0,0,0,0]\x7d")) (c, p') =
          some (.ok status, (c, p'')) ∧
        status.isSuccess = true ∧
        (∀ x,
          SimulatedProcess.memory p'' x =
            if Covers 0x1000#64 (4#64).toNat x then
              SimulatedProcess.memory p x
            else SimulatedProcess.memory p' x) ∧
        (CanRead c.pid 0x1000 (List.replicate (4#64).toNat 0)
            (4#64).toNat p'' →
          (readMemoryHandler savingLibrary.toNlohmann
            ⟨true, 64⟩
            (ascii "\x7b\"address\":4096,\"size\":4\x7d")
            (c, p'')).1 =
            .ok (.success (ascii ("\x7b\"address\":4096,"
              ++ "\"data\":[0,0,0,0],\"size\":4\x7d")))) :=
  memory_restored SimulatedProcess.readLaws
    SimulatedProcess.writeLaws savingLibrary ⟨true, 64⟩ _ _ _
    (.object
      [(ascii "address", .integer 4096),
        (ascii "size", .integer 4)])
    (memoryReply 0x1000 4 [0, 0, 0, 0])
    (.object
      [(ascii "address", .integer 4096),
        (ascii "data",
          .array (List.replicate 4 (.integer 0)))])
    0x1000 4 { DebuggerCore.init with pid := 7 }
    { DebuggerCore.init with pid := 7 }
    (SimulatedProcess.page true)
    { SimulatedProcess.page true with memory := fun _ => 0x5A }
    rfl rfl (by decide) (by decide)
    ((readMemory_fst_iff _ _ _ _ _).mp (by decide)) rfl rfl rfl
    rfl rfl rfl (by decide)

end Main

end AnDbg
