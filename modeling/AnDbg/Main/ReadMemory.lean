import AnDbg.Base.Json
import AnDbg.Base.RPCServer.Model
import AnDbg.Core.DebuggerCore.Model
import AnDbg.Core.MemoryControl.Mapping

/-
  The `read_memory` command.

  Its handler zeroes a buffer, has it filled and sends it
  back unless the debugger's status is a failure.  A read
  that fails has the status of a success, so that the client
  is then given whatever is in the buffer.

  Main declarations:
    * `AnDbg.Main.readMemoryHandler`
    * `AnDbg.ReadableLaws`
    * `AnDbg.Main.TrueReply`
    * `AnDbg.Main.true_reply_iff`
-/

------------------------------------------------------------
-- The Handler
------------------------------------------------------------

namespace AnDbg

namespace Main

open Kernel RPCServer

/-
  What the handlers use of `nlohmann::json`, with the number
  that a floating-point number is cast to and the `what()`
  of an exception.
-/
structure Nlohmann where
  parse : StdString → Except StdString Json
  dump : Json → StdString
  castFloat : StdString → BitVec 64
  what : StdException → StdString

/- The number of a value that `is_number`. -/
def Nlohmann.number
    (lib : Nlohmann) : Json → Option (BitVec 64)
| .integer n => some (BitVec.ofInt 64 n)
| .float text => some (lib.castFloat text)
| _ => none

/- The two parameters of the command. -/
def addressAndSize
    (lib : Nlohmann)
    (jsonData : Json) : Option (Addr × BitVec 64) := do
  let address ← jsonData.field (ascii "address")
  let size ← jsonData.field (ascii "size")
  return (← lib.number address, ← lib.number size)

/- The JSON object that a success is answered with. -/
def memoryReply
    (address : Addr)
    (size : BitVec 64)
    (buffer : List Byte) : Json :=
  .object
    [(ascii "address", .integer address.toNat),
      (ascii "data",
        -- on the target a `char` is unsigned
        .array (buffer.map fun b => .integer b.toNat)),
      (ascii "size", .integer size.toNat)]

variable {κ : Type}
variable [Kernel κ] [MemoryControl κ]

/- The handler of `read_memory`. -/
def readMemoryHandler
    (lib : Nlohmann)
    (host : Host) : Handler (DebuggerCore × κ) :=
  fun params s =>
    match lib.parse params with
    | .error what => (.error what, s)
    | .ok jsonData =>
      match addressAndSize lib jsonData with
      | none =>
        (.ok (.fail (utf8 ("read_memory 需要 address 和 size "
          ++ "参数, 且必须是数字"))), s)
      | some (address, size) =>
        match allocate host size.toNat with
        | .error e => (.error (lib.what e), s)
        | .ok () =>
          let ((status, buffer), k) :=
            s.1.readMemory address
              (List.replicate size.toNat 0) s.2
          if status.isFail then
            (.ok status, (s.1, k))
          else
            (.ok (.success
              (lib.dump (memoryReply address size buffer))),
              (s.1, k))

end Main

end AnDbg

------------------------------------------------------------
-- True Replies
------------------------------------------------------------

namespace AnDbg

open ProcessMemory

/-
  Only bytes that are readable are copied: the ones that a
  call counts, and the eight of a word.
-/
structure ReadableLaws
    {κ : Type}
    [ProcessMemory κ]
    (readable : κ → Addr → Prop) : Prop where
  readv_readable :
    ∀ pid address buffer size (k : κ),
      readable (processVmReadv pid address buffer size k).2.2 =
        readable k
  readv_done :
    ∀ pid address buffer size (k : κ) (n : Nat),
      (processVmReadv pid address buffer size k).1 = n →
      AllMapped (readable k) address n
  peek_readable :
    ∀ pid address (k : κ),
      readable (peekData pid address k).2 = readable k
  peek_done :
    ∀ pid address (k : κ),
      Succeeds (peekData pid address k).1 →
      AllMapped (readable k) address 8

namespace Main

variable {κ : Type}
variable [ProcessMemory κ]
variable {readable : κ → Addr → Prop}
variable {pid : Pid} {address : Addr} {size : Nat}
variable {buffer : List Byte} {k : κ}

/- The bytes of words that can be read are readable. -/
theorem allMapped_of_peekable
    (hLaws : ReadableLaws readable)
    {n : Nat}
    (hWords : Peekable pid n address k) :
    AllMapped (readable k) address (8 * n) := by
  induction n generalizing address k with
  | zero => exact AllMapped.zero
  | succ n ih =>
      rcases hWords with ⟨hFirst, hRest⟩
      have hBehind := ih hRest
      rw [hLaws.peek_readable] at hBehind
      have hSucc : 8 * (n + 1) = 8 + 8 * n := by omega
      rw [hSucc, allMapped_add]
      exact ⟨hLaws.peek_done pid address k hFirst, hBehind⟩

/- The bytes of a range that can be read are readable. -/
theorem allMapped_of_canRead
    (hLaws : ReadableLaws readable)
    (hSize : size < 2 ^ 63)
    (hCan : CanRead pid address buffer size k) :
    AllMapped (readable k) address size := by
  rcases hCan with hWhole | hWords
  · rw [ssize_of_lt hSize] at hWhole
    exact hLaws.readv_done pid address buffer size k size hWhole
  · have hAll := allMapped_of_peekable hLaws hWords
    rw [hLaws.readv_readable] at hAll
    intro i hi
    apply hAll i
    unfold words
    omega

end Main

end AnDbg

------------------------------------------------------------
-- When Replies Are True
------------------------------------------------------------

namespace AnDbg

namespace Main

open ProcessMemory RPCServer

variable {κ : Type}

/-
  The status for a range is true: with a success come all
  bytes of the range, as the target has them, and a range
  that cannot be read has the status of a failure.
-/
def TrueReply
    (lib : Nlohmann)
    (memory : κ → Memory)
    (readable : κ → Addr → Prop)
    (canRead : Prop)
    (address : Addr)
    (size : BitVec 64)
    (k : κ)
    (status : Status) : Prop :=
  (status.isSuccess = true →
      ∃ data : List Byte,
        status.string =
            lib.dump (memoryReply address size data) ∧
          data.length = size.toNat ∧
          ∀ i < size.toNat,
            let place := address + BitVec.ofNat 64 i
            readable k place ∧
              data[i]? = some (memory k place)) ∧
    (¬ canRead → status.isFail = true)

/- For a proper range the debugger reports no failure. -/
theorem readMemory_proper
    [Kernel κ]
    [MemoryControl κ]
    {address : Addr}
    {buffer : List Byte}
    (hAddress : address ≠ 0)
    (hBuffer : buffer ≠ [])
    (c : DebuggerCore)
    (k : κ) :
    let done := c.readMemory address buffer k
    done.1.1.isFail = false ∧
      done.1.2 =
        (MemoryControl.readMemory c.pid address buffer k).2.1 := by
  unfold DebuggerCore.readMemory
  rw [if_neg hAddress, if_neg hBuffer]
  rcases MemoryControl.readMemory c.pid address buffer k with
    ⟨done, bytes, k'⟩
  cases done
  case true => exact ⟨rfl, rfl⟩
  case false => exact ⟨rfl, rfl⟩

variable [Kernel κ] [ProcessMemory κ]
variable {lib : Nlohmann} {host : Host}
variable {params : StdString} {jsonData : Json}
variable {address : Addr} {size : BitVec 64}
variable {c : DebuggerCore} {k : κ} {status : Status}

/- The status of the handler for a proper range. -/
theorem readMemoryHandler_proper
    (hParse : lib.parse params = .ok jsonData)
    (hRange :
      addressAndSize lib jsonData = some (address, size))
    (hAddress : address ≠ 0)
    (hSize : size ≠ 0)
    (hStatus :
      (readMemoryHandler lib host params (c, k)).1 =
        .ok status) :
    size.toNat < 2 ^ 63 ∧
      status =
        .success
          (lib.dump
            (memoryReply address size
              (readMemory c.pid address
                (List.replicate size.toNat 0) size.toNat
                k).2.1)) := by
  unfold readMemoryHandler at hStatus
  rw [hParse] at hStatus
  dsimp only at hStatus
  rw [hRange] at hStatus
  dsimp only at hStatus
  cases hAllocate : allocate host size.toNat with
  | error e =>
      rw [hAllocate] at hStatus
      cases hStatus
  | ok _ =>
      rw [hAllocate] at hStatus
      dsimp only at hStatus
      have hFits : size.toNat < 2 ^ 63 := by
        unfold allocate maxSize at hAllocate
        split at hAllocate
        next => cases hAllocate
        next hLe => omega
      have hBuffer : List.replicate size.toNat 0#8 ≠ [] := by
        intro hNil
        apply hSize
        apply BitVec.eq_of_toNat_eq
        exact List.replicate_eq_nil_iff 0#8 |>.mp hNil
      rcases readMemory_proper hAddress hBuffer c k with
        ⟨hNoFail, hBytes⟩
      generalize c.readMemory address
        (List.replicate size.toNat 0#8) k = done
        at hNoFail hBytes hStatus
      rcases done with ⟨⟨s, bytes⟩, k'⟩
      dsimp only at hNoFail hBytes hStatus
      rw [hNoFail, if_neg Bool.false_ne_true] at hStatus
      refine ⟨hFits, ?_⟩
      rw [← Except.ok.inj hStatus, hBytes]
      unfold MemoryControl.readMemory memoryControl
      dsimp only
      rw [List.length_replicate]
      rfl

/-
  The reply to a request for a proper range is true exactly
  if the range can be read.
-/
theorem true_reply_iff
    {memory : κ → Memory}
    {readable : κ → Addr → Prop}
    (hLaws : ReadLaws memory)
    (hReadable : ReadableLaws readable)
    (lib : Nlohmann)
    (host : Host)
    (params : StdString)
    (c : DebuggerCore)
    (k : κ)
    (hParse : lib.parse params = .ok jsonData)
    (hRange :
      addressAndSize lib jsonData = some (address, size))
    (hAddress : address ≠ 0)
    (hSize : size ≠ 0)
    (hStatus :
      (readMemoryHandler lib host params (c, k)).1 =
        .ok status) :
    let canRead :=
      CanRead c.pid address (List.replicate size.toNat 0)
        size.toNat k
    TrueReply lib memory readable canRead address size k
        status ↔
      canRead := by
  intro canRead
  rcases readMemoryHandler_proper hParse hRange hAddress hSize
      hStatus with ⟨hFits, rfl⟩
  have hLength :
      (List.replicate size.toNat 0#8).length = size.toNat :=
    List.length_replicate
  constructor
  · rintro ⟨-, hFail⟩
    by_contra hCannot
    exact Bool.false_ne_true (hFail hCannot)
  · intro hCan
    refine ⟨fun _ => ?_, fun hCannot => absurd hCan hCannot⟩
    have hDone :=
      readMemory_done hLaws c.pid address hFits hLength.ge k
    have hTrue := (readMemory_fst_iff _ _ _ _ _).mpr hCan
    refine ⟨_, rfl, hDone.1.trans hLength, ?_⟩
    intro i hi place
    exact ⟨allMapped_of_canRead hReadable hFits hCan i hi,
      getElem?_readMemory hLaws hFits hLength.ge hTrue hi⟩

end Main

namespace SimulatedProcess

open ProcessMemory

/- A kernel that does as it is asked. -/
instance : Kernel SimulatedProcess where
  ptrace _ _ p := (true, p)
  waitpid pid p := ((pid, 0x137F), p)
  kill _ _ p := (0, p)
  getThreadIds pid p := ([pid], p)
  getProcessState _ p := (.tracingStop, p)
  sleepFor _ p := p
  errno _ := 14
  strerror _ _ := ascii "Bad address"

/- The bytes up to the first that is not mapped. -/
theorem allMapped_reach
    (p : SimulatedProcess)
    (address : Addr)
    (size : Nat) :
    AllMapped (fun a => p.mapped a = true) address
      (p.reach address size) := by
  intro i hi
  have hItem := (p.takeWhile_reach address size).getElem hi
  rw [List.getElem_range] at hItem
  have hMem := List.getElem_mem hi
  rw [hItem] at hMem
  have hMapped := List.mem_takeWhile_imp hMem
  exact hMapped

theorem readableLaws :
    ReadableLaws fun (p : SimulatedProcess) a =>
      p.mapped a = true where
  readv_readable _ address _ size p := by
    unfold processVmReadv instProcessMemory
    dsimp only
    split
    next => rfl
    next => rfl
  readv_done _ address _ size p n hCount := by
    unfold processVmReadv instProcessMemory at hCount
    dsimp only at hCount
    split at hCount
    next =>
      have hReach : p.reach address size = n :=
        Int.ofNat.inj hCount
      rw [← hReach]
      exact p.allMapped_reach address size
    next => omega
  peek_readable := mappingLaws.peek_mapped
  peek_done pid address p hOk :=
    (mappingLaws.peek_iff pid address p).mp hOk

end SimulatedProcess

namespace Main

open ProcessMemory

/- The library, as far as a request and its reply need it. -/
def simulatedLibrary (address size : Nat) : Nlohmann where
  parse _ :=
    .ok (.object
      [(ascii "address", .integer address),
        (ascii "size", .integer size)])
  dump
  | .object [_, (_, .array items), _] =>
    ascii "\x7b\"address\":" ++ dec address
      ++ ascii ",\"data\":["
      ++ ((items.map fun
        | .integer n => dec n
        | _ => []).intersperse (ascii ",")).flatten
      ++ ascii "],\"size\":" ++ dec size ++ ascii "\x7d"
  | _ => []
  castFloat _ := 0
  what _ := []

/- A request for the first bytes of a page. -/
theorem true_reply_iff_mapped :
    let lib := simulatedLibrary 0x1000 4
    let p := SimulatedProcess.page true
    let canRead := CanRead 7 0x1000 (List.replicate 4 0) 4 p
    TrueReply lib SimulatedProcess.memory
        (fun p a => p.mapped a = true) canRead 0x1000 4 p
        (.success
          (lib.dump (memoryReply 0x1000 4 [0, 0, 0, 0]))) ↔
      canRead :=
  true_reply_iff SimulatedProcess.readLaws
    SimulatedProcess.readableLaws (simulatedLibrary 0x1000 4)
    ⟨true, 0x10000⟩
    (ascii "\x7b\"address\":4096,\"size\":4\x7d")
    { DebuggerCore.init with pid := 7 }
    (SimulatedProcess.page true) rfl rfl (by decide)
    (by decide) rfl

/- Zeros in place of bytes that are not mapped. -/
theorem not_trueReply_unmapped :
    let lib := simulatedLibrary 0x5000 4
    let p := SimulatedProcess.page true
    let status :=
      Status.success
        (lib.dump (memoryReply 0x5000 4 [0, 0, 0, 0]))
    let params :=
      ascii "\x7b\"address\":20480,\"size\":4\x7d"
    (readMemoryHandler lib ⟨true, 0x10000⟩ params
        ({ DebuggerCore.init with pid := 7 }, p)).1 =
        .ok status ∧
      ¬ TrueReply lib SimulatedProcess.memory
        (fun p a => p.mapped a = true)
        (CanRead 7 0x5000 (List.replicate 4 0) 4 p) 0x5000 4 p
        status := by
  intro lib p status params
  refine ⟨rfl, ?_⟩
  rintro ⟨-, hFail⟩
  have hCannot :
      ¬ CanRead 7 0x5000 (List.replicate 4 0) 4 p := by
    rw [← readMemory_fst_iff]
    decide
  exact Bool.false_ne_true (hFail hCannot)

end Main

end AnDbg
