import AnDbg.Core.Target
import AnDbg.Lib.Loop

/-
  Memory access of a traced process.

  Both directions try one call for the whole range and fall
  back to a loop that moves one word at a time, with the
  last word cut to the size that is left.

  Main declarations:
    * `AnDbg.ProcessMemory`
    * `AnDbg.Utils.ptraceWrapper`
    * `AnDbg.ProcessMemory.readMemoryPtrace` and
      `AnDbg.ProcessMemory.readMemory`
    * `AnDbg.ProcessMemory.writeMemoryPtrace` and
      `AnDbg.ProcessMemory.writeMemory`
    * `AnDbg.SimulatedProcess`
-/

------------------------------------------------------------
-- Calls Into The Kernel
------------------------------------------------------------

namespace AnDbg

/-
  `process_vm_readv` and `process_vm_writev` with one buffer
  each return a number of bytes or `-1`; `PTRACE_PEEKDATA`
  and `PTRACE_POKEDATA` return a word, next to `errno` as
  they leave it.  `wordAddress` is where in the debugger's
  own stack a loop keeps its local `word`.
-/
class ProcessMemory (κ : Type) where
  processVmReadv (pid : Pid) (address : Addr)
    (buffer : List Byte) (size : Nat) :
    κ → Int × List Byte × κ
  processVmWritev (pid : Pid) (address : Addr)
    (buffer : List Byte) (size : Nat) : κ → Int × κ
  peekData (pid : Pid) (address : Addr) :
    κ → (BitVec 64 × Int) × κ
  pokeData (pid : Pid) (address : Addr) (data : BitVec 64) :
    κ → (BitVec 64 × Int) × κ
  wordAddress : BitVec 64

/-
  `Utils::ptrace_wrapper`: a return value of `-1` is a
  failure only if `errno` was set.
-/
def Utils.ptraceWrapper
    {κ : Type}
    (ptrace : κ → (BitVec 64 × Int) × κ)
    (k : κ) : Bool × BitVec 64 × κ :=
  let answer := ptrace k
  (!(answer.1.1 == -1 && answer.1.2 != 0), answer.1.1,
    answer.2)

end AnDbg

------------------------------------------------------------
-- Reading
------------------------------------------------------------

namespace AnDbg

namespace ProcessMemory

open LittleEndian Loop Utils

variable {κ : Type}
variable [ProcessMemory κ]

/- `static_cast<ssize_t>`. -/
def ssize (size : Nat) : Int :=
  (BitVec.ofNat 64 size).toInt

/- `memcpy(buffer + offset, bytes)`. -/
def memcpy
    (buffer : List Byte)
    (offset : Nat)
    (bytes : List Byte) : List Byte :=
  buffer.take offset ++ bytes ++
    buffer.drop (offset + bytes.length)

/- What the loop of a read has so far. -/
structure ReadState (κ : Type) where
  bytesRead : Nat
  buffer : List Byte
  world : κ

/- One word of `read_memory_ptrace`. -/
def readPass
    (pid : Pid)
    (address : Addr)
    (size : Nat)
    (s : ReadState κ) :
    Pass (ReadState κ) (Bool × List Byte × κ) :=
  if s.bytesRead < size then
    match ptraceWrapper
        (peekData pid
          (address + BitVec.ofNat 64 s.bytesRead))
        s.world with
    | (false, _, k) => .done (false, s.buffer, k)
    | (true, word, k) =>
      let copySize := min 8 (size - s.bytesRead)
      .next
        { bytesRead := s.bytesRead + copySize
          buffer :=
            memcpy s.buffer s.bytesRead
              ((encode 8 word).take copySize)
          world := k }
  else
    .done (true, s.buffer, s.world)

/- What is left to read. -/
def readVariant
    (pid : Pid)
    (address : Addr)
    (size : Nat) :
    Variant (readPass (κ := κ) pid address size) where
  measure s := size - s.bytesRead
  decreases s s' hPass := by
    unfold readPass at hPass
    split at hPass
    next hLt =>
      split at hPass
      next => cases hPass
      next =>
        cases hPass
        dsimp only
        omega
    next => cases hPass

/- `read_memory_ptrace`. -/
def readMemoryPtrace
    (pid : Pid)
    (address : Addr)
    (buffer : List Byte)
    (size : Nat)
    (k : κ) : Bool × List Byte × κ :=
  run (readVariant pid address size) ⟨0, buffer, k⟩

/- `MemoryControl::read_memory`. -/
def readMemory
    (pid : Pid)
    (address : Addr)
    (buffer : List Byte)
    (size : Nat)
    (k : κ) : Bool × List Byte × κ :=
  let answer := processVmReadv pid address buffer size k
  if answer.1 = ssize size then
    (true, answer.2.1, answer.2.2)
  else
    readMemoryPtrace pid address answer.2.1 size answer.2.2

end ProcessMemory

end AnDbg

------------------------------------------------------------
-- Writing
------------------------------------------------------------

namespace AnDbg

namespace ProcessMemory

open LittleEndian Loop Utils

variable {κ : Type}
variable [ProcessMemory κ]

/-
  `reinterpret_cast<void*>(&word)`: where the local is,
  whatever it holds.
-/
def addressOf
    (κ : Type)
    [ProcessMemory κ]
    (_word : BitVec 64) : BitVec 64 :=
  wordAddress κ

/- What the loop of a write has so far. -/
structure WriteState (κ : Type) where
  bytesWritten : Nat
  world : κ

/- One word of `write_memory_ptrace`. -/
def writePass
    (pid : Pid)
    (address : Addr)
    (buffer : List Byte)
    (size : Nat)
    (s : WriteState κ) :
    Pass (WriteState κ) (Bool × κ) :=
  if s.bytesWritten < size then
    let remainSize := size - s.bytesWritten
    let place := address + BitVec.ofNat 64 s.bytesWritten
    -- less than a word is left: begin with what is there
    let old : Bool × BitVec 64 × κ :=
      if remainSize < 8 then
        ptraceWrapper (peekData pid place) s.world
      else (true, 0, s.world)
    match old with
    | (false, _, k) => .done (false, k)
    | (true, word, k) =>
      let copySize := min 8 remainSize
      let word :=
        decode 64
          (memcpy (encode 8 word) 0
            ((buffer.drop s.bytesWritten).take copySize))
      -- the data argument is the address of the word
      match ptraceWrapper
          (pokeData pid place (addressOf κ word)) k with
      | (false, _, k) => .done (false, k)
      | (true, _, k) =>
        .next ⟨s.bytesWritten + copySize, k⟩
  else
    .done (true, s.world)

/- What is left to write. -/
def writeVariant
    (pid : Pid)
    (address : Addr)
    (buffer : List Byte)
    (size : Nat) :
    Variant (writePass (κ := κ) pid address buffer size) where
  measure s := size - s.bytesWritten
  decreases s s' hPass := by
    unfold writePass at hPass
    split at hPass
    next hLt =>
      dsimp only at hPass
      split at hPass
      next => cases hPass
      next =>
        split at hPass
        next => cases hPass
        next =>
          cases hPass
          dsimp only
          omega
    next => cases hPass

/- `write_memory_ptrace`. -/
def writeMemoryPtrace
    (pid : Pid)
    (address : Addr)
    (buffer : List Byte)
    (size : Nat)
    (k : κ) : Bool × κ :=
  run (writeVariant pid address buffer size) ⟨0, k⟩

/- `MemoryControl::write_memory`. -/
def writeMemory
    (pid : Pid)
    (address : Addr)
    (buffer : List Byte)
    (size : Nat)
    (k : κ) : Bool × κ :=
  let answer := processVmWritev pid address buffer size k
  if answer.1 = ssize size then
    (true, answer.2)
  else
    writeMemoryPtrace pid address buffer size answer.2

end ProcessMemory

/- What `MemoryControl` offers to the rest of the program. -/
instance ProcessMemory.memoryControl
    {κ : Type}
    [ProcessMemory κ] : MemoryControl κ where
  readMemory pid address buffer :=
    ProcessMemory.readMemory pid address buffer buffer.length
  writeMemory pid address buffer :=
    ProcessMemory.writeMemory pid address buffer buffer.length

end AnDbg

------------------------------------------------------------
-- A Process In The Model
------------------------------------------------------------

namespace AnDbg

/-
  A process whose memory is kept as it is written.  Some of
  its addresses are mapped, and calls for whole ranges may
  be refused.
-/
structure SimulatedProcess where
  memory : Memory
  mapped : Addr → Bool
  vmCalls : Bool

namespace SimulatedProcess

open LittleEndian ByteMemory

/- All bytes of a range are mapped. -/
def mapsAll
    (p : SimulatedProcess)
    (address : Addr)
    (size : Nat) : Bool :=
  (List.range size).all fun i =>
    p.mapped (address + BitVec.ofNat 64 i)

/- The number of bytes up to the first that is not mapped. -/
def reach
    (p : SimulatedProcess)
    (address : Addr)
    (size : Nat) : Nat :=
  ((List.range size).takeWhile fun i =>
    p.mapped (address + BitVec.ofNat 64 i)).length

instance : ProcessMemory SimulatedProcess where
  processVmReadv _ address buffer size p :=
    if p.vmCalls ∧ 0 < p.reach address size then
      (p.reach address size,
        ProcessMemory.memcpy buffer 0
          (read p.memory address (p.reach address size)),
        p)
    else
      (-1, buffer, p)
  processVmWritev _ address buffer size p :=
    if p.vmCalls ∧ 0 < p.reach address size then
      (p.reach address size,
        { p with
          memory :=
            write p.memory address
              (buffer.take (p.reach address size)) })
    else
      (-1, p)
  peekData _ address p :=
    if p.mapsAll address 8 then
      ((decode 64 (read p.memory address 8), 0), p)
    else
      ((-1, 5), p)
  pokeData _ address data p :=
    if p.mapsAll address 8 then
      ((0, 0),
        { p with
          memory := write p.memory address (encode 8 data) })
    else
      ((-1, 5), p)
  wordAddress := 0x7FFFFFFFE0

/- A process with a page of zeros mapped at `0x1000`. -/
def page (vmCalls : Bool) : SimulatedProcess where
  memory _ := 0
  mapped a := 0x1000 ≤ a.toNat ∧ a.toNat < 0x2000
  vmCalls := vmCalls

end SimulatedProcess

end AnDbg
