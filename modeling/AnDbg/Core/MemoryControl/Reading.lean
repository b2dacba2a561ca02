import AnDbg.Core.MemoryControl.Model
import AnDbg.Lib.ByteMemory

/-
  A read that succeeds returns the bytes of the target.

  The loop keeps the buffer right up to the bytes it has
  read, whatever an earlier attempt for the whole range has
  left behind them, and never touches the buffer behind the
  size that was asked for.

  Main declarations:
    * `AnDbg.ReadLaws`
    * `AnDbg.ProcessMemory.Peekable` and
      `AnDbg.ProcessMemory.readMemoryPtrace_fst_iff`
    * `AnDbg.ProcessMemory.CanRead` and
      `AnDbg.ProcessMemory.readMemory_fst_iff`
    * `AnDbg.ProcessMemory.ReadSoFar`
    * `AnDbg.ProcessMemory.read_exactly`
-/

------------------------------------------------------------
-- Answers Of The Kernel
------------------------------------------------------------

namespace AnDbg

open LittleEndian ByteMemory ProcessMemory

/- A request went through: `-1` counts only with `errno`. -/
def Succeeds (answer : BitVec 64 × Int) : Prop :=
  ¬ (answer.1 = -1 ∧ answer.2 ≠ 0)

/-
  A read of a range copies a prefix of it and returns its
  length, or returns `-1`; a word that is read is the one at
  the address; and reading changes nothing.
-/
structure ReadLaws
    {κ : Type}
    [ProcessMemory κ]
    (memory : κ → Memory) : Prop where
  readv_memory :
    ∀ pid address buffer size (k : κ),
      memory (processVmReadv pid address buffer size k).2.2 =
        memory k
  readv_done :
    ∀ pid address buffer size (k : κ), size ≤ buffer.length →
      let answer := processVmReadv pid address buffer size k
      answer.2.1.length = buffer.length ∧
        answer.2.1.drop size = buffer.drop size ∧
        (answer.1 = -1 ∨
          ∃ n ≤ size, answer.1 = n ∧
            answer.2.1.take n = read (memory k) address n)
  peek_memory :
    ∀ pid address (k : κ),
      memory (peekData pid address k).2 = memory k
  peek_done :
    ∀ pid address (k : κ),
      Succeeds (peekData pid address k).1 →
      (peekData pid address k).1.1 =
        decode 64 (read (memory k) address 8)

namespace Utils

variable {κ : Type}

/- The wrapper reports whether the request went through. -/
theorem ptraceWrapper_fst
    (ptrace : κ → (BitVec 64 × Int) × κ)
    (k : κ) :
    (ptraceWrapper ptrace k).1 = true ↔
      Succeeds (ptrace k).1 := by
  unfold ptraceWrapper Succeeds
  simp only [Bool.not_eq_true', Bool.and_eq_false_iff,
    beq_eq_false_iff_ne, bne_eq_false_iff_eq, not_and_or,
    not_not, ne_eq]

end Utils

end AnDbg

------------------------------------------------------------
-- Copying Into A Buffer
------------------------------------------------------------

namespace AnDbg

namespace ProcessMemory

variable {buffer bytes : List Byte} {offset n : Nat}

theorem length_memcpy
    (hFits : offset + bytes.length ≤ buffer.length) :
    (memcpy buffer offset bytes).length = buffer.length := by
  unfold memcpy
  simp only [List.length_append, List.length_take,
    List.length_drop]
  omega

/- What lies behind the copied bytes is as before. -/
theorem drop_memcpy
    (hFits : offset + bytes.length ≤ n)
    (hLength : n ≤ buffer.length) :
    (memcpy buffer offset bytes).drop n = buffer.drop n := by
  unfold memcpy
  have hBefore :
      (buffer.take offset ++ bytes).length =
        offset + bytes.length := by
    rw [List.length_append, List.length_take]
    omega
  rw [List.drop_append, List.drop_eq_nil_of_le (by omega),
    List.nil_append, hBefore, List.drop_drop]
  congr 1
  omega

/- The bytes before them are kept, and then they follow. -/
theorem take_memcpy
    (bytes : List Byte)
    (hOffset : offset ≤ buffer.length) :
    (memcpy buffer offset bytes).take
        (offset + bytes.length) =
      buffer.take offset ++ bytes := by
  unfold memcpy
  apply List.take_left'
  rw [List.length_append, List.length_take,
    Nat.min_eq_left hOffset]

end ProcessMemory

end AnDbg

------------------------------------------------------------
-- When The Loop Succeeds
------------------------------------------------------------

namespace AnDbg

namespace ProcessMemory

open Loop Utils

variable {κ : Type}
variable [ProcessMemory κ]
variable {pid : Pid} {address : Addr} {size : Nat}

/- The number of words that a loop moves for a size. -/
def words (size : Nat) : Nat := (size + 7) / 8

/- So many words from an address on can be read. -/
def Peekable
    (pid : Pid) : Nat → Addr → κ → Prop
| 0, _, _ => True
| n + 1, address, k =>
    Succeeds (peekData pid address k).1 ∧
      Peekable pid n (address + 8) (peekData pid address k).2

/- One pass less to go. -/
theorem words_sub
    {b : Nat}
    (hLt : b < size) :
    words (size - b) =
      words (size - (b + min 8 (size - b))) + 1 := by
  unfold words
  omega

theorem address_add
    (address : Addr)
    (b : Nat) :
    address + BitVec.ofNat 64 b + 8 =
      address + BitVec.ofNat 64 (b + 8) := by
  rw [BitVec.ofNat_add, BitVec.add_assoc]
  rfl

/- The words after the one that a pass moved. -/
theorem peekable_next
    {b : Nat}
    (k : κ) :
    Peekable pid (words (size - (b + min 8 (size - b))))
        (address + BitVec.ofNat 64 b + 8) k ↔
      Peekable pid (words (size - (b + min 8 (size - b))))
        (address +
          BitVec.ofNat 64 (b + min 8 (size - b))) k := by
  by_cases hFull : 8 ≤ size - b
  · rw [Nat.min_eq_left hFull, address_add]
  · have hEnd : words (size - (b + min 8 (size - b))) = 0 := by
      unfold words
      omega
    rw [hEnd]
    exact Iff.rfl

/- A pass that goes on has read its word. -/
theorem readPass_next
    {s s' : ReadState κ}
    (hPass : readPass pid address size s = .next s') :
    let place := address + BitVec.ofNat 64 s.bytesRead
    let copySize := min 8 (size - s.bytesRead)
    s.bytesRead < size ∧
      Succeeds (peekData pid place s.world).1 ∧
      s' =
        { bytesRead := s.bytesRead + copySize
          buffer :=
            memcpy s.buffer s.bytesRead
              ((LittleEndian.encode 8
                (peekData pid place s.world).1.1).take
                  copySize)
          world := (peekData pid place s.world).2 } := by
  intro place copySize
  unfold readPass at hPass
  split at hPass
  next hLt =>
    split at hPass
    next => cases hPass
    next word k hPeek =>
      have hOk : Succeeds (peekData pid place s.world).1 :=
        (ptraceWrapper_fst _ s.world).mp
          (congrArg Prod.fst hPeek)
      have hWord : (peekData pid place s.world).1.1 = word :=
        congrArg (fun r => r.2.1) hPeek
      have hWorld : (peekData pid place s.world).2 = k :=
        congrArg (fun r => r.2.2) hPeek
      rw [hWord, hWorld]
      exact ⟨hLt, hOk, (Pass.next.inj hPass).symm⟩
  next => cases hPass

/- The last pass has failed to read its word or has none. -/
theorem readPass_done
    {s : ReadState κ}
    {r : Bool × List Byte × κ}
    (hPass : readPass pid address size s = .done r) :
    let place := address + BitVec.ofNat 64 s.bytesRead
    (s.bytesRead < size ∧
        ¬ Succeeds (peekData pid place s.world).1 ∧
        r = (false, s.buffer, (peekData pid place s.world).2)) ∨
      (size ≤ s.bytesRead ∧ r = (true, s.buffer, s.world)) := by
  intro place
  unfold readPass at hPass
  split at hPass
  next hLt =>
    split at hPass
    next word k hPeek =>
      have hFails :
          ¬ Succeeds (peekData pid place s.world).1 := by
        rw [← ptraceWrapper_fst, hPeek]
        exact Bool.false_ne_true
      have hWorld : (peekData pid place s.world).2 = k :=
        congrArg (fun r => r.2.2) hPeek
      rw [hWorld]
      exact .inl ⟨hLt, hFails, (Pass.done.inj hPass).symm⟩
    next => cases hPass
  next hEnd =>
    exact .inr ⟨Nat.le_of_not_lt hEnd,
      (Pass.done.inj hPass).symm⟩

/- The loop succeeds exactly if it can read every word. -/
theorem readMemoryPtrace_fst_iff
    (pid : Pid)
    (address : Addr)
    (buffer : List Byte)
    (size : Nat)
    (k : κ) :
    (readMemoryPtrace pid address buffer size k).1 = true ↔
      Peekable pid (words size) address k := by
  -- what is left to read is readable if the whole range was
  let left (s : ReadState κ) : Prop :=
    Peekable pid (words (size - s.bytesRead))
      (address + BitVec.ofNat 64 s.bytesRead) s.world
  have hStart :
      left ⟨0, buffer, k⟩ ↔
        Peekable pid (words size) address k := by
    change Peekable pid (words size)
      (address + BitVec.ofNat 64 0) k ↔ _
    rw [BitVec.add_zero]
  rw [← hStart]
  refine Ends.rule
    (fun s => left s ↔ left ⟨0, buffer, k⟩)
    (fun r => r.1 = true ↔ left ⟨0, buffer, k⟩)
    ?_ ?_ Iff.rfl (ends_run (readVariant pid address size) _)
  · intro s s' hInv hPass
    rcases readPass_next hPass with ⟨hLt, hOk, rfl⟩
    rw [← hInv]
    change _ ↔ Peekable pid (words (size - s.bytesRead)) _ _
    rw [words_sub hLt, Peekable]
    exact ((and_iff_right hOk).trans (peekable_next _)).symm
  · intro s r hInv hPass
    rw [← hInv]
    change _ ↔ Peekable pid (words (size - s.bytesRead)) _ _
    rcases readPass_done hPass with
      ⟨hLt, hFails, rfl⟩ | ⟨hEnd, rfl⟩
    · rw [words_sub hLt, Peekable]
      exact iff_of_false Bool.false_ne_true
        (fun hBoth => hFails hBoth.1)
    · have hNone : words (size - s.bytesRead) = 0 := by
        unfold words
        omega
      rw [hNone]
      exact iff_of_true rfl trivial

/-
  The range can be read: by the call for the whole of it or,
  if that fails, word by word.
-/
def CanRead
    (pid : Pid)
    (address : Addr)
    (buffer : List Byte)
    (size : Nat)
    (k : κ) : Prop :=
  let answer := processVmReadv pid address buffer size k
  answer.1 = ssize size ∨
    Peekable pid (words size) address answer.2.2

/- A read succeeds exactly if its range can be read. -/
theorem readMemory_fst_iff
    (pid : Pid)
    (address : Addr)
    (buffer : List Byte)
    (size : Nat)
    (k : κ) :
    (readMemory pid address buffer size k).1 = true ↔
      CanRead pid address buffer size k := by
  unfold readMemory CanRead
  dsimp only
  split
  next hWhole => exact iff_of_true rfl (.inl hWhole)
  next hWhole =>
    rw [readMemoryPtrace_fst_iff]
    exact (or_iff_right hWhole).symm

end ProcessMemory

end AnDbg

------------------------------------------------------------
-- What Is Read
------------------------------------------------------------

namespace AnDbg

namespace ProcessMemory

open ByteMemory LittleEndian Loop

variable {κ : Type}
variable [ProcessMemory κ]
variable {memory : κ → Memory}
variable {pid : Pid} {address : Addr} {size : Nat}
variable {buffer : List Byte} {k : κ}

/-
  The buffer has the bytes up to where the loop has come, is
  as it was behind the size, and the target is unchanged.
-/
structure ReadSoFar
    (memory : κ → Memory)
    (address : Addr)
    (buffer : List Byte)
    (size : Nat)
    (k : κ)
    (s : ReadState κ) : Prop where
  le : s.bytesRead ≤ size
  length : s.buffer.length = buffer.length
  front :
    s.buffer.take s.bytesRead =
      read (memory k) address s.bytesRead
  behind : s.buffer.drop size = buffer.drop size
  memory : memory s.world = memory k

/- Cutting a word that was read off at a size. -/
theorem take_encode_word
    (m : Memory)
    (a : Addr)
    {n : Nat}
    (hLe : n ≤ 8) :
    (encode 8 (decode 64 (read m a 8))).take n =
      read m a n := by
  have hWord :=
    encode_decode (w := 64) (read m a 8) (by
      rw [length_read])
  rw [length_read] at hWord
  rw [hWord, take_read m a hLe]

/- A pass reads on from where the loop has come. -/
theorem ReadSoFar.next
    {s s' : ReadState κ}
    (hLaws : ReadLaws memory)
    (hFits : size ≤ buffer.length)
    (hSoFar : ReadSoFar memory address buffer size k s)
    (hPass : readPass pid address size s = .next s') :
    ReadSoFar memory address buffer size k s' := by
  rcases readPass_next hPass with ⟨hLt, hOk, hNext⟩
  have hCopy : min 8 (size - s.bytesRead) ≤ 8 :=
    Nat.min_le_left _ _
  have hEnd :
      s.bytesRead + min 8 (size - s.bytesRead) ≤ size := by
    omega
  have hWord := hLaws.peek_done pid _ s.world hOk
  rw [hSoFar.memory] at hWord
  rw [hWord, take_encode_word _ _ hCopy] at hNext
  have hBytes :
      s.bytesRead +
          (read (memory k)
            (address + BitVec.ofNat 64 s.bytesRead)
            (min 8 (size - s.bytesRead))).length ≤ size := by
    rw [length_read]
    exact hEnd
  have hLength := hSoFar.length
  subst hNext
  constructor
  case le => exact hEnd
  case length =>
    rw [length_memcpy (by omega), hLength]
  case front =>
    have hTake :=
      take_memcpy (read (memory k)
        (address + BitVec.ofNat 64 s.bytesRead)
        (min 8 (size - s.bytesRead)))
        (show s.bytesRead ≤ s.buffer.length by omega)
    rw [length_read] at hTake
    rw [hTake, hSoFar.front, ← read_add]
  case behind =>
    rw [drop_memcpy hBytes (by omega), hSoFar.behind]
  case memory =>
    exact (hLaws.peek_memory pid _ s.world).trans hSoFar.memory

/- A loop that succeeds has read the whole range. -/
theorem readMemoryPtrace_done
    (hLaws : ReadLaws memory)
    (pid : Pid)
    (address : Addr)
    (hFits : size ≤ buffer.length)
    (k : κ) :
    let r := readMemoryPtrace pid address buffer size k
    r.2.1.length = buffer.length ∧
      r.2.1.drop size = buffer.drop size ∧
      (r.1 = true →
        r.2.1.take size = read (memory k) address size) := by
  refine Ends.rule
    (ReadSoFar memory address buffer size k)
    (fun r =>
      r.2.1.length = buffer.length ∧
        r.2.1.drop size = buffer.drop size ∧
        (r.1 = true →
          r.2.1.take size = read (memory k) address size))
    ?_ ?_ ?_ (ends_run (readVariant pid address size) _)
  · intro s s' hSoFar hPass
    exact hSoFar.next hLaws hFits hPass
  · intro s r hSoFar hPass
    rcases readPass_done hPass with
      ⟨-, -, rfl⟩ | ⟨hEnd, rfl⟩
    · exact ⟨hSoFar.length, hSoFar.behind, fun hFalse => by
        cases hFalse⟩
    · have hAll : s.bytesRead = size :=
        Nat.le_antisymm hSoFar.le hEnd
      refine ⟨hSoFar.length, hSoFar.behind, fun _ => ?_⟩
      have hFront := hSoFar.front
      rw [hAll] at hFront
      exact hFront
  · exact ⟨Nat.zero_le _, rfl, rfl, rfl, rfl⟩

/- A size that fits is its own `ssize_t`. -/
theorem ssize_of_lt
    (hSize : size < 2 ^ 63) :
    ssize size = size := by
  unfold ssize
  rw [BitVec.toInt_eq_toNat_of_lt, BitVec.toNat_ofNat,
    Nat.mod_eq_of_lt (by omega)]
  rw [BitVec.toNat_ofNat, Nat.mod_eq_of_lt (by omega)]
  omega

/- A count that looks like the size is the size. -/
theorem eq_of_ssize_eq
    {n : Nat}
    (hSize : size < 2 ^ 64)
    (hSsize : ssize size = n) :
    n = size := by
  unfold ssize at hSsize
  rw [BitVec.toInt_eq_toNat_cond, BitVec.toNat_ofNat,
    Nat.mod_eq_of_lt hSize] at hSsize
  split at hSsize
  next => omega
  next => omega

/- The same of either path. -/
theorem readMemory_done
    (hLaws : ReadLaws memory)
    (pid : Pid)
    (address : Addr)
    (hSize : size < 2 ^ 63)
    (hFits : size ≤ buffer.length)
    (k : κ) :
    let r := readMemory pid address buffer size k
    r.2.1.length = buffer.length ∧
      r.2.1.drop size = buffer.drop size ∧
      (r.1 = true →
        r.2.1.take size = read (memory k) address size) := by
  unfold readMemory
  dsimp only
  have hMemory := hLaws.readv_memory pid address buffer size k
  rcases hLaws.readv_done pid address buffer size k hFits with
    ⟨hLength, hDrop, hRet⟩
  rw [ssize_of_lt hSize]
  split
  next hWhole =>
    refine ⟨hLength, hDrop, fun _ => ?_⟩
    rcases hRet with hNone | ⟨n, -, hCount, hTake⟩
    · omega
    · have hAll : n = size := by omega
      rw [hAll] at hTake
      exact hTake
  next =>
    have hLoop :=
      readMemoryPtrace_done hLaws pid address
        (hFits.trans hLength.ge)
        (processVmReadv pid address buffer size k).2.2
    dsimp only at hLoop
    rw [hLength, hDrop, hMemory] at hLoop
    exact hLoop

/- The bytes of a read that succeeds, one by one. -/
theorem getElem?_readMemory
    (hLaws : ReadLaws memory)
    (hSize : size < 2 ^ 63)
    (hFits : size ≤ buffer.length)
    (hTrue :
      (readMemory pid address buffer size k).1 = true)
    {i : Nat}
    (hi : i < size) :
    (readMemory pid address buffer size k).2.1[i]? =
      some (memory k (address + BitVec.ofNat 64 i)) := by
  rcases readMemory_done hLaws pid address hSize hFits k with
    ⟨-, -, hBytes⟩
  rw [← List.getElem?_take_of_lt hi, hBytes hTrue]
  exact getElem?_read_of_lt (memory k) address hi

/-
  The loop ends; nothing behind the size is written; and if
  the read succeeds, the buffer has the target's bytes.
-/
theorem read_exactly
    (hLaws : ReadLaws memory)
    (pid : Pid)
    (address : Addr)
    (buffer : List Byte)
    (size : Nat)
    (k : κ)
    (hSize : size < 2 ^ 63)
    (hFits : size ≤ buffer.length) :
    let r := readMemory pid address buffer size k
    (∀ start : ReadState κ,
        ∃ r', Ends (readPass pid address size) start r') ∧
      (∀ i, size ≤ i → r.2.1[i]? = buffer[i]?) ∧
      (r.1 = true →
        ∀ i < size,
          r.2.1[i]? =
            some (memory k (address + BitVec.ofNat 64 i))) := by
  intro r
  rcases readMemory_done hLaws pid address hSize hFits k with
    ⟨-, hBehind, -⟩
  refine ⟨?_, ?_, ?_⟩
  · intro start
    exact ⟨_, ends_run (readVariant pid address size) start⟩
  · intro i hi
    have hSplit : i = size + (i - size) := by omega
    rw [hSplit, ← List.getElem?_drop, hBehind,
      List.getElem?_drop]
  · intro hTrue i hi
    exact getElem?_readMemory hLaws hSize hFits hTrue hi

end ProcessMemory

namespace SimulatedProcess

open LittleEndian ByteMemory ProcessMemory

/- The offsets up to the first byte that is not mapped. -/
theorem takeWhile_reach
    (p : SimulatedProcess)
    (address : Addr)
    (size : Nat) :
    (List.range size).takeWhile
        (fun i => p.mapped (address + BitVec.ofNat 64 i)) <+:
      List.range size :=
  List.takeWhile_prefix _

theorem reach_le
    (p : SimulatedProcess)
    (address : Addr)
    (size : Nat) :
    p.reach address size ≤ size := by
  have hLe := (p.takeWhile_reach address size).length_le
  rw [List.length_range] at hLe
  exact hLe

theorem readLaws : ReadLaws SimulatedProcess.memory where
  readv_memory _ address _ size p := by
    unfold processVmReadv instProcessMemory
    dsimp only
    split
    next => rfl
    next => rfl
  readv_done _ address buffer size p hFits := by
    unfold processVmReadv instProcessMemory
    dsimp only
    have hReach := p.reach_le address size
    split
    next =>
      refine ⟨?_, ?_, .inr ⟨_, hReach, rfl, ?_⟩⟩
      · apply length_memcpy
        rw [length_read]
        omega
      · apply drop_memcpy _ hFits
        rw [length_read]
        omega
      · have hTake :=
          take_memcpy (read p.memory address
            (p.reach address size)) (Nat.zero_le buffer.length)
        rw [length_read, Nat.zero_add] at hTake
        exact hTake
    next => exact ⟨rfl, rfl, .inl rfl⟩
  peek_memory _ address p := by
    unfold peekData instProcessMemory
    dsimp only
    split
    next => rfl
    next => rfl
  peek_done _ address p hOk := by
    unfold peekData instProcessMemory at hOk ⊢
    dsimp only at hOk ⊢
    split at hOk
    next hMapped => rw [if_pos hMapped]
    next =>
      exact absurd ⟨rfl, (by decide : (5 : Int) ≠ 0)⟩ hOk

end SimulatedProcess

namespace ProcessMemory

/- Ten bytes are read word by word. -/
theorem read_exactly_words :
    let p := SimulatedProcess.page false
    let buffer := List.replicate 12 0xFF#8
    let r := readMemory 7 0x1000 buffer 10 p
    (∀ start : ReadState SimulatedProcess,
        ∃ r', Loop.Ends (readPass 7 0x1000 10) start r') ∧
      (∀ i, 10 ≤ i → r.2.1[i]? = buffer[i]?) ∧
      (r.1 = true →
        ∀ i < 10,
          r.2.1[i]? =
            some (p.memory (0x1000 + BitVec.ofNat 64 i))) :=
  read_exactly SimulatedProcess.readLaws 7 0x1000
    (List.replicate 12 0xFF#8) 10
    (SimulatedProcess.page false) (by decide) (by decide)

end ProcessMemory

end AnDbg
