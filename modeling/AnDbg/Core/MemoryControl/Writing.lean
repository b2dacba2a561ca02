import AnDbg.Core.MemoryControl.Reading

/-
  What a write that succeeds leaves in the target.

  The call for the whole range stores the given bytes.  The
  loop hands `PTRACE_POKEDATA` the address of its local word
  where the word itself belongs, so that it stores that
  address, eight bytes at a time, up to the end of the last
  word; only by coincidence are these the given bytes.

  Main declarations:
    * `AnDbg.WriteLaws`
    * `AnDbg.ProcessMemory.writeMemoryPtrace_done`
    * `AnDbg.ProcessMemory.StoresExactly`
    * `AnDbg.ProcessMemory.stores_exactly_iff`
-/

------------------------------------------------------------
-- Answers Of The Kernel
------------------------------------------------------------

namespace AnDbg

open LittleEndian ByteMemory ProcessMemory

/-
  A write of a range stores a prefix of it and returns its
  length, or returns `-1` with nothing stored; a word that
  is written is stored at the address.
-/
structure WriteLaws
    {κ : Type}
    [ProcessMemory κ]
    (memory : κ → Memory) : Prop where
  writev_done :
    ∀ pid address buffer size (k : κ), size ≤ buffer.length →
      let answer := processVmWritev pid address buffer size k
      (answer.1 = -1 ∧ memory answer.2 = memory k) ∨
        ∃ n ≤ size, answer.1 = n ∧
          memory answer.2 =
            write (memory k) address (buffer.take n)
  peek_memory :
    ∀ pid address (k : κ),
      memory (peekData pid address k).2 = memory k
  poke_done :
    ∀ pid address data (k : κ),
      Succeeds (pokeData pid address data k).1 →
      memory (pokeData pid address data k).2 =
        write (memory k) address (encode 8 data)

end AnDbg

------------------------------------------------------------
-- The Loop
------------------------------------------------------------

namespace AnDbg

namespace ProcessMemory

open ByteMemory LittleEndian Loop Utils

variable {κ : Type}
variable [ProcessMemory κ]
variable {memory : κ → Memory}
variable {pid : Pid} {address : Addr} {size : Nat}
variable {buffer : List Byte} {k : κ}

/- The world in which a word is written. -/
def beforePoke
    (pid : Pid)
    (place : Addr)
    (remainSize : Nat)
    (k : κ) : κ :=
  if remainSize < 8 then (peekData pid place k).2 else k

/- The answer to the request that writes the word. -/
def pokeWord
    (pid : Pid)
    (place : Addr)
    (remainSize : Nat)
    (k : κ) : (BitVec 64 × Int) × κ :=
  pokeData pid place (wordAddress κ)
    (beforePoke pid place remainSize k)

/- What the first half of a pass yields. -/
theorem old_fst
    (pid : Pid)
    (place : Addr)
    (remainSize : Nat)
    (k : κ) :
    let old : Bool × BitVec 64 × κ :=
      if remainSize < 8 then
        ptraceWrapper (peekData pid place) k
      else (true, 0, k)
    (old.1 = true ↔
        (remainSize < 8 → Succeeds (peekData pid place k).1)) ∧
      old.2.2 = beforePoke pid place remainSize k := by
  unfold beforePoke
  by_cases hTail : remainSize < 8
  · rw [if_pos hTail, if_pos hTail]
    refine ⟨?_, rfl⟩
    rw [ptraceWrapper_fst]
    exact ⟨fun hOk _ => hOk, fun hOk => hOk hTail⟩
  · rw [if_neg hTail, if_neg hTail]
    exact ⟨iff_of_true rfl (fun h => absurd h hTail), rfl⟩

/- A pass that goes on has written its word. -/
theorem writePass_next
    {s s' : WriteState κ}
    (hPass : writePass pid address buffer size s = .next s') :
    let place := address + BitVec.ofNat 64 s.bytesWritten
    let remainSize := size - s.bytesWritten
    s.bytesWritten < size ∧
      (remainSize < 8 →
        Succeeds (peekData pid place s.world).1) ∧
      Succeeds (pokeWord pid place remainSize s.world).1 ∧
      s' =
        { bytesWritten := s.bytesWritten + min 8 remainSize
          world := (pokeWord pid place remainSize s.world).2 }
      := by
  intro place remainSize
  rcases old_fst pid place remainSize s.world with
    ⟨hOld, hWorld⟩
  unfold writePass at hPass
  split at hPass
  next hLt =>
    dsimp only at hPass
    split at hPass
    next => cases hPass
    next word k hRead =>
      rw [hRead] at hOld hWorld
      split at hPass
      next => cases hPass
      next ret k' hPoke =>
        have hSame :
            pokeWord pid place remainSize s.world =
              pokeData pid place (wordAddress κ) k :=
          congrArg (pokeData pid place (wordAddress κ))
            hWorld.symm
        have hOk :
            Succeeds
              (pokeWord pid place remainSize s.world).1 := by
          rw [hSame]
          exact (ptraceWrapper_fst _ k).mp
            (congrArg Prod.fst hPoke)
        have hAfter :
            (pokeWord pid place remainSize s.world).2 = k' := by
          rw [hSame]
          exact congrArg (fun r => r.2.2) hPoke
        rw [hAfter]
        exact ⟨hLt, hOld.mp rfl, hOk,
          (Pass.next.inj hPass).symm⟩
  next => cases hPass

/- The last pass has failed in a request or has none. -/
theorem writePass_done
    {s : WriteState κ}
    {r : Bool × κ}
    (hPass : writePass pid address buffer size s = .done r) :
    let place := address + BitVec.ofNat 64 s.bytesWritten
    let remainSize := size - s.bytesWritten
    (s.bytesWritten < size ∧ r.1 = false ∧
        ((remainSize < 8 ∧
            ¬ Succeeds (peekData pid place s.world).1) ∨
          ¬ Succeeds
            (pokeWord pid place remainSize s.world).1)) ∨
      (size ≤ s.bytesWritten ∧ r = (true, s.world)) := by
  intro place remainSize
  rcases old_fst pid place remainSize s.world with
    ⟨hOld, hWorld⟩
  unfold writePass at hPass
  split at hPass
  next hLt =>
    refine .inl ⟨hLt, ?_⟩
    dsimp only at hPass
    split at hPass
    next word k hRead =>
      rw [hRead] at hOld
      have hFails :
          ¬ (remainSize < 8 →
            Succeeds (peekData pid place s.world).1) :=
        fun hOk => Bool.false_ne_true (hOld.mpr hOk)
      rw [← Pass.done.inj hPass]
      exact ⟨rfl, .inl (Classical.not_imp.mp hFails)⟩
    next word k hRead =>
      rw [hRead] at hWorld
      split at hPass
      next ret k' hPoke =>
        rw [← Pass.done.inj hPass]
        refine ⟨rfl, .inr ?_⟩
        unfold pokeWord
        rw [← hWorld, ← ptraceWrapper_fst]
        intro hOk
        have hFalse := congrArg Prod.fst hPoke
        exact Bool.false_ne_true (hFalse.symm.trans hOk)
      next => cases hPass
  next hEnd =>
    exact .inr ⟨Nat.le_of_not_lt hEnd,
      (Pass.done.inj hPass).symm⟩

/-
  The first words of the range hold the address of the local
  word, and nothing else has changed.
-/
def WrittenSoFar
    (memory : κ → Memory)
    (address : Addr)
    (size : Nat)
    (k : κ)
    (s : WriteState κ) : Prop :=
  ∃ n, s.bytesWritten = min (8 * n) size ∧
    8 * n < size + 8 ∧
    memory s.world =
      tile (memory k) address (encode 8 (wordAddress κ)) n

theorem WrittenSoFar.next
    {s s' : WriteState κ}
    (hLaws : WriteLaws memory)
    (hSize : size < 2 ^ 64)
    (hSoFar : WrittenSoFar memory address size k s)
    (hPass : writePass pid address buffer size s = .next s') :
    WrittenSoFar memory address size k s' := by
  rcases hSoFar with ⟨n, hBytes, -, hMemory⟩
  rcases writePass_next hPass with ⟨hLt, -, hOk, rfl⟩
  have hHere : s.bytesWritten = 8 * n := by omega
  have hBefore (place : Addr) (remainSize : Nat) :
      memory (beforePoke pid place remainSize s.world) =
        memory s.world := by
    unfold beforePoke
    split
    next => exact hLaws.peek_memory pid place s.world
    next => rfl
  refine ⟨n + 1, ?_, ?_, ?_⟩
  · dsimp only
    omega
  · omega
  · have hStored :=
      hLaws.poke_done pid
        (address + BitVec.ofNat 64 s.bytesWritten)
        (wordAddress κ) _ hOk
    have hTile :=
      write_tile (memory k) address
        (encode 8 (wordAddress κ)) n (by
          rw [length_encode]
          omega)
    rw [length_encode] at hTile
    rw [hBefore, hMemory, hHere] at hStored
    rw [← hTile, ← hStored, ← hHere]
    rfl

/- What a loop that succeeds has stored. -/
theorem writeMemoryPtrace_done
    (hLaws : WriteLaws memory)
    (pid : Pid)
    (address : Addr)
    (buffer : List Byte)
    (hSize : size < 2 ^ 64)
    (k : κ)
    (hTrue :
      (writeMemoryPtrace pid address buffer size k).1 = true) :
    memory (writeMemoryPtrace pid address buffer size k).2 =
      tile (memory k) address (encode 8 (wordAddress κ))
        (words size) := by
  refine Ends.rule
    (WrittenSoFar memory address size k)
    (fun r =>
      r.1 = true →
        memory r.2 =
          tile (memory k) address (encode 8 (wordAddress κ))
            (words size))
    ?_ ?_ ?_ (ends_run (writeVariant pid address buffer size) _)
    hTrue
  · intro s s' hSoFar hPass
    exact hSoFar.next hLaws hSize hPass
  · intro s r hSoFar hPass hDone
    rcases writePass_done hPass with
      ⟨-, hFalse, -⟩ | ⟨hEnd, rfl⟩
    · rw [hFalse] at hDone
      cases hDone
    · rcases hSoFar with ⟨n, hBytes, hLast, hMemory⟩
      have hAll : n = words size := by
        unfold words
        omega
      rw [← hAll]
      exact hMemory
  · refine ⟨0, ?_, ?_, ?_⟩
    · exact (Nat.zero_min size).symm
    · omega
    · exact (tile_zero _ _ _).symm

end ProcessMemory

end AnDbg

------------------------------------------------------------
-- Exactly The Given Bytes
------------------------------------------------------------

namespace AnDbg

namespace ProcessMemory

open ByteMemory LittleEndian

variable {κ : Type}
variable [ProcessMemory κ]
variable {memory : κ → Memory}

/-
  The range has the bytes of the buffer, and every byte
  outside it is unchanged.
-/
def StoresExactly
    (m m' : Memory)
    (address : Addr)
    (buffer : List Byte)
    (size : Nat) : Prop :=
  (∀ i < size,
      buffer[i]? = some (m' (address + BitVec.ofNat 64 i))) ∧
    ∀ x, ¬ Covers address size x → m' x = m x

/-
  `process_vm_writev` has written the whole range, or what
  stands there in its place is what should: for the one size
  that looks like a `-1` what was there before, and where
  the loop runs the address of its local word, over whole
  words.
-/
def WriteSuits
    (memory : κ → Memory)
    (pid : Pid)
    (address : Addr)
    (buffer : List Byte)
    (size : Nat)
    (k : κ) : Prop :=
  let ret := (processVmWritev pid address buffer size k).1
  if ret = ssize size then
    ret = size ∨
      ∀ i < size,
        buffer[i]? =
          some (memory k (address + BitVec.ofNat 64 i))
  else
    ∀ i < 8 * words size,
      (encode 8 (wordAddress κ))[i % 8]? =
        some
          (write (memory k) address (buffer.take size)
            (address + BitVec.ofNat 64 i))

variable {m m' : Memory} {address : Addr} {size : Nat}
variable {buffer bytes : List Byte}

theorem storesExactly_iff
    (hFits : size ≤ buffer.length)
    (hSize : size < 2 ^ 64) :
    StoresExactly m m' address buffer size ↔
      m' = write m address (buffer.take size) := by
  have hLength : (buffer.take size).length = size := by
    rw [List.length_take, Nat.min_eq_left hFits]
  rw [eq_write_iff (by omega), hLength]
  unfold StoresExactly
  refine and_congr_left fun _ => ?_
  refine forall_congr' fun i => forall_congr' fun hi => ?_
  rw [List.getElem?_take_of_lt hi]

/- A range that is left as it is. -/
theorem storesExactly_self :
    StoresExactly m m address buffer size ↔
      ∀ i < size,
        buffer[i]? =
          some (m (address + BitVec.ofNat 64 i)) :=
  and_iff_left fun _ _ => rfl

/- What an earlier write of a part has stored is covered. -/
theorem tile_write
    {n : Nat}
    (hLength : buffer.length ≤ bytes.length * n) :
    tile (write m address buffer) address bytes n =
      tile m address bytes n := by
  funext x
  unfold tile
  by_cases hx : offset address x < bytes.length * n
  · have hPos : 0 < bytes.length := by
      rcases Nat.eq_zero_or_pos bytes.length with hZero | hPos
      · rw [hZero, Nat.zero_mul] at hx
        exact absurd hx (Nat.not_lt_zero _)
      · exact hPos
    have hIndex : offset address x % bytes.length < bytes.length :=
      Nat.mod_lt _ hPos
    rw [if_pos hx, if_pos hx,
      List.getElem?_eq_getElem hIndex, Option.getD_some,
      Option.getD_some]
  · rw [if_neg hx, if_neg hx]
    apply write_of_not_covers
    unfold Covers
    omega

/- When the repeated bytes are what a write would store. -/
theorem tile_eq_write_iff
    {n : Nat}
    (hBytes : bytes.length = 8)
    (hLength : buffer.length ≤ 8 * n)
    (hEnd : 8 * n ≤ 2 ^ 64) :
    tile m address bytes n = write m address buffer ↔
      ∀ i < 8 * n,
        bytes[i % 8]? =
          some
            (write m address buffer
              (address + BitVec.ofNat 64 i)) := by
  have hIndex (i : Nat) : i % 8 < bytes.length := by
    rw [hBytes]
    exact Nat.mod_lt _ (by decide)
  constructor
  · intro hSame i hi
    rw [← hSame]
    unfold tile
    rw [offset_add address (by omega), hBytes, if_pos hi,
      List.getElem?_eq_getElem (hIndex i), Option.getD_some]
  · intro hInside
    funext x
    by_cases hx : offset address x < 8 * n
    · have hByte := hInside (offset address x) hx
      rw [add_offset] at hByte
      unfold tile
      rw [hBytes, if_pos hx, hByte, Option.getD_some]
    · rw [write_of_not_covers]
      · unfold tile
        rw [hBytes, if_neg hx]
      · unfold Covers
        omega

/-
  A write that reports success stores exactly the given
  bytes precisely if `process_vm_writev` has written them all
  or what the code stores instead suits.
-/
theorem stores_exactly_iff
    (hLaws : WriteLaws memory)
    (pid : Pid)
    (address : Addr)
    (buffer : List Byte)
    (size : Nat)
    (k : κ)
    (hSize : size < 2 ^ 64)
    (hFits : size ≤ buffer.length)
    (hTrue :
      (writeMemory pid address buffer size k).1 = true) :
    StoresExactly (memory k)
        (memory (writeMemory pid address buffer size k).2)
        address buffer size ↔
      WriteSuits memory pid address buffer size k := by
  unfold writeMemory at hTrue ⊢
  unfold WriteSuits
  dsimp only at hTrue ⊢
  have hWritev :=
    hLaws.writev_done pid address buffer size k hFits
  split at hTrue
  next hRet =>
    rw [if_pos hRet, if_pos hRet]
    dsimp only at hWritev ⊢
    rcases hWritev with
      ⟨hNone, hMemory⟩ | ⟨n, -, hCount, hMemory⟩
    · rw [hMemory, storesExactly_self, hNone,
        or_iff_right (by omega)]
    · have hAll : n = size := by
        rw [hRet] at hCount
        exact eq_of_ssize_eq hSize hCount
      rw [hAll] at hMemory hCount
      rw [storesExactly_iff hFits hSize]
      exact iff_of_true hMemory (.inl hCount)
  next hRet =>
    have hCovered :
        tile
            (memory
              (processVmWritev pid address buffer size k).2)
            address (encode 8 (wordAddress κ)) (words size) =
          tile (memory k) address (encode 8 (wordAddress κ))
            (words size) := by
      dsimp only at hWritev
      rcases hWritev with
        ⟨-, hMemory⟩ | ⟨n, hLe, -, hMemory⟩
      · rw [hMemory]
      · rw [hMemory]
        apply tile_write
        rw [List.length_take, length_encode]
        unfold words
        omega
    rw [if_neg hRet, if_neg hRet,
      storesExactly_iff hFits hSize,
      writeMemoryPtrace_done hLaws pid address buffer hSize _
        hTrue, hCovered]
    apply tile_eq_write_iff (length_encode _ _)
    · rw [List.length_take]
      unfold words
      omega
    · unfold words
      omega

end ProcessMemory

namespace SimulatedProcess

open ProcessMemory

theorem writeLaws : WriteLaws SimulatedProcess.memory where
  writev_done _ address _ size p hFits := by
    unfold processVmWritev instProcessMemory
    dsimp only
    split
    next => exact .inr ⟨_, p.reach_le address size, rfl, rfl⟩
    next => exact .inl ⟨rfl, rfl⟩
  peek_memory := readLaws.peek_memory
  poke_done _ address data p hOk := by
    unfold pokeData instProcessMemory at hOk ⊢
    dsimp only at hOk ⊢
    split at hOk
    next hMapped => rw [if_pos hMapped]
    next =>
      exact absurd ⟨rfl, (by decide : (5 : Int) ≠ 0)⟩ hOk

end SimulatedProcess

namespace ProcessMemory

/- Ten bytes where one call is enough. -/
theorem stores_exactly_iff_one_call :
    let p := SimulatedProcess.page true
    let buffer := List.replicate 10 0x5A#8
    StoresExactly p.memory
        (writeMemory 7 0x1000 buffer 10 p).2.memory 0x1000
        buffer 10 ↔
      WriteSuits SimulatedProcess.memory 7 0x1000 buffer 10 p :=
  stores_exactly_iff SimulatedProcess.writeLaws 7 0x1000
    (List.replicate 10 0x5A#8) 10
    (SimulatedProcess.page true) (by decide) (by decide)
    (by decide)

/- The loop reports success and has stored an address. -/
theorem not_storesExactly_loop :
    let p := SimulatedProcess.page false
    let buffer := List.replicate 8 0x5A#8
    let r := writeMemory 7 0x1000 buffer 8 p
    r.1 = true ∧
      ¬ StoresExactly p.memory r.2.memory 0x1000 buffer 8 := by
  refine ⟨by decide, fun hStores => ?_⟩
  have hByte := hStores.1 0 (by decide)
  exact absurd hByte (by decide)

end ProcessMemory

end AnDbg
