import AnDbg.Core.MemoryControl.Writing

/-
  Which bytes the loops need.

  Every request moves a whole word, also the last one of a
  range that ends within it.  Hence the loops need the bytes
  up to the end of the last word and not just the bytes of
  the range.

  Main declarations:
    * `AnDbg.AllMapped` and `AnDbg.MappingLaws`
    * `AnDbg.ProcessMemory.peekable_iff`
    * `AnDbg.ProcessMemory.writeMemoryPtrace_fst_iff`
    * `AnDbg.ProcessMemory.loops_succeed_iff`
-/

------------------------------------------------------------
-- Mapped Bytes
------------------------------------------------------------

namespace AnDbg

open ProcessMemory

/- So many bytes from an address on are mapped. -/
def AllMapped
    (mapped : Addr → Prop)
    (address : Addr)
    (n : Nat) : Prop :=
  ∀ i < n, mapped (address + BitVec.ofNat 64 i)

/-
  A word can be read, and can be written, exactly if its
  eight bytes are mapped; and the mapping stays.
-/
structure MappingLaws
    {κ : Type}
    [ProcessMemory κ]
    (mapped : κ → Addr → Prop) : Prop where
  peek_iff :
    ∀ pid address (k : κ),
      Succeeds (peekData pid address k).1 ↔
        AllMapped (mapped k) address 8
  peek_mapped :
    ∀ pid address (k : κ),
      mapped (peekData pid address k).2 = mapped k
  poke_iff :
    ∀ pid address data (k : κ),
      Succeeds (pokeData pid address data k).1 ↔
        AllMapped (mapped k) address 8
  poke_mapped :
    ∀ pid address data (k : κ),
      mapped (pokeData pid address data k).2 = mapped k

section

variable {mapped : Addr → Prop} {address : Addr} {n c : Nat}

theorem AllMapped.zero : AllMapped mapped address 0 :=
  fun i hi => absurd hi (Nat.not_lt_zero i)

theorem allMapped_add :
    AllMapped mapped address (n + c) ↔
      AllMapped mapped address n ∧
        AllMapped mapped (address + BitVec.ofNat 64 n) c := by
  unfold AllMapped
  constructor
  · intro hAll
    refine ⟨fun i hi => hAll i (by omega), fun i hi => ?_⟩
    rw [BitVec.add_assoc, ← BitVec.ofNat_add]
    exact hAll (n + i) (by omega)
  · rintro ⟨hFront, hBack⟩ i hi
    by_cases hLt : i < n
    · exact hFront i hLt
    · have hSplit : i = n + (i - n) := by omega
      rw [hSplit, BitVec.ofNat_add, ← BitVec.add_assoc]
      exact hBack (i - n) (by omega)

/- Behind a range that is mapped only the rest matters. -/
theorem allMapped_iff_behind
    (hFront : AllMapped mapped address n) :
    AllMapped mapped address c ↔
      ∀ i, n ≤ i → i < c →
        mapped (address + BitVec.ofNat 64 i) := by
  constructor
  · intro hAll i _ hLt
    exact hAll i hLt
  · intro hBehind i hLt
    by_cases hIn : i < n
    · exact hFront i hIn
    · exact hBehind i (Nat.le_of_not_lt hIn) hLt

end

end AnDbg

------------------------------------------------------------
-- Both Loops
------------------------------------------------------------

namespace AnDbg

namespace ProcessMemory

open Loop

variable {κ : Type}
variable [ProcessMemory κ]
variable {mapped : κ → Addr → Prop}
variable {pid : Pid} {address : Addr} {size : Nat}
variable {buffer : List Byte} {k : κ}

/- Words can be read exactly if they are mapped. -/
theorem peekable_iff
    (hLaws : MappingLaws mapped)
    (pid : Pid)
    (n : Nat)
    (address : Addr)
    (k : κ) :
    Peekable pid n address k ↔
      AllMapped (mapped k) address (8 * n) := by
  induction n generalizing address k with
  | zero => exact iff_of_true trivial AllMapped.zero
  | succ n ih =>
      have hSucc : 8 * (n + 1) = 8 + 8 * n := by omega
      rw [Peekable, ih, hLaws.peek_iff, hLaws.peek_mapped,
        hSucc, allMapped_add]
      rfl

/-
  The words that were written are mapped, and the mapping is
  as it was.
-/
def MappedSoFar
    (mapped : κ → Addr → Prop)
    (address : Addr)
    (size : Nat)
    (k : κ)
    (s : WriteState κ) : Prop :=
  ∃ n, s.bytesWritten = min (8 * n) size ∧
    8 * n < size + 8 ∧
    mapped s.world = mapped k ∧
    AllMapped (mapped k) address (8 * n)

/- A pass that fails has met a word that is not mapped. -/
omit [ProcessMemory κ] in
theorem MappedSoFar.failed
    {s : WriteState κ}
    (hSoFar : MappedSoFar mapped address size k s)
    (hLt : s.bytesWritten < size)
    (hFails :
      ¬ AllMapped (mapped s.world)
        (address + BitVec.ofNat 64 s.bytesWritten) 8) :
    ¬ AllMapped (mapped k) address (8 * words size) := by
  rcases hSoFar with ⟨n, hBytes, -, hSame, -⟩
  have hHere : s.bytesWritten = 8 * n := by omega
  rw [hSame, hHere] at hFails
  intro hAll
  have hLast : 8 * n + 8 ≤ 8 * words size := by
    unfold words
    omega
  have hFront : AllMapped (mapped k) address (8 * n + 8) :=
    fun i hi => hAll i (Nat.lt_of_lt_of_le hi hLast)
  exact hFails (allMapped_add.mp hFront).2

section

variable (hLaws : MappingLaws mapped)
include hLaws

theorem mapped_beforePoke
    (place : Addr)
    (remainSize : Nat)
    (k : κ) :
    mapped (beforePoke pid place remainSize k) =
      mapped k := by
  unfold beforePoke
  split
  next => exact hLaws.peek_mapped pid place k
  next => rfl

/- A word is written exactly if it is mapped. -/
theorem pokeWord_iff
    (place : Addr)
    (remainSize : Nat)
    (k : κ) :
    Succeeds (pokeWord pid place remainSize k).1 ↔
      AllMapped (mapped k) place 8 := by
  unfold pokeWord
  rw [hLaws.poke_iff, mapped_beforePoke hLaws]

theorem MappedSoFar.next
    {s s' : WriteState κ}
    (hSoFar : MappedSoFar mapped address size k s)
    (hPass : writePass pid address buffer size s = .next s') :
    MappedSoFar mapped address size k s' := by
  rcases hSoFar with ⟨n, hBytes, -, hSame, hMapped⟩
  rcases writePass_next hPass with ⟨hLt, -, hOk, rfl⟩
  have hHere : s.bytesWritten = 8 * n := by omega
  rw [pokeWord_iff hLaws, hSame, hHere] at hOk
  refine ⟨n + 1, ?_, ?_, ?_, ?_⟩
  · dsimp only
    omega
  · omega
  · dsimp only
    unfold pokeWord
    rw [hLaws.poke_mapped, mapped_beforePoke hLaws, hSame]
  · rw [Nat.mul_succ, allMapped_add]
    exact ⟨hMapped, hOk⟩

/- The loop of a write succeeds if its words are mapped. -/
theorem writeMemoryPtrace_fst_iff
    (pid : Pid)
    (address : Addr)
    (buffer : List Byte)
    (size : Nat)
    (k : κ) :
    (writeMemoryPtrace pid address buffer size k).1 = true ↔
      AllMapped (mapped k) address (8 * words size) := by
  refine Ends.rule
    (MappedSoFar mapped address size k)
    (fun r =>
      r.1 = true ↔
        AllMapped (mapped k) address (8 * words size))
    ?_ ?_ ?_ (ends_run (writeVariant pid address buffer size) _)
  · intro s s' hSoFar hPass
    exact hSoFar.next hLaws hPass
  · intro s r hSoFar hPass
    rcases writePass_done hPass with
      ⟨hLt, hFalse, hFails⟩ | ⟨hEnd, rfl⟩
    · rw [hLaws.peek_iff, pokeWord_iff hLaws] at hFails
      have hWord :
          ¬ AllMapped (mapped s.world)
            (address + BitVec.ofNat 64 s.bytesWritten) 8 :=
        hFails.elim And.right id
      rw [hFalse]
      exact iff_of_false Bool.false_ne_true
        (hSoFar.failed hLt hWord)
    · rcases hSoFar with ⟨n, hBytes, hLast, -, hMapped⟩
      have hAll : n = words size := by
        unfold words
        omega
      rw [hAll] at hMapped
      exact iff_of_true rfl hMapped
  · exact ⟨0, (Nat.zero_min size).symm, by omega, rfl,
      AllMapped.zero⟩

/-
  On a range whose bytes are mapped either loop succeeds
  exactly if the bytes that its last word has behind the
  range are mapped too.
-/
theorem loops_succeed_iff
    (pid : Pid)
    (address : Addr)
    (buffer : List Byte)
    (size : Nat)
    (k : κ)
    (hMapped : AllMapped (mapped k) address size) :
    let behind :=
      ∀ i, size ≤ i → i < 8 * words size →
        mapped k (address + BitVec.ofNat 64 i)
    ((readMemoryPtrace pid address buffer size k).1 = true ↔
        behind) ∧
      ((writeMemoryPtrace pid address buffer size k).1 =
          true ↔
        behind) := by
  intro behind
  have hBehind :
      AllMapped (mapped k) address (8 * words size) ↔ behind :=
    allMapped_iff_behind hMapped
  constructor
  · rw [readMemoryPtrace_fst_iff, peekable_iff hLaws, hBehind]
  · rw [writeMemoryPtrace_fst_iff hLaws, hBehind]

end

end ProcessMemory

namespace SimulatedProcess

open ProcessMemory

theorem mapsAll_iff
    (p : SimulatedProcess)
    (address : Addr)
    (n : Nat) :
    p.mapsAll address n = true ↔
      AllMapped (fun a => p.mapped a = true) address n := by
  unfold mapsAll AllMapped
  rw [List.all_eq_true]
  refine forall_congr' fun i => ?_
  rw [List.mem_range]

theorem mappingLaws :
    MappingLaws fun (p : SimulatedProcess) a =>
      p.mapped a = true where
  peek_iff _ address p := by
    unfold peekData instProcessMemory Succeeds
    dsimp only
    rw [← mapsAll_iff]
    split
    next hMapped =>
      exact iff_of_true (fun h => h.2 rfl) hMapped
    next hHole =>
      exact iff_of_false
        (fun h => h ⟨rfl, (by decide : (5 : Int) ≠ 0)⟩) hHole
  peek_mapped _ address p := by
    unfold peekData instProcessMemory
    dsimp only
    split
    next => rfl
    next => rfl
  poke_iff _ address data p := by
    unfold pokeData instProcessMemory Succeeds
    dsimp only
    rw [← mapsAll_iff]
    split
    next hMapped =>
      exact iff_of_true (fun h => h.2 rfl) hMapped
    next hHole =>
      exact iff_of_false
        (fun h => h ⟨rfl, (by decide : (5 : Int) ≠ 0)⟩) hHole
  poke_mapped _ address data p := by
    unfold pokeData instProcessMemory
    dsimp only
    split
    next => rfl
    next => rfl

end SimulatedProcess

namespace ProcessMemory

/- Four bytes in the middle of a page. -/
theorem loops_succeed_iff_inside :
    let p := SimulatedProcess.page false
    let buffer := List.replicate 4 0#8
    let behind :=
      ∀ i, 4 ≤ i → i < 8 * words 4 →
        p.mapped (0x1000 + BitVec.ofNat 64 i) = true
    ((readMemoryPtrace 7 0x1000 buffer 4 p).1 = true ↔
        behind) ∧
      ((writeMemoryPtrace 7 0x1000 buffer 4 p).1 = true ↔
        behind) :=
  loops_succeed_iff SimulatedProcess.mappingLaws 7 0x1000
    (List.replicate 4 0#8) 4 (SimulatedProcess.page false)
    (by unfold AllMapped; decide)

/- The last instruction of a page is out of reach. -/
theorem not_loops_succeed_end :
    let p := SimulatedProcess.page false
    let buffer := List.replicate 4 0#8
    AllMapped (fun a => p.mapped a = true) 0x1FFC 4 ∧
      (readMemoryPtrace 7 0x1FFC buffer 4 p).1 = false ∧
      (writeMemoryPtrace 7 0x1FFC buffer 4 p).1 = false := by
  refine ⟨?_, by decide, by decide⟩
  unfold AllMapped
  decide

end ProcessMemory

end AnDbg
