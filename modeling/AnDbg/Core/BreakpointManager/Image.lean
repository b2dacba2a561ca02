import AnDbg.Core.BreakpointManager.Table
import AnDbg.Core.SimulatedTarget

/-
  The memory of the target is its base image with
  `BRK_OPCODE` laid over the words of the live enabled
  software breakpoints, and nothing else.

  Writing the instruction inserts a word into the overlay
  and writing the saved one back takes it out, so every
  operation that reports success moves the overlay and the
  flags of the table together.

  Main declarations:
    * `AnDbg.BreakpointManager.patchedWords`
    * `AnDbg.BreakpointManager.ImageInvariant`
    * `AnDbg.BreakpointManager.step_image`
    * `AnDbg.BreakpointManager.software_image`
-/

------------------------------------------------------------
-- Patched Words
------------------------------------------------------------

namespace AnDbg

namespace BreakpointManager

open ByteMemory LittleEndian

/- The breakpoint stands in memory. -/
def IsPatched (bp : Breakpoint) : Prop :=
  bp.type = .software ∧ bp.enabled = true

/- The addresses of the live enabled software breakpoints. -/
def patchedWords (m : BreakpointManager) : Set Addr :=
  { address |
    ∃ id bp, m.breakpoints.lookup id = some bp ∧
      IsPatched bp ∧ bp.address = address }

/- The bytes of the breakpoint instruction. -/
def brkBytes : List Byte :=
  encode 4 Breakpoint.BRK_OPCODE

variable {m m' : BreakpointManager}
variable {id : Int} {bp : Breakpoint}

theorem patchedWords_congr
    (hBreakpoints : m'.breakpoints = m.breakpoints) :
    patchedWords m' = patchedWords m := by
  rw [patchedWords, patchedWords, hBreakpoints]

/- Entering a breakpoint that is patched adds its address. -/
theorem patchedWords_enter
    (hFresh : bp.id ∉ m.breakpoints)
    (hPatched : IsPatched bp) :
    patchedWords (m.enter bp) =
      insert bp.address (patchedWords m) := by
  ext address
  constructor
  · rintro ⟨id, found, hLookup, hFound, rfl⟩
    rcases lookup_enter_cases hLookup with
      ⟨-, rfl⟩ | ⟨-, hOld⟩
    · exact .inl rfl
    · exact .inr ⟨id, found, hOld, hFound, rfl⟩
  · rintro (rfl | ⟨id, found, hLookup, hFound, rfl⟩)
    · refine ⟨bp.id, bp, ?_, hPatched, rfl⟩
      rw [lookup_enter, if_pos rfl]
    · exact ⟨id, found, lookup_enter_of_fresh hFresh hLookup,
        hFound, rfl⟩

/- Entering one that is not adds nothing. -/
theorem patchedWords_enter_hardware
    (hFresh : bp.id ∉ m.breakpoints)
    (hType : bp.type ≠ .software) :
    patchedWords (m.enter bp) = patchedWords m := by
  ext address
  constructor
  · rintro ⟨id, found, hLookup, hFound, rfl⟩
    rcases lookup_enter_cases hLookup with
      ⟨-, rfl⟩ | ⟨-, hOld⟩
    · exact absurd hFound.1 hType
    · exact ⟨id, found, hOld, hFound, rfl⟩
  · rintro ⟨id, found, hLookup, hFound, rfl⟩
    exact ⟨id, found, lookup_enter_of_fresh hFresh hLookup,
      hFound, rfl⟩

/- Erasing a breakpoint takes its address away. -/
theorem patchedWords_erase
    (hTables : Consistent m)
    (hLookup : m.breakpoints.lookup id = some bp) :
    patchedWords (m.eraseBreakpoint id bp) =
      patchedWords m \ {bp.address} := by
  ext address
  constructor
  · rintro ⟨id', found, hFound, hPatched, rfl⟩
    rw [lookup_eraseBreakpoint] at hFound
    split at hFound
    next => cases hFound
    next hNe =>
      refine ⟨⟨id', found, hFound, hPatched, rfl⟩, ?_⟩
      intro hEq
      exact hNe (hTables.distinct id' found id bp hFound
        hLookup hEq)
  · rintro ⟨⟨id', found, hFound, hPatched, rfl⟩, hNe⟩
    refine ⟨id', found, ?_, hPatched, rfl⟩
    rw [lookup_eraseBreakpoint, if_neg, hFound]
    rintro rfl
    rw [hLookup] at hFound
    exact hNe (congrArg Breakpoint.address
      (Option.some.inj hFound)).symm

/- Nothing else stands where a breakpoint does not. -/
theorem notMem_patchedWords
    (hTables : Consistent m)
    (hLookup : m.breakpoints.lookup id = some bp)
    (hNot : ¬ IsPatched bp) :
    bp.address ∉ patchedWords m := by
  rintro ⟨id', found, hFound, hPatched, hEq⟩
  have hSame : id' = id :=
    hTables.distinct id' found id bp hFound hLookup hEq
  rw [hSame, hLookup] at hFound
  rw [← Option.some.inj hFound] at hPatched
  exact hNot hPatched

/- A breakpoint that is not there has nothing to take away. -/
theorem patchedWords_erase_unpatched
    (hTables : Consistent m)
    (hLookup : m.breakpoints.lookup id = some bp)
    (hNot : ¬ IsPatched bp) :
    patchedWords (m.eraseBreakpoint id bp) =
      patchedWords m := by
  rw [patchedWords_erase hTables hLookup]
  exact Set.sdiff_singleton_eq_self
    (notMem_patchedWords hTables hLookup hNot)

/- Switching a software breakpoint moves its own address. -/
theorem mem_patchedWords_setEnabled
    (hTables : Consistent m)
    (hLookup : m.breakpoints.lookup id = some bp)
    (hType : bp.type = .software)
    (on : Bool)
    (address : Addr) :
    address ∈ patchedWords (m.setEnabled id bp on) ↔
      (address = bp.address ∧ on = true) ∨
        (address ≠ bp.address ∧ address ∈ patchedWords m) := by
  constructor
  · rintro ⟨id', found, hFound, hPatched, rfl⟩
    rw [lookup_setEnabled] at hFound
    split at hFound
    next =>
      rw [← Option.some.inj hFound] at hPatched ⊢
      exact .inl ⟨rfl, hPatched.2⟩
    next hNe =>
      refine .inr ⟨?_, id', found, hFound, hPatched, rfl⟩
      intro hEq
      exact hNe (hTables.distinct id' found id bp hFound
        hLookup hEq)
  · rintro (⟨rfl, rfl⟩ | ⟨hNe, id', found, hFound, hPatched,
      rfl⟩)
    · refine ⟨id, { bp with enabled := true }, ?_,
        ⟨hType, rfl⟩, rfl⟩
      rw [lookup_setEnabled, if_pos rfl]
    · refine ⟨id', found, ?_, hPatched, rfl⟩
      rw [lookup_setEnabled, if_neg, hFound]
      rintro rfl
      rw [hLookup] at hFound
      exact hNe (congrArg Breakpoint.address
        (Option.some.inj hFound)).symm

theorem patchedWords_setEnabled
    (hTables : Consistent m)
    (hLookup : m.breakpoints.lookup id = some bp)
    (hType : bp.type = .software)
    (on : Bool) :
    patchedWords (m.setEnabled id bp on) =
      if on then insert bp.address (patchedWords m)
      else patchedWords m \ {bp.address} := by
  ext address
  rw [mem_patchedWords_setEnabled hTables hLookup hType]
  by_cases hEq : address = bp.address
  · cases on <;> simp [hEq]
  · cases on <;> simp [hEq]

/- A hardware breakpoint has no address to move. -/
theorem patchedWords_setEnabled_hardware
    (hLookup : m.breakpoints.lookup id = some bp)
    (hType : bp.type ≠ .software)
    (on : Bool) :
    patchedWords (m.setEnabled id bp on) =
      patchedWords m := by
  ext address
  constructor
  · rintro ⟨id', found, hFound, hPatched, rfl⟩
    rw [lookup_setEnabled] at hFound
    split at hFound
    next =>
      rw [← Option.some.inj hFound] at hPatched
      exact absurd hPatched.1 hType
    next => exact ⟨id', found, hFound, hPatched, rfl⟩
  · rintro ⟨id', found, hFound, hPatched, rfl⟩
    refine ⟨id', found, ?_, hPatched, rfl⟩
    rw [lookup_setEnabled, if_neg, hFound]
    rintro rfl
    rw [hLookup] at hFound
    rw [← Option.some.inj hFound] at hPatched
    exact hType hPatched.1

end BreakpointManager

end AnDbg

------------------------------------------------------------
-- The Image Of A State
------------------------------------------------------------

namespace AnDbg

namespace BreakpointManager

open ByteMemory LittleEndian

/- What was saved of a live software breakpoint. -/
def SavedWords
    (base : Memory)
    (m : BreakpointManager) : Prop :=
  ∀ id bp, m.breakpoints.lookup id = some bp →
    bp.type = .software →
    bp.originalInstruction = word base bp.address

/-
  The memory is the base image under the patched words, and
  every software breakpoint saved the base word.
-/
structure Image
    (base : Memory)
    (m : BreakpointManager)
    (memory : Memory) : Prop where
  tables : Consistent m
  saved : SavedWords base m
  overlaid :
    memory = overlay 4 base (patchedWords m) brkBytes

variable {base : Memory} {m m' : BreakpointManager}
variable {memory : Memory} {address : Addr}

theorem length_brkBytes : brkBytes.length = 4 :=
  length_encode 4 Breakpoint.BRK_OPCODE

theorem four_dvd : 4 ∣ 2 ^ 64 := by
  decide

/- The saved word of an aligned cell is that of the base. -/
theorem encode_word
    (base : Memory)
    (address : Addr) :
    encode 4 (word base address) = read base address 4 := by
  have hLength : (read base address 4).length = 4 :=
    length_read base address 4
  have hEncode :=
    encode_decode (w := 32) (read base address 4)
      (by rw [hLength])
  rw [hLength] at hEncode
  exact hEncode

/- Writing the instruction patches a word. -/
theorem write_brk
    {cells : Set Addr}
    (hAligned : address &&& 0x3 = 0) :
    write (overlay 4 base cells brkBytes) address
        (encode 4 Breakpoint.BRK_OPCODE) =
      overlay 4 base (insert address cells) brkBytes :=
  write_pattern_overlay (aligned_iff.mp hAligned) (by decide)
    four_dvd length_brkBytes

/- Writing the saved word back restores it. -/
theorem write_saved
    {cells : Set Addr}
    (hAligned : address &&& 0x3 = 0) :
    write (overlay 4 base cells brkBytes) address
        (encode 4 (word base address)) =
      overlay 4 base (cells \ {address}) brkBytes := by
  rw [encode_word]
  exact write_base_overlay (aligned_iff.mp hAligned)
    (by decide) four_dvd

/- Outside the patched words the overlay is the base. -/
theorem overlay_eq_base
    (hTables : Consistent m)
    {x : Addr}
    (hOutside :
      ∀ id bp, m.breakpoints.lookup id = some bp →
        IsPatched bp → ¬ Covers bp.address 4 x) :
    overlay 4 base (patchedWords m) brkBytes x = base x := by
  apply overlay_of_cellOf_notMem
  rintro ⟨id, bp, hLookup, hPatched, hCell⟩
  apply hOutside id bp hLookup hPatched
  exact (covers_iff_cellOf_eq
    (aligned_iff.mp (hTables.entry id bp hLookup).aligned)
    (by decide) four_dvd x).mpr hCell.symm

theorem image_init
    (base : Memory) :
    Image base init base where
  tables := consistent_init
  saved id bp hLookup := by simp [init] at hLookup
  overlaid := by
    have hNone : patchedWords init = ∅ := by
      ext address
      simp [patchedWords, init]
    rw [hNone, overlay_empty]

/- Other tables do not matter to the image. -/
theorem Image.of_same
    (hImage : Image base m memory)
    (hSame : SameTables m m') :
    Image base m' memory where
  tables := hImage.tables.of_same hSame
  saved := by
    rw [SavedWords, hSame.breakpoints]
    exact hImage.saved
  overlaid := by
    rw [patchedWords_congr hSame.breakpoints]
    exact hImage.overlaid

theorem Image.skipId
    (hImage : Image base m memory) :
    Image base m.skipId memory where
  tables := hImage.tables.skipId
  saved := hImage.saved
  overlaid := hImage.overlaid

/- A word at no breakpoint reads as the base has it. -/
theorem word_overlay_of_notMem
    {cells : Set Addr}
    (hAligned : address &&& 0x3 = 0)
    (hUnpatched : address ∉ cells) :
    word (overlay 4 base cells brkBytes) address =
      word base address := by
  have hRead :
      read (overlay 4 base cells brkBytes) address 4 =
        read base address 4 :=
    (read_overlay (aligned_iff.mp hAligned) four_dvd
      length_brkBytes).2 hUnpatched
  rw [word, hRead, word]

theorem word_overlay_of_mem
    {cells : Set Addr}
    (hAligned : address &&& 0x3 = 0)
    (hPatched : address ∈ cells) :
    word (overlay 4 base cells brkBytes) address =
      Breakpoint.BRK_OPCODE := by
  have hRead :
      read (overlay 4 base cells brkBytes) address 4 =
        brkBytes :=
    (read_overlay (aligned_iff.mp hAligned) four_dvd
      length_brkBytes).1 hPatched
  rw [word, hRead]
  exact decode_encode Breakpoint.BRK_OPCODE (by decide)

theorem Image.word_eq
    (hImage : Image base m memory)
    (hAligned : address &&& 0x3 = 0)
    (hUnpatched : address ∉ patchedWords m) :
    word memory address = word base address := by
  rw [hImage.overlaid]
  exact word_overlay_of_notMem hAligned hUnpatched

theorem Image.word_brk
    (hImage : Image base m memory)
    (hAligned : address &&& 0x3 = 0)
    (hPatched : address ∈ patchedWords m) :
    word memory address = Breakpoint.BRK_OPCODE := by
  rw [hImage.overlaid]
  exact word_overlay_of_mem hAligned hPatched

/- A new software breakpoint at an address of its own. -/
theorem Image.enter_software
    {tid : Pid}
    (hImage : Image base m memory)
    (hAligned : address &&& 0x3 = 0)
    (hUnique : m.checkDuplicateBreakpoint address = false)
    (hTid : 1 ≤ tid) :
    Image base
      (m.enter
        (softwareBreakpoint m.nextBreakpointId tid address
          (word memory address)))
      (write memory address
        (encode 4 Breakpoint.BRK_OPCODE)) where
  tables := hImage.tables.enter rfl hTid hAligned hUnique
  saved := by
    have hUnpatched : address ∉ patchedWords m := by
      rintro ⟨id, bp, hLookup, -, hEq⟩
      exact checkDuplicateBreakpoint_eq_false_iff.mp hUnique
        id bp hLookup hEq
    intro id found hLookup hType
    rcases lookup_enter_cases hLookup with
      ⟨-, rfl⟩ | ⟨-, hOld⟩
    · exact hImage.word_eq hAligned hUnpatched
    · exact hImage.saved id found hOld hType
  overlaid := by
    have hPatched :
        IsPatched
          (softwareBreakpoint m.nextBreakpointId tid address
            (word memory address)) :=
      ⟨rfl, rfl⟩
    rw [patchedWords_enter hImage.tables.fresh hPatched,
      hImage.overlaid]
    exact write_brk hAligned

/- A new hardware breakpoint leaves the memory alone. -/
theorem Image.enter_hardware
    {bp : Breakpoint}
    (hImage : Image base m memory)
    (hTables : Consistent (m.enter bp))
    (hId : bp.id = m.nextBreakpointId)
    (hType : bp.type ≠ .software) :
    Image base (m.enter bp) memory where
  tables := hTables
  saved := by
    intro id found hLookup hFound
    rcases lookup_enter_cases hLookup with
      ⟨-, rfl⟩ | ⟨-, hOld⟩
    · exact absurd hFound hType
    · exact hImage.saved id found hOld hFound
  overlaid := by
    rw [patchedWords_enter_hardware
      (hId ▸ hImage.tables.fresh) hType]
    exact hImage.overlaid

theorem SavedWords.erase
    {id : Int}
    (hSaved : SavedWords base m)
    (bp : Breakpoint) :
    SavedWords base (m.eraseBreakpoint id bp) := by
  intro id' found hFound hType
  rw [lookup_eraseBreakpoint] at hFound
  split at hFound
  next => cases hFound
  next => exact hSaved id' found hFound hType

/- A software breakpoint goes once its word is back. -/
theorem Image.erase_software
    {id : Int}
    {bp : Breakpoint}
    (hImage : Image base m memory)
    (hLookup : m.breakpoints.lookup id = some bp)
    (hType : bp.type = .software) :
    Image base (m.eraseBreakpoint id bp)
      (write memory bp.address
        (encode 4 bp.originalInstruction)) where
  tables := hImage.tables.erase hLookup
  saved := hImage.saved.erase bp
  overlaid := by
    rw [patchedWords_erase hImage.tables hLookup,
      hImage.saved id bp hLookup hType, hImage.overlaid]
    exact write_saved
      (hImage.tables.entry id bp hLookup).aligned

theorem Image.erase_hardware
    {id : Int}
    {bp : Breakpoint}
    (hImage : Image base m memory)
    (hLookup : m.breakpoints.lookup id = some bp)
    (hType : bp.type ≠ .software) :
    Image base (m.eraseBreakpoint id bp) memory where
  tables := hImage.tables.erase hLookup
  saved := hImage.saved.erase bp
  overlaid := by
    rw [patchedWords_erase_unpatched hImage.tables hLookup
      fun hPatched => hType hPatched.1]
    exact hImage.overlaid

theorem SavedWords.setEnabled
    {id : Int}
    {bp : Breakpoint}
    {on : Bool}
    (hSaved : SavedWords base m)
    (hLookup : m.breakpoints.lookup id = some bp) :
    SavedWords base (m.setEnabled id bp on) := by
  intro id' found hFound hType
  rcases lookup_setEnabled_cases hLookup hFound with
    ⟨old, hOld, rfl⟩
  exact hSaved id' old hOld hType

/- A software breakpoint is switched by the word it stands on. -/
theorem Image.switch_software
    {id : Int}
    {bp : Breakpoint}
    {on : Bool}
    (hImage : Image base m memory)
    (hLookup : m.breakpoints.lookup id = some bp)
    (hType : bp.type = .software) :
    Image base (m.setEnabled id bp on)
      (write memory bp.address
        (encode 4 (instructionFor on bp))) where
  tables := hImage.tables.setEnabled hLookup
  saved := hImage.saved.setEnabled hLookup
  overlaid := by
    have hAligned :=
      (hImage.tables.entry id bp hLookup).aligned
    rw [patchedWords_setEnabled hImage.tables hLookup hType,
      hImage.overlaid]
    cases on with
    | true => exact write_brk hAligned
    | false =>
        have hSaved := hImage.saved id bp hLookup hType
        rw [instructionFor, if_neg Bool.false_ne_true, hSaved]
        exact write_saved hAligned

theorem Image.switch_hardware
    {id : Int}
    {bp : Breakpoint}
    {on : Bool}
    (hImage : Image base m memory)
    (hLookup : m.breakpoints.lookup id = some bp)
    (hType : bp.type ≠ .software) :
    Image base (m.setEnabled id bp on) memory where
  tables := hImage.tables.setEnabled hLookup
  saved := hImage.saved.setEnabled hLookup
  overlaid := by
    rw [patchedWords_setEnabled_hardware hLookup hType]
    exact hImage.overlaid

end BreakpointManager

end AnDbg

------------------------------------------------------------
-- Operations Keep The Image
------------------------------------------------------------

namespace AnDbg

namespace BreakpointManager

open ByteMemory LittleEndian MemoryControl RegisterControl

variable {κ : Type}
variable [MemoryControl κ] [Regset κ]
variable {memory : κ → Memory} {base : Memory}
variable {m m' : BreakpointManager} {k k' : κ}
variable {tid : Pid} {address : Addr}

/- Register calls leave the memory alone. -/
theorem RegisterCalls.memory_eq
    (hLaws : MemoryLaws memory)
    (hCalls : RegisterCalls tid k k') :
    memory k' = memory k := by
  induction hCalls with
  | refl => rfl
  | get _ hGet ih => exact (hLaws.getRegset hGet).trans ih
  | set _ hSet ih => exact (hLaws.setRegset hSet).trans ih

theorem SetSoftwareExit.image
    {result : Except StdException Int}
    (hLaws : MemoryLaws memory)
    (hImage : Image base m (memory k))
    (hExit : SetSoftwareExit tid address m k result m' k') :
    Image base m' (memory k') := by
  have hBuffer : (encode 4 (0 : Word)).length = 4 :=
    length_encode 4 0
  cases hExit with
  | misaligned => exact hImage
  | duplicate => exact hImage
  | readFailed hAligned hRead =>
      rw [hLaws.read_memory (aligned_iff.mp hAligned) hBuffer
        hRead]
      exact hImage
  | writeFailed hAligned hRead hWrite =>
      rw [hLaws.write_false (aligned_iff.mp hAligned)
          length_brkBytes hWrite,
        hLaws.read_memory (aligned_iff.mp hAligned) hBuffer
          hRead]
      exact hImage
  | refused e hTid hAligned hRead =>
      have hPos :=
        (hLaws.read_true (aligned_iff.mp hAligned) hBuffer
          hRead).1
      exact absurd hTid (Int.not_lt.mpr hPos)
  | created hAligned hUnique hTid hRead hWrite =>
      have hCell := aligned_iff.mp hAligned
      have hBytes := (hLaws.read_true hCell hBuffer hRead).2
      have hMemory :=
        (hLaws.write_true hCell length_brkBytes hWrite).2
      rw [hLaws.read_memory hCell hBuffer hRead] at hMemory
      rw [hMemory, hBytes]
      exact hImage.enter_software hAligned hUnique hTid

theorem SetHardwareExit.image
    {type : BreakpointType}
    {result : Except StdException Int}
    (hLaws : MemoryLaws memory)
    (hImage : Image base m (memory k))
    (hExit :
      SetHardwareExit tid address type m k result m' k') :
    Image base m' (memory k') := by
  have hSame :
      ∀ {success m₁ k₁},
        InitExit tid (m.touchFree tid) k success m₁ k₁ →
        memory k₁ = memory k :=
    fun hInit => hInit.calls.memory_eq hLaws
  have hSet :
      ∀ {reg value done k₁ k₂},
        setDbg tid reg value k₁ = (done, k₂) →
        memory k₂ = memory k₁ :=
    fun hDone => (RegisterCalls.of_setDbg hDone).memory_eq hLaws
  cases hExit with
  | misaligned => exact hImage
  | duplicate => exact hImage
  | noFree => exact hImage.of_same ⟨rfl, rfl, rfl⟩
  | initFailed _ hInit =>
      rw [hSame hInit]
      rcases SameTables.of_init hInit with
        ⟨hBreakpoints, hIndex, hNext⟩
      exact hImage.of_same ⟨hBreakpoints, hIndex, hNext⟩
  | wrongType _ hInit =>
      rw [hSame hInit]
      exact hImage.of_same (.takeRegister hInit _)
  | setFailed _ hInit _ _ hDone =>
      rw [hSet hDone, hSame hInit]
      rcases SameTables.of_init hInit with
        ⟨hBreakpoints, hIndex, hNext⟩
      exact hImage.of_same ⟨hBreakpoints, hIndex, hNext⟩
  | refused e _ _ hInit _ _ hDone =>
      rw [hSet hDone, hSame hInit]
      rcases SameTables.of_init hInit with
        ⟨hBreakpoints, hIndex, hNext⟩
      exact hImage.skipId.of_same
        ⟨hBreakpoints, hIndex, congrArg (· + 1) hNext⟩
  | @created reg control _ _ _ hAligned hUnique hTid _ hInit _
      hType hDone =>
      have hSoftware : type ≠ .software := by
        rintro rfl
        cases hType
      have hTables :
          Consistent
            (m.enter
              (hardwareBreakpoint m.nextBreakpointId tid
                address type reg)) :=
        hImage.tables.enter rfl hTid hAligned hUnique
      rw [hSet hDone, hSame hInit]
      exact (hImage.enter_hardware hTables rfl
        hSoftware).of_same
          ((SameTables.takeRegister hInit _).enter _)

theorem RemoveExit.image
    {id : Int}
    {success : Bool}
    (hLaws : MemoryLaws memory)
    (hImage : Image base m (memory k))
    (hExit : RemoveExit id m k success m' k') :
    Image base m' (memory k') := by
  cases hExit with
  | absent => exact hImage
  | writeFailed hLookup hType hWrite =>
      have hAligned :=
        (hImage.tables.entry _ _ hLookup).aligned
      rw [hLaws.write_false (aligned_iff.mp hAligned)
        (length_encode 4 _) hWrite]
      exact hImage
  | restored hLookup hType hWrite =>
      have hAligned :=
        (hImage.tables.entry _ _ hLookup).aligned
      rw [(hLaws.write_true (aligned_iff.mp hAligned)
        (length_encode 4 _) hWrite).2]
      exact hImage.erase_software hLookup hType
  | @released bp hLookup hType =>
      rw [(RegisterCalls.of_disarm bp k).memory_eq hLaws]
      exact (hImage.erase_hardware hLookup hType).of_same
        ⟨rfl, rfl, rfl⟩
  | dropped hLookup hType =>
      exact hImage.erase_hardware hLookup hType

theorem ToggleExit.image
    {on : Bool}
    {id : Int}
    {success : Bool}
    (hLaws : MemoryLaws memory)
    (hImage : Image base m (memory k))
    (hExit : ToggleExit on id m k success m' k') :
    Image base m' (memory k') := by
  cases hExit with
  | absent => exact hImage
  | already => exact hImage
  | writeFailed hLookup hType hWrite =>
      have hAligned :=
        (hImage.tables.entry _ _ hLookup).aligned
      rw [hLaws.write_false (aligned_iff.mp hAligned)
        (length_encode 4 _) hWrite]
      exact hImage
  | patched hLookup _ hType hWrite =>
      have hAligned :=
        (hImage.tables.entry _ _ hLookup).aligned
      rw [(hLaws.write_true (aligned_iff.mp hAligned)
        (length_encode 4 _) hWrite).2]
      exact hImage.switch_software hLookup hType
  | getFailed _ _ hGet =>
      rw [(RegisterCalls.of_getDbg hGet).memory_eq hLaws]
      exact hImage
  | setFailed _ _ hGet hSet =>
      rw [(RegisterCalls.of_setDbg hSet).memory_eq hLaws,
        (RegisterCalls.of_getDbg hGet).memory_eq hLaws]
      exact hImage
  | switched hLookup _ hType hGet hSet =>
      rw [(RegisterCalls.of_setDbg hSet).memory_eq hLaws,
        (RegisterCalls.of_getDbg hGet).memory_eq hLaws]
      exact hImage.switch_hardware hLookup hType
  | flagged hLookup _ hType =>
      exact hImage.switch_hardware hLookup hType

end BreakpointManager

end AnDbg

------------------------------------------------------------
-- Runs
------------------------------------------------------------

namespace AnDbg

namespace BreakpointManager

open ByteMemory Run

variable {κ : Type}
variable [MemoryControl κ] [Regset κ]
variable [HashOrder κ DBRegister]
variable {memory : κ → Memory} {base : Memory}

theorem step_image
    (hLaws : MemoryLaws memory)
    (s : Session κ)
    (op : Op)
    (hImage : Image base s.manager (memory s.world)) :
    Image base (step op s).manager
      (memory (step op s).world) := by
  have hProbe (tid : Pid) :
      Image base
        (s.manager.initHardwareRegister tid s.world).object
        (memory
          (s.manager.initHardwareRegister tid
            s.world).world) := by
    have hExit :=
      initHardwareRegister_exit tid s.manager s.world
    rw [hExit.calls.memory_eq hLaws]
    exact hImage.of_same (.of_init hExit)
  cases op with
  | getHardwareRegistersCount tid =>
      have hCount := hProbe tid
      rw [← getHardwareRegistersCount_object,
        ← getHardwareRegistersCount_world] at hCount
      exact hCount
  | initHardwareRegister tid => exact hProbe tid
  | setSoftwareBreakpoint tid address =>
      exact (setSoftwareBreakpoint_exit hImage.tables.fresh
        tid address s.world).image hLaws hImage
  | setHardwareBreakpoint tid address type =>
      exact (setHardwareBreakpoint_exit hImage.tables.fresh
        tid address type s.world).image hLaws hImage
  | removeBreakpoint id =>
      exact (removeBreakpoint_exit id s.manager
        s.world).image hLaws hImage
  | enable id =>
      exact (enable_exit id s.manager s.world).image hLaws
        hImage
  | disable id =>
      exact (disable_exit id s.manager s.world).image hLaws
        hImage
  | getBreakpoints => exact hImage
  | getBreakpointsOf tid => exact hImage
  | getBreakpoint id => exact hImage
  | getBreakpointAt address => exact hImage

/- The image of every state that a run reaches. -/
theorem image_run
    (hLaws : MemoryLaws memory)
    (ops : List Op)
    {s : Session κ}
    (hImage : Image base s.manager (memory s.world)) :
    Image base (run step ops s).manager
      (memory (run step ops s).world) :=
  run_invariant (step_image hLaws) ops hImage

/- Outside the patched words the memory is the base. -/
theorem Image.eq_base
    {m : BreakpointManager}
    {current : Memory}
    (hImage : Image base m current)
    {x : Addr}
    (hOutside :
      ∀ id bp, m.breakpoints.lookup id = some bp →
        IsPatched bp → ¬ Covers bp.address 4 x) :
    current x = base x := by
  rw [hImage.overlaid]
  exact overlay_eq_base hImage.tables hOutside

/-
  In every state that a run reaches, each live software
  breakpoint saved the base word at its address, its word is
  `BRK_OPCODE` or the base word as it is enabled or not, and
  all other bytes are those of the base: all bytes, when no
  software breakpoint is left.
-/
theorem software_image
    (hLaws : MemoryLaws memory)
    (ops : List Op)
    (k : κ) :
    let s := run step ops (Session.start k)
    (∀ id bp, s.manager.breakpoints.lookup id = some bp →
      bp.type = .software →
        bp.originalInstruction = word (memory k) bp.address ∧
          word (memory s.world) bp.address =
            if bp.enabled then Breakpoint.BRK_OPCODE
            else word (memory k) bp.address) ∧
      (∀ x,
        (∀ id bp, s.manager.breakpoints.lookup id = some bp →
          bp.type = .software → bp.enabled = true →
            ¬ Covers bp.address 4 x) →
        memory s.world x = memory k x) ∧
      ((∀ id bp, s.manager.breakpoints.lookup id = some bp →
        bp.type ≠ .software) →
        memory s.world = memory k) := by
  intro s
  have hImage : Image (memory k) s.manager (memory s.world) :=
    image_run hLaws ops (image_init (memory k))
  refine ⟨?_, ?_, ?_⟩
  · intro id bp hLookup hType
    have hAligned := (hImage.tables.entry id bp hLookup).aligned
    refine ⟨hImage.saved id bp hLookup hType, ?_⟩
    cases hEnabled : bp.enabled with
    | true =>
        exact hImage.word_brk hAligned
          ⟨id, bp, hLookup, ⟨hType, hEnabled⟩, rfl⟩
    | false =>
        apply hImage.word_eq hAligned
        apply notMem_patchedWords hImage.tables hLookup
        intro hPatched
        exact Bool.noConfusion (hEnabled ▸ hPatched.2)
  · intro x hOutside
    apply hImage.eq_base
    intro id bp hLookup hPatched
    exact hOutside id bp hLookup hPatched.1 hPatched.2
  · intro hNone
    funext x
    apply hImage.eq_base
    intro id bp hLookup hPatched
    exact absurd hPatched.1 (hNone id bp hLookup)

theorem software_image_fresh :
    let s :=
      run step
        [.setSoftwareBreakpoint 7 0x1000,
          .setSoftwareBreakpoint 7 0x1004,
          .disable 1, .removeBreakpoint 2, .enable 1]
        (Session.start (SimulatedTarget.fresh []))
    word s.world.memory 0x1000 = Breakpoint.BRK_OPCODE := by
  intro s
  have hImage :=
    software_image SimulatedTarget.memoryLaws
      [.setSoftwareBreakpoint 7 0x1000,
        .setSoftwareBreakpoint 7 0x1004,
        .disable 1, .removeBreakpoint 2, .enable 1]
      (SimulatedTarget.fresh [])
  exact (hImage.1 1 (softwareBreakpoint 1 7 0x1000 0)
    (by decide +kernel) rfl).2

end BreakpointManager

end AnDbg
