import AnDbg.Core.BreakpointManager.Image

/-
  The image that shows behind the breakpoints when the user
  writes to the target as well.

  What shows is the memory with the word of each enabled
  software breakpoint replaced by the word that was saved of
  it.  A write of the user shows as it is meant unless it
  reaches into such a word; setting and disabling a
  breakpoint never change what shows, and enabling or
  removing a disabled one do not if the saved word is still
  the one in memory.

  Main declarations:
    * `AnDbg.BreakpointManager.ShowsImage`
    * `AnDbg.BreakpointManager.showsImage_write_iff`
    * `AnDbg.BreakpointManager.showsImage_enable_iff`
    * `AnDbg.BreakpointManager.showsImage_remove_iff`
-/

------------------------------------------------------------
-- What Shows
------------------------------------------------------------

namespace AnDbg

namespace BreakpointManager

open ByteMemory LittleEndian

/-
  Every enabled software breakpoint stands in memory, the
  image has the word that was saved of it in its place, and
  everywhere else the memory is the image.
-/
structure ShowsImage
    (image : Memory)
    (m : BreakpointManager)
    (memory : Memory) : Prop where
  saved :
    ∀ id bp, m.breakpoints.lookup id = some bp →
      IsPatched bp →
      bp.originalInstruction = word image bp.address
  armed :
    ∀ id bp, m.breakpoints.lookup id = some bp →
      IsPatched bp →
      word memory bp.address = Breakpoint.BRK_OPCODE
  others :
    ∀ x,
      (∀ id bp, m.breakpoints.lookup id = some bp →
        IsPatched bp → ¬ Covers bp.address 4 x) →
      memory x = image x

/- What was saved of the enabled software breakpoints. -/
def EnabledSaved
    (image : Memory)
    (m : BreakpointManager) : Prop :=
  ∀ id bp, m.breakpoints.lookup id = some bp →
    IsPatched bp →
    bp.originalInstruction = word image bp.address

variable {image memory : Memory} {m : BreakpointManager}
variable {id : Int} {bp : Breakpoint} {address : Addr}

/- What shows lies under an overlay of the instruction. -/
theorem showsImage_iff
    (hTables : Consistent m) :
    ShowsImage image m memory ↔
      EnabledSaved image m ∧
        memory = overlay 4 image (patchedWords m) brkBytes := by
  constructor
  · intro hShows
    refine ⟨hShows.saved, ?_⟩
    funext x
    by_cases hCell : cellOf 4 x ∈ patchedWords m
    · rcases hCell with ⟨id, bp, hLookup, hPatched, hEq⟩
      have hCovers : Covers bp.address 4 x :=
        (covers_iff_cellOf_eq
          (aligned_iff.mp
            (hTables.entry id bp hLookup).aligned)
          (by decide) four_dvd x).mpr hEq.symm
      have hByte := getElem?_read memory hCovers
      rw [← encode_word, hShows.armed id bp hLookup hPatched]
        at hByte
      have hMem : cellOf 4 x ∈ patchedWords m :=
        ⟨id, bp, hLookup, hPatched, hEq⟩
      unfold overlay
      rw [if_pos hMem, ← hEq]
      unfold brkBytes
      rw [hByte, Option.getD_some]
    · rw [overlay_of_cellOf_notMem hCell]
      apply hShows.others
      intro id bp hLookup hPatched hCovers
      apply hCell
      refine ⟨id, bp, hLookup, hPatched, ?_⟩
      exact ((covers_iff_cellOf_eq
        (aligned_iff.mp (hTables.entry id bp hLookup).aligned)
        (by decide) four_dvd x).mp hCovers).symm
  · rintro ⟨hSaved, rfl⟩
    constructor
    case saved => exact hSaved
    case armed =>
      intro id bp hLookup hPatched
      exact word_overlay_of_mem
        (hTables.entry id bp hLookup).aligned
        ⟨id, bp, hLookup, hPatched, rfl⟩
    case others =>
      intro x hOutside
      exact overlay_eq_base hTables hOutside

/- Without breakpoints the memory shows itself. -/
theorem showsImage_init
    (image : Memory) :
    ShowsImage image init image where
  saved id bp hLookup := by simp [init] at hLookup
  armed id bp hLookup := by simp [init] at hLookup
  others _ _ := rfl

/- Where no breakpoint stands, the memory shows. -/
theorem ShowsImage.word_eq
    (hShows : ShowsImage image m memory)
    (hTables : Consistent m)
    (hAligned : address &&& 0x3 = 0)
    (hUnpatched : address ∉ patchedWords m) :
    word memory address = word image address := by
  rw [((showsImage_iff hTables).mp hShows).2]
  exact word_overlay_of_notMem hAligned hUnpatched

end BreakpointManager

end AnDbg

------------------------------------------------------------
-- Words And Writes
------------------------------------------------------------

namespace AnDbg

namespace BreakpointManager

open ByteMemory LittleEndian

variable {m : Memory} {a b : Addr} {v : Word}
variable {bytes : List Byte}

/- A word by its bytes. -/
theorem word_eq_iff :
    word m a = v ↔
      ∀ x, Covers a 4 x →
        (encode 4 v)[offset a x]? = some (m x) := by
  constructor
  · rintro rfl x hCovers
    rw [encode_word]
    exact getElem?_read m hCovers
  · intro hBytes
    have hRead : read m a 4 = encode 4 v := by
      apply List.ext_getElem?
      intro i
      by_cases hi : i < 4
      · have hOffset : offset a (a + BitVec.ofNat 64 i) = i :=
          offset_add a (by omega)
        have hByte := hBytes (a + BitVec.ofNat 64 i) (by
          unfold Covers
          omega)
        rw [hOffset] at hByte
        rw [hByte, getElem?_read_of_lt m a hi]
      · rw [List.getElem?_eq_none (by rw [length_read]; omega),
          List.getElem?_eq_none (by rw [length_encode]; omega)]
    unfold word
    rw [hRead]
    exact decode_encode v (by decide)

/- A word outlasts a write that brings the bytes it has. -/
theorem word_write_iff
    (hWord : word m a = v) :
    word (write m b bytes) a = v ↔
      ∀ x, Covers a 4 x → Covers b bytes.length x →
        bytes[offset b x]? = (encode 4 v)[offset a x]? := by
  rw [word_eq_iff] at hWord ⊢
  refine forall_congr' fun x => forall_congr' fun hCovers => ?_
  by_cases hWritten : Covers b bytes.length x
  · have hByte : (bytes[offset b x]?).isSome = true := by
      rw [List.getElem?_eq_getElem hWritten]
      rfl
    rcases Option.isSome_iff_exists.mp hByte with ⟨byte, hAt⟩
    unfold write
    rw [hAt, Option.getD_some]
    constructor
    · intro hSame _
      exact hSame.symm
    · intro hSame
      exact (hSame hWritten).symm
  · rw [write_of_not_covers m hWritten, hWord x hCovers]
    exact iff_of_true rfl fun h => absurd h hWritten

/- A write of a word. -/
theorem word_write_self
    (m : Memory)
    (a : Addr)
    (v : Word) :
    word (write m a (encode 4 v)) a = v := by
  rw [word_eq_iff]
  intro x hCovers
  have hIndex : offset a x < (encode 4 v).length := by
    rw [length_encode]
    exact hCovers
  unfold write
  rw [List.getElem?_eq_getElem hIndex, Option.getD_some]

end BreakpointManager

end AnDbg

------------------------------------------------------------
-- Writes Of The User
------------------------------------------------------------

namespace AnDbg

namespace BreakpointManager

open ByteMemory LittleEndian

/-
  A write reaches into the word of an enabled breakpoint
  only with bytes that both the breakpoint instruction and
  the saved one have there.
-/
def SparesPatched
    (address : Addr)
    (buffer : List Byte)
    (m : BreakpointManager) : Prop :=
  ∀ id bp, m.breakpoints.lookup id = some bp →
    IsPatched bp →
    ∀ x, Covers bp.address 4 x →
      Covers address buffer.length x →
      let saved := encode 4 bp.originalInstruction
      buffer[offset address x]? = saved[offset bp.address x]? ∧
        buffer[offset address x]? =
          brkBytes[offset bp.address x]?

variable {image memory : Memory} {m : BreakpointManager}

theorem showsImage_write_iff
    (hShows : ShowsImage image m memory)
    (address : Addr)
    (buffer : List Byte) :
    ShowsImage (write image address buffer) m
        (write memory address buffer) ↔
      SparesPatched address buffer m := by
  constructor
  · intro hAfter id bp hLookup hPatched x hCell hWritten
    constructor
    · exact (word_write_iff
        (hShows.saved id bp hLookup hPatched).symm).mp
        (hAfter.saved id bp hLookup hPatched).symm x hCell
        hWritten
    · exact (word_write_iff
        (hShows.armed id bp hLookup hPatched)).mp
        (hAfter.armed id bp hLookup hPatched) x hCell hWritten
  · intro hSpares
    constructor
    case saved =>
      intro id bp hLookup hPatched
      refine ((word_write_iff
        (hShows.saved id bp hLookup hPatched).symm).mpr ?_).symm
      intro x hCell hWritten
      exact (hSpares id bp hLookup hPatched x hCell hWritten).1
    case armed =>
      intro id bp hLookup hPatched
      refine (word_write_iff
        (hShows.armed id bp hLookup hPatched)).mpr ?_
      intro x hCell hWritten
      exact (hSpares id bp hLookup hPatched x hCell hWritten).2
    case others =>
      intro x hOutside
      unfold write
      rw [hShows.others x hOutside]

end BreakpointManager

end AnDbg

------------------------------------------------------------
-- Setting And Switching Breakpoints
------------------------------------------------------------

namespace AnDbg

namespace BreakpointManager

open ByteMemory LittleEndian

variable {image memory : Memory} {m : BreakpointManager}
variable {id : Int} {bp : Breakpoint} {address : Addr}

/- A new breakpoint saves the word that shows. -/
theorem ShowsImage.created
    {tid : Pid}
    (hShows : ShowsImage image m memory)
    (hTables : Consistent m)
    (hTid : 1 ≤ tid)
    (hAligned : address &&& 0x3 = 0)
    (hUnique : m.checkDuplicateBreakpoint address = false) :
    ShowsImage image
      (m.enter
        (softwareBreakpoint m.nextBreakpointId tid address
          (word memory address)))
      (write memory address
        (encode 4 Breakpoint.BRK_OPCODE)) := by
  have hUnpatched : address ∉ patchedWords m := by
    rintro ⟨id, bp, hLookup, -, hEq⟩
    exact checkDuplicateBreakpoint_eq_false_iff.mp hUnique
      id bp hLookup hEq
  have hWord := hShows.word_eq hTables hAligned hUnpatched
  rcases (showsImage_iff hTables).mp hShows with
    ⟨hSaved, hOverlay⟩
  refine (showsImage_iff
    (hTables.enter rfl hTid hAligned hUnique)).mpr ⟨?_, ?_⟩
  · intro id found hLookup hPatched
    rcases lookup_enter_cases hLookup with
      ⟨-, rfl⟩ | ⟨-, hOld⟩
    · exact hWord
    · exact hSaved id found hOld hPatched
  · rw [hOverlay, patchedWords_enter hTables.fresh ⟨rfl, rfl⟩]
    exact write_brk hAligned

/- Enabling a breakpoint shows the word that it saved. -/
theorem showsImage_enable_iff
    (hShows : ShowsImage image m memory)
    (hTables : Consistent m)
    (hLookup : m.breakpoints.lookup id = some bp)
    (hType : bp.type = .software)
    (hDisabled : bp.enabled = false) :
    ShowsImage image (m.setEnabled id bp true)
        (write memory bp.address
          (encode 4 Breakpoint.BRK_OPCODE)) ↔
      bp.originalInstruction = word memory bp.address := by
  have hAligned := (hTables.entry id bp hLookup).aligned
  have hUnpatched : bp.address ∉ patchedWords m := by
    apply notMem_patchedWords hTables hLookup
    intro hPatched
    exact Bool.noConfusion (hDisabled ▸ hPatched.2)
  rw [hShows.word_eq hTables hAligned hUnpatched]
  rcases (showsImage_iff hTables).mp hShows with
    ⟨hSaved, hOverlay⟩
  rw [showsImage_iff (hTables.setEnabled hLookup)]
  constructor
  · rintro ⟨hAfter, -⟩
    exact hAfter id { bp with enabled := true }
      (by rw [lookup_setEnabled, if_pos rfl]) ⟨hType, rfl⟩
  · intro hWord
    constructor
    · intro id' found hFound hPatched
      rw [lookup_setEnabled] at hFound
      split at hFound
      next =>
        rw [← Option.some.inj hFound]
        exact hWord
      next => exact hSaved id' found hFound hPatched
    · rw [patchedWords_setEnabled hTables hLookup hType,
        if_pos rfl, hOverlay]
      exact write_brk hAligned

/- Disabling one shows the same word as before. -/
theorem ShowsImage.disable
    (hShows : ShowsImage image m memory)
    (hTables : Consistent m)
    (hLookup : m.breakpoints.lookup id = some bp)
    (hPatched : IsPatched bp) :
    ShowsImage image (m.setEnabled id bp false)
      (write memory bp.address
        (encode 4 bp.originalInstruction)) := by
  have hAligned := (hTables.entry id bp hLookup).aligned
  rcases (showsImage_iff hTables).mp hShows with
    ⟨hSaved, hOverlay⟩
  refine (showsImage_iff (hTables.setEnabled hLookup)).mpr
    ⟨?_, ?_⟩
  · intro id' found hFound hOn
    rw [lookup_setEnabled] at hFound
    split at hFound
    next =>
      rw [← Option.some.inj hFound] at hOn
      exact Bool.noConfusion hOn.2
    next => exact hSaved id' found hFound hOn
  · rw [patchedWords_setEnabled hTables hLookup hPatched.1,
      hSaved id bp hLookup hPatched, hOverlay]
    exact write_saved hAligned

theorem EnabledSaved.erase
    (hSaved : EnabledSaved image m)
    (id : Int)
    (bp : Breakpoint) :
    EnabledSaved image (m.eraseBreakpoint id bp) := by
  intro id' found hFound hPatched
  rw [lookup_eraseBreakpoint] at hFound
  split at hFound
  next => cases hFound
  next => exact hSaved id' found hFound hPatched

/- Removing a breakpoint that stands in memory. -/
theorem ShowsImage.remove
    (hShows : ShowsImage image m memory)
    (hTables : Consistent m)
    (hLookup : m.breakpoints.lookup id = some bp)
    (hPatched : IsPatched bp) :
    ShowsImage image (m.eraseBreakpoint id bp)
      (write memory bp.address
        (encode 4 bp.originalInstruction)) := by
  have hAligned := (hTables.entry id bp hLookup).aligned
  rcases (showsImage_iff hTables).mp hShows with
    ⟨hSaved, hOverlay⟩
  refine (showsImage_iff (hTables.erase hLookup)).mpr
    ⟨hSaved.erase id bp, ?_⟩
  rw [patchedWords_erase hTables hLookup,
    hSaved id bp hLookup hPatched, hOverlay]
  exact write_saved hAligned

/- Removing one that does not shows the word that it saved. -/
theorem showsImage_remove_iff
    (hShows : ShowsImage image m memory)
    (hTables : Consistent m)
    (hLookup : m.breakpoints.lookup id = some bp)
    (hNot : ¬ IsPatched bp) :
    ShowsImage image (m.eraseBreakpoint id bp)
        (write memory bp.address
          (encode 4 bp.originalInstruction)) ↔
      bp.originalInstruction = word memory bp.address := by
  have hAligned := (hTables.entry id bp hLookup).aligned
  have hUnpatched :=
    notMem_patchedWords hTables hLookup hNot
  have hTables' := hTables.erase hLookup
  have hSame := patchedWords_erase_unpatched hTables hLookup hNot
  rw [hShows.word_eq hTables hAligned hUnpatched]
  constructor
  · intro hAfter
    have hWord :=
      hAfter.word_eq hTables' hAligned (by rwa [hSame])
    rw [word_write_self] at hWord
    exact hWord
  · intro hWord
    rcases (showsImage_iff hTables).mp hShows with
      ⟨hSaved, hOverlay⟩
    refine (showsImage_iff hTables').mpr
      ⟨hSaved.erase id bp, ?_⟩
    rw [patchedWords_erase hTables hLookup, hWord, hOverlay]
    exact write_saved hAligned

end BreakpointManager

end AnDbg

------------------------------------------------------------
-- Operations That Succeed
------------------------------------------------------------

namespace AnDbg

namespace BreakpointManager

open ByteMemory LittleEndian MemoryControl

/- Only software breakpoints are live. -/
def OnlySoftware (m : BreakpointManager) : Prop :=
  ∀ id bp, m.breakpoints.lookup id = some bp →
    bp.type = .software

/- The saved word of a disabled breakpoint is in memory. -/
def SavedIfDisabled
    (id : Int)
    (m : BreakpointManager)
    (memory : Memory) : Prop :=
  ∀ bp, m.breakpoints.lookup id = some bp →
    bp.enabled = false →
    bp.originalInstruction = word memory bp.address

/-
  The tables are in order and hold software breakpoints
  only, and the image shows behind them.
-/
structure Shown
    (image : Memory)
    (m : BreakpointManager)
    (memory : Memory) : Prop where
  tables : Consistent m
  software : OnlySoftware m
  shows : ShowsImage image m memory

/-
  The tables are in order and hold software breakpoints
  only, and the image shows if a condition holds.
-/
structure ShownIff
    (image : Memory)
    (m : BreakpointManager)
    (memory : Memory)
    (cond : Prop) : Prop where
  tables : Consistent m
  software : OnlySoftware m
  shows_iff : ShowsImage image m memory ↔ cond

theorem ShownIff.congr
    {image memory : Memory}
    {m : BreakpointManager}
    {cond cond' : Prop}
    (hShown : ShownIff image m memory cond)
    (hCond : cond ↔ cond') :
    ShownIff image m memory cond' where
  tables := hShown.tables
  software := hShown.software
  shows_iff := hShown.shows_iff.trans hCond

theorem shown_init (image : Memory) : Shown image init image where
  tables := consistent_init
  software id bp hLookup := by simp [init] at hLookup
  shows := showsImage_init image

section

variable {m : BreakpointManager} {id : Int} {bp : Breakpoint}

theorem OnlySoftware.enter
    (hSoftware : OnlySoftware m)
    (hType : bp.type = .software) :
    OnlySoftware (m.enter bp) := by
  intro id found hLookup
  rcases lookup_enter_cases hLookup with
    ⟨-, rfl⟩ | ⟨-, hOld⟩
  · exact hType
  · exact hSoftware id found hOld

theorem OnlySoftware.erase
    (hSoftware : OnlySoftware m)
    (id : Int)
    (bp : Breakpoint) :
    OnlySoftware (m.eraseBreakpoint id bp) := by
  intro id' found hFound
  rw [lookup_eraseBreakpoint] at hFound
  split at hFound
  next => cases hFound
  next => exact hSoftware id' found hFound

theorem OnlySoftware.setEnabled
    {on : Bool}
    (hSoftware : OnlySoftware m)
    (hLookup : m.breakpoints.lookup id = some bp) :
    OnlySoftware (m.setEnabled id bp on) := by
  intro id' found hFound
  rcases lookup_setEnabled_cases hLookup hFound with
    ⟨old, hOld, rfl⟩
  exact hSoftware id' old hOld

/- The condition for a breakpoint that is there. -/
theorem savedIfDisabled_iff
    {memory : Memory}
    (hLookup : m.breakpoints.lookup id = some bp) :
    SavedIfDisabled id m memory ↔
      (bp.enabled = false →
        bp.originalInstruction = word memory bp.address) := by
  constructor
  · intro hSaved
    exact hSaved bp hLookup
  · intro hSaved found hFound
    rw [hLookup] at hFound
    rw [← Option.some.inj hFound]
    exact hSaved

end

variable {κ : Type}
variable [MemoryControl κ]
variable {memory : κ → Memory} {image : Memory}
variable {m m' : BreakpointManager} {k k' : κ}
variable {id : Int}

/- A software breakpoint that gets an id. -/
theorem SetSoftwareExit.shown
    {tid : Pid}
    {address : Addr}
    (hAccess : ExactAccess memory)
    (hShown : Shown image m (memory k))
    (hExit : SetSoftwareExit tid address m k (.ok id) m' k')
    (hId : id ≠ -1) :
    Shown image m' (memory k') := by
  have hBuffer : (encode 4 (0 : Word)).length = 4 :=
    length_encode 4 0
  cases hExit with
  | duplicate => exact absurd rfl hId
  | readFailed => exact absurd rfl hId
  | writeFailed => exact absurd rfl hId
  | created hAligned hUnique hTid hRead hWrite =>
      rcases hAccess.read_true hBuffer hRead with
        ⟨hBytes, hSame⟩
      have hMemory := hAccess.write_true hWrite
      rw [hSame] at hMemory
      rw [hMemory, hBytes]
      exact
        { tables := hShown.tables.enter rfl hTid hAligned
            hUnique
          software := hShown.software.enter rfl
          shows := hShown.shows.created hShown.tables hTid
            hAligned hUnique }

variable [Regset κ]

/- Switching a breakpoint. -/
theorem ToggleExit.shown
    {on : Bool}
    (hAccess : ExactAccess memory)
    (hShown : Shown image m (memory k))
    (hExit : ToggleExit on id m k true m' k') :
    ShownIff image m' (memory k')
      (on = true → SavedIfDisabled id m (memory k)) := by
  cases hExit with
  | already hLookup hEnabled =>
      refine ⟨hShown.tables, hShown.software, ?_⟩
      refine iff_of_true hShown.shows ?_
      rintro rfl
      rw [savedIfDisabled_iff hLookup, hEnabled]
      exact fun hOff => Bool.noConfusion hOff
  | @patched bp _ hLookup hEnabled hType hWrite =>
      refine ⟨hShown.tables.setEnabled hLookup,
        hShown.software.setEnabled hLookup, ?_⟩
      rw [hAccess.write_true hWrite]
      cases on with
      | true =>
          have hDisabled : bp.enabled = false := hEnabled
          rw [savedIfDisabled_iff hLookup,
            imp_iff_right rfl, imp_iff_right hDisabled]
          exact showsImage_enable_iff hShown.shows
            hShown.tables hLookup hType hDisabled
      | false =>
          exact iff_of_true
            (hShown.shows.disable hShown.tables hLookup
              ⟨hType, hEnabled⟩)
            fun hOn => Bool.noConfusion hOn
  | switched hLookup _ hType =>
      exact absurd (hShown.software _ _ hLookup) hType
  | flagged hLookup _ hType =>
      exact absurd (hShown.software _ _ hLookup) hType

/- Removing a breakpoint. -/
theorem RemoveExit.shown
    (hAccess : ExactAccess memory)
    (hShown : Shown image m (memory k))
    (hExit : RemoveExit id m k true m' k') :
    ShownIff image m' (memory k')
      (SavedIfDisabled id m (memory k)) := by
  cases hExit with
  | @restored bp _ hLookup hType hWrite =>
      refine ⟨hShown.tables.erase hLookup,
        hShown.software.erase id bp, ?_⟩
      rw [hAccess.write_true hWrite,
        savedIfDisabled_iff hLookup]
      cases hEnabled : bp.enabled with
      | true =>
          refine iff_of_true ?_ fun h => Bool.noConfusion h
          exact hShown.shows.remove hShown.tables hLookup
            ⟨hType, hEnabled⟩
      | false =>
          rw [imp_iff_right rfl]
          apply showsImage_remove_iff hShown.shows
            hShown.tables hLookup
          intro hPatched
          exact Bool.noConfusion (hEnabled ▸ hPatched.2)
  | released hLookup hType =>
      exact absurd (hShown.software _ _ hLookup) hType
  | dropped hLookup hType =>
      exact absurd (hShown.software _ _ hLookup) hType

end BreakpointManager

end AnDbg
