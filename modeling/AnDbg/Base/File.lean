import AnDbg.Base.InputStream

/-
  Files that are read as a whole or line by line.

  A whole read goes to the beginning of the stream, reads to
  its end and wants to go back.  At the end both bits of the
  stream are set, so that it does not get back and nothing
  can be read any more.

  Main declarations:
    * `AnDbg.File.readAll`, `readLines` and `readLine`
    * `AnDbg.File.pending`
    * `AnDbg.File.wholeRead_spec`
    * `AnDbg.File.readLine_spec`
-/

------------------------------------------------------------
-- The Operations
------------------------------------------------------------

namespace AnDbg

/- `File`, without the handle of a directory. -/
structure File where
  isDirectory : Bool
  isOpen : Bool
  stream : InputStream

namespace File

open InputStream Lines

/- A file that was opened and has this content. -/
def opened (content : List Byte) : File :=
  ⟨false, true, .opened content⟩

theorem pos_lt_of_get
    {s s' : InputStream}
    {c : Byte}
    (hGet : s.get = (some c, s')) :
    s'.content.length - s'.pos < s.content.length - s.pos := by
  cases hGood : s.good with
  | false =>
      rw [InputStream.get, sentry_of_not_good hGood] at hGet
      cases hGet
  | true =>
      rw [InputStream.get, sentry_of_good hGood] at hGet
      dsimp only at hGet
      cases hRest : s.rest with
      | nil =>
          rw [hRest] at hGet
          cases hGet
      | cons c' cs =>
          rw [hRest] at hGet
          cases hGet
          have hLength := congrArg List.length hRest
          rw [rest, List.length_drop, List.length_cons]
            at hLength
          unfold advance
          dsimp only
          omega

/- The loop of `read_all`. -/
def getAll (s : InputStream) : List Byte × InputStream :=
  match _hGet : s.get with
  | (none, s) => ([], s)
  | (some c, s) =>
    let (content, s) := getAll s
    (c :: content, s)
termination_by s.content.length - s.pos
decreasing_by exact pos_lt_of_get _hGet

/- `read_all`. -/
def readAll (f : File) : List Byte × File :=
  if f.isDirectory ∨ ¬ f.isOpen then
    ([], f)
  else
    let (originalPos, s) := f.stream.tellg
    let (content, s) := getAll (s.seekg 0)
    (content, { f with stream := s.seekg originalPos })

theorem pos_lt_of_getline
    {s s' : InputStream}
    {line text : StdString}
    (hGetline : s.getline line = (text, s'))
    (hOk : s'.failbit = false) :
    s'.content.length - s'.pos < s.content.length - s.pos := by
  cases hGood : s.good with
  | false =>
      rw [getline, sentry_of_not_good hGood] at hGetline
      cases hGetline
      cases hOk
  | true =>
      have hRest : s.rest.length = s.content.length - s.pos :=
        List.length_drop
      rw [getline, sentry_of_good hGood] at hGetline
      dsimp only at hGetline
      split at hGetline
      next hEnd =>
        cases hGetline
        unfold advance
        dsimp only
        omega
      next hLast =>
        cases hGetline
        have hText := List.isEmpty_eq_false_iff.mp hOk
        have hSome := List.length_pos_iff.mpr hText
        have hLe :=
          (s.rest.takeWhile_sublist (· != newline)).length_le
        unfold advance
        dsimp only
        omega

/- The loop of `read_lines`; `line` was moved away. -/
def getLines (s : InputStream) : List StdString × InputStream :=
  match _hGetline : s.getline [] with
  | (line, s) =>
    if _hOk : s.failbit = false then
      let (lines, s) := getLines s
      (line :: lines, s)
    else
      ([], s)
termination_by s.content.length - s.pos
decreasing_by exact pos_lt_of_getline _hGetline _hOk

/- `read_lines`. -/
def readLines (f : File) : List StdString × File :=
  if f.isDirectory ∨ ¬ f.isOpen then
    ([], f)
  else
    let (originalPos, s) := f.stream.tellg
    let (lines, s) := getLines (s.seekg 0)
    (lines, { f with stream := s.seekg originalPos })

/- `read_line`. -/
def readLine (f : File) : StdString × File :=
  if f.isDirectory ∨ ¬ f.isOpen then
    ([], f)
  else
    let (line, s) := f.stream.getline []
    (if s.failbit then [] else line, { f with stream := s })

end File

end AnDbg

------------------------------------------------------------
-- What A Read Returns
------------------------------------------------------------

namespace AnDbg

namespace File

open InputStream Lines

variable {s : InputStream} {f : File}

theorem getAll_of_none
    {s' : InputStream}
    (hGet : s.get = (none, s')) :
    getAll s = ([], s') := by
  rw [getAll]
  split
  next hOther =>
    rw [hGet] at hOther
    cases hOther
    rfl
  next hOther =>
    rw [hGet] at hOther
    cases hOther

theorem getAll_of_some
    {s' : InputStream}
    {c : Byte}
    (hGet : s.get = (some c, s')) :
    getAll s = (c :: (getAll s').1, (getAll s').2) := by
  rw [getAll]
  split
  next hOther =>
    rw [hGet] at hOther
    cases hOther
  next hOther =>
    rw [hGet] at hOther
    cases hOther
    rfl

/- The loop reads all that is left and ends in a failure. -/
theorem getAll_spec
    {text : List Byte}
    (hGood : s.good = true)
    (hRest : s.rest = text) :
    (getAll s).1 = text ∧
      (getAll s).2.failbit = true ∧
      (getAll s).2.content = s.content := by
  induction text generalizing s with
  | nil =>
      have hGet :
          s.get =
            (none, { s with eofbit := true, failbit := true })
          := by
        rw [InputStream.get, sentry_of_good hGood]
        dsimp only
        rw [hRest]
      rw [getAll_of_none hGet]
      exact ⟨rfl, rfl, rfl⟩
  | cons c cs ih =>
      have hNext : (s.advance 1).rest = cs := by
        rw [rest_advance, hRest]
        rfl
      rcases ih (s := s.advance 1) hGood hNext with
        ⟨hText, hFail, hContent⟩
      rw [getAll_of_some (get_of_rest hGood hRest)]
      exact ⟨congrArg (c :: ·) hText, hFail, hContent⟩

theorem getAll_of_not_good
    (hBad : s.good = false) :
    getAll s = ([], { s with failbit := true }) := by
  apply getAll_of_none
  rw [InputStream.get, sentry_of_not_good hBad]

theorem getLines_of_fail
    {s' : InputStream}
    {line : StdString}
    (hGetline : s.getline [] = (line, s'))
    (hFail : s'.failbit = true) :
    getLines s = ([], s') := by
  rw [getLines]
  split
  next hOther =>
    rw [hGetline] at hOther
    cases hOther
    rw [dif_neg (by simp [hFail])]

theorem getLines_of_ok
    {s' : InputStream}
    {line : StdString}
    (hGetline : s.getline [] = (line, s'))
    (hOk : s'.failbit = false) :
    getLines s = (line :: (getLines s').1, (getLines s').2) := by
  rw [getLines]
  split
  next hOther =>
    rw [hGetline] at hOther
    cases hOther
    rw [dif_pos hOk]

theorem getLines_of_not_good
    (hBad : s.good = false) :
    getLines s = ([], { s with failbit := true }) := by
  have hGetline :
      s.getline [] = ([], { s with failbit := true }) := by
    rw [getline, sentry_of_not_good hBad]
  exact getLines_of_fail hGetline rfl

/- So does the loop over the lines. -/
theorem getLines_spec
    {text : List Byte}
    (hGood : s.good = true)
    (hRest : s.rest = text) :
    (getLines s).1 = lines newline text ∧
      (getLines s).2.failbit = true ∧
      (getLines s).2.content = s.content := by
  induction hLength : text.length using
    Nat.strong_induction_on generalizing s text with
  | _ n ih =>
      subst hLength
      by_cases hEnd : newline ∈ text
      · rcases List.eq_append_cons_of_mem hEnd with
          ⟨line, tail, hText, hLine⟩
        have hNext :
            (s.advance (line.length + 1)).rest = tail := by
          rw [rest_advance, hRest, hText]
          simp
        rcases ih tail.length (by rw [hText]; simp; omega)
            (s := s.advance (line.length + 1)) hGood hNext rfl
          with ⟨hLines, hFail, hContent⟩
        rw [getLines_of_ok
          (getline_of_end hGood (hRest.trans hText) hLine [])
          (good_iff.mp hGood).2]
        refine ⟨?_, hFail, hContent⟩
        rw [hText, lines_append_cons hLine]
        exact congrArg (line :: ·) hLines
      · have hGetline :=
          getline_of_notMem hGood (by rwa [hRest]) []
        by_cases hText : text = []
        · subst hText
          rw [getLines_of_fail hGetline (by rw [hRest]; rfl)]
          exact ⟨rfl, by rw [hRest]; rfl, rfl⟩
        · have hOk : s.rest.isEmpty = false := by
            rw [hRest]
            exact List.isEmpty_eq_false_iff.mpr hText
          rw [getLines_of_ok hGetline hOk,
            getLines_of_not_good rfl,
            lines_of_notMem hText hEnd, hRest]
          exact ⟨rfl, rfl, rfl⟩

/-
  The loop of a whole read: what it makes of the text that
  is left, that it ends in a failure, and that it does
  nothing where nothing can be read.
-/
structure ReadsWhole
    {α : Type}
    (loop : InputStream → List α × InputStream)
    (read : List Byte → List α) : Prop where
  good :
    ∀ {s}, s.good = true →
      (loop s).1 = read s.rest ∧ (loop s).2.failbit = true ∧
        (loop s).2.content = s.content
  bad :
    ∀ {s}, s.good = false →
      loop s = ([], { s with failbit := true })

theorem readsWhole_getAll :
    ReadsWhole getAll (fun text => text) where
  good hGood := getAll_spec hGood rfl
  bad := getAll_of_not_good

theorem readsWhole_getLines :
    ReadsWhole getLines (lines newline) where
  good hGood := getLines_spec hGood rfl
  bad := getLines_of_not_good

/-
  What the next lines will be read from: nothing once the
  stream is not good.
-/
def pending (f : File) : Option (List Byte) :=
  if f.stream.good then some f.stream.rest else none

/- The file is open and has this content. -/
structure HasContent
    (f : File)
    (content : List Byte) : Prop where
  isDirectory : f.isDirectory = false
  isOpen : f.isOpen = true
  content : f.stream.content = content

variable {content : List Byte}

theorem hasContent_opened
    (content : List Byte) :
    (opened content).HasContent content :=
  ⟨rfl, rfl, rfl⟩

theorem pending_opened
    (content : List Byte) :
    (opened content).pending = some content := rfl

theorem HasContent.usable
    (hFile : f.HasContent content) :
    ¬ (f.isDirectory = true ∨ ¬ f.isOpen = true) := by
  rw [hFile.isDirectory, hFile.isOpen]
  simp

/- Going back after a failure does nothing but clear `eof`. -/
theorem seekg_of_failbit
    (hFail : s.failbit = true)
    (position : Int) :
    (s.seekg position).failbit = true ∧
      (s.seekg position).content = s.content := by
  have hBad : { s with eofbit := false }.good = false :=
    not_good_of_failbit hFail
  rw [seekg, sentry_of_not_good hBad]
  exact ⟨rfl, rfl⟩

/- Where a whole read begins, if it can begin. -/
theorem seekg_tellg
    (hGood : s.good = true) :
    (s.tellg.2.seekg 0).good = true ∧
      (s.tellg.2.seekg 0).rest = s.content ∧
      (s.tellg.2.seekg 0).content = s.content := by
  rcases good_iff.mp hGood with ⟨hEof, hFail⟩
  have hClear : { s with eofbit := false }.good = true :=
    good_iff.mpr ⟨rfl, hFail⟩
  rw [tellg, sentry_of_good hGood]
  dsimp only
  rw [seekg, sentry_of_good hClear]
  dsimp only
  rw [if_neg (by decide)]
  exact ⟨hClear, rfl, rfl⟩

theorem seekg_tellg_of_not_good
    (hBad : s.good = false) :
    (s.tellg.2.seekg 0).failbit = true ∧
      (s.tellg.2.seekg 0).content = s.content := by
  rw [tellg, sentry_of_not_good hBad]
  exact seekg_of_failbit rfl 0

/-
  A whole read of a good stream is complete; it does not get
  back to where it was, and is the last read.
-/
theorem wholeRead_spec
    {α : Type}
    {loop : InputStream → List α × InputStream}
    {read : List Byte → List α}
    (hLoop : ReadsWhole loop read)
    (hFile : f.HasContent content) :
    let done := loop (f.stream.tellg.2.seekg 0)
    let f' :=
      { f with stream := done.2.seekg f.stream.tellg.1 }
    done.1 = (if f.stream.good then read content else []) ∧
      f'.pending = none ∧ f'.HasContent content := by
  intro done f'
  have hDone :
      done.1 = (if f.stream.good then read content else []) ∧
        done.2.failbit = true ∧ done.2.content = content := by
    cases hGood : f.stream.good with
    | true =>
        rcases seekg_tellg hGood with ⟨hStart, hRest, hSame⟩
        rcases hLoop.good hStart with
          ⟨hText, hFail, hContent⟩
        rw [hRest, hFile.content] at hText
        exact ⟨hText, hFail,
          hContent.trans (hSame.trans hFile.content)⟩
    | false =>
        rcases seekg_tellg_of_not_good hGood with
          ⟨hFail, hSame⟩
        have hNothing := hLoop.bad (not_good_of_failbit hFail)
        have hBits := congrArg Prod.snd hNothing
        exact ⟨congrArg Prod.fst hNothing,
          congrArg InputStream.failbit hBits,
          (congrArg InputStream.content hBits).trans
            (hSame.trans hFile.content)⟩
  rcases hDone with ⟨hText, hFail, hContent⟩
  rcases seekg_of_failbit hFail f.stream.tellg.1 with
    ⟨hFail', hContent'⟩
  refine ⟨hText, ?_, hFile.isDirectory, hFile.isOpen,
    hContent'.trans hContent⟩
  unfold pending
  rw [not_good_of_failbit hFail', if_neg Bool.false_ne_true]

theorem readAll_spec
    (hFile : f.HasContent content) :
    f.readAll.1 = (if f.stream.good then content else []) ∧
      f.readAll.2.pending = none ∧
      f.readAll.2.HasContent content := by
  unfold readAll
  rw [if_neg hFile.usable]
  exact wholeRead_spec readsWhole_getAll hFile

theorem readLines_spec
    (hFile : f.HasContent content) :
    f.readLines.1 =
        (if f.stream.good then lines newline content else []) ∧
      f.readLines.2.pending = none ∧
      f.readLines.2.HasContent content := by
  unfold readLines
  rw [if_neg hFile.usable]
  exact wholeRead_spec readsWhole_getLines hFile

/- What is left after a line was read. -/
def afterLine : Option (List Byte) → Option (List Byte)
| none => none
| some text =>
    if newline ∈ text then
      some (text.drop
        ((text.takeWhile (· != newline)).length + 1))
    else
      none

/- A line is read of what is pending. -/
theorem readLine_spec
    (hFile : f.HasContent content) :
    f.readLine.1 =
        ((f.pending.elim [] (lines newline)).headD []) ∧
      f.readLine.2.pending = afterLine f.pending ∧
      f.readLine.2.HasContent content := by
  unfold readLine
  rw [if_neg hFile.usable]
  unfold pending
  cases hGood : f.stream.good with
  | false =>
      rw [getline, sentry_of_not_good hGood,
        if_neg Bool.false_ne_true]
      dsimp only
      rw [not_good_of_failbit rfl, if_neg Bool.false_ne_true]
      exact ⟨rfl, rfl, hFile.isDirectory, hFile.isOpen,
        hFile.content⟩
  | true =>
      have hOk := (good_iff.mp hGood).2
      rw [if_pos rfl]
      by_cases hEnd : newline ∈ f.stream.rest
      · rcases List.eq_append_cons_of_mem hEnd with
          ⟨line, tail, hRest, hLine⟩
        rw [getline_of_end hGood hRest hLine []]
        dsimp only
        rw [good_advance, hGood, if_pos rfl]
        refine ⟨?_, ?_, hFile.isDirectory, hFile.isOpen,
          hFile.content⟩
        · rw [hRest, Option.elim_some,
            lines_append_cons hLine]
          unfold advance
          dsimp only
          rw [hOk, if_neg Bool.false_ne_true]
          rfl
        · rw [afterLine, if_pos hEnd, rest_advance, hRest,
            takeWhile_append_cons hLine]
      · rw [getline_of_notMem hGood hEnd []]
        dsimp only
        refine ⟨?_, ?_, hFile.isDirectory, hFile.isOpen,
          hFile.content⟩
        · rw [Option.elim_some]
          generalize f.stream.rest = text at hEnd
          rcases text with - | ⟨c, cs⟩
          · rfl
          · rw [lines_of_notMem (List.cons_ne_nil c cs) hEnd]
            rfl
        · rw [afterLine, if_neg hEnd]
          rfl

end File

end AnDbg
