import AnDbg.Base.Conversions
import AnDbg.Lib.Fields
import AnDbg.Lib.Lines

/-
  The input streams of the standard library.

  A stream has a position in what it reads and two bits of
  state.  Every operation first looks at the bits, in a
  sentry: unless both are clear it sets `failbit` and reads
  nothing.  `seekg` clears `eofbit` before it looks.

  Main declarations:
    * `AnDbg.InputStream`
    * `AnDbg.InputStream.get` and `getline`
    * `AnDbg.InputStream.extract` and `skipSpace`
    * `AnDbg.InputStream.tellg` and `seekg`
    * `AnDbg.InputStream.extract_of_rest`
    * `AnDbg.InputStream.extract_spec`
    * `AnDbg.InputStream.Before`
-/

------------------------------------------------------------
-- Operations
------------------------------------------------------------

namespace AnDbg

structure InputStream where
  content : List Byte
  pos : Nat
  eofbit : Bool
  failbit : Bool

namespace InputStream

open Conversion

/- The character that ends a line. -/
def newline : Byte := 0x0a

/- A stream that was just opened, or made from a text. -/
def opened (content : List Byte) : InputStream :=
  ⟨content, 0, false, false⟩

/- What has not been read yet. -/
def rest (s : InputStream) : List Byte :=
  s.content.drop s.pos

def good (s : InputStream) : Bool :=
  !s.eofbit && !s.failbit

/- The sentry of an unformatted input function. -/
def sentry (s : InputStream) : Bool × InputStream :=
  if s.good then
    (true, s)
  else
    (false, { s with failbit := true })

/- Move on by some characters. -/
def advance (n : Nat) (s : InputStream) : InputStream :=
  { s with pos := s.pos + n }

/- `get`, of one character. -/
def get (s : InputStream) : Option Byte × InputStream :=
  match s.sentry with
  | (false, s) => (none, s)
  | (true, s) =>
    match s.rest with
    | [] => (none, { s with eofbit := true, failbit := true })
    | c :: _ => (some c, s.advance 1)

/- `std::getline`, into a string that has a value. -/
def getline
    (line : StdString)
    (s : InputStream) : StdString × InputStream :=
  match s.sentry with
  | (false, s) => (line, s)
  | (true, s) =>
    let text := s.rest.takeWhile (· != newline)
    if text.length < s.rest.length then
      -- the line end is extracted and dropped
      (text, s.advance (text.length + 1))
    else
      (text,
        { s.advance text.length with
          eofbit := true
          failbit := text.isEmpty })

/- `std::ws`. -/
def skipSpace (s : InputStream) : InputStream :=
  match s.sentry with
  | (false, s) => s
  | (true, s) =>
    let blanks := s.rest.takeWhile isSpace
    { s.advance blanks.length with
      eofbit := decide (blanks.length = s.rest.length) }

/- `>>` into a string that has a value. -/
def extract
    (word : StdString)
    (s : InputStream) : StdString × InputStream :=
  match s.sentry with
  | (false, s) => (word, s)
  | (true, s) =>
    let s := s.advance (s.rest.takeWhile isSpace).length
    if s.rest = [] then
      (word, { s with eofbit := true, failbit := true })
    else
      let text := s.rest.takeWhile (!isSpace ·)
      (text,
        { s.advance text.length with
          eofbit := decide (text.length = s.rest.length) })

def tellg (s : InputStream) : Int × InputStream :=
  match s.sentry with
  | (false, s) => (-1, s)
  | (true, s) => (s.pos, s)

/- `seekg` to a position, which must not be negative. -/
def seekg
    (position : Int)
    (s : InputStream) : InputStream :=
  match { s with eofbit := false }.sentry with
  | (false, s) => s
  | (true, s) =>
    if position < 0 then
      { s with failbit := true }
    else
      { s with pos := position.toNat }

variable {s s' : InputStream}

theorem sentry_of_good
    (hGood : s.good = true) :
    s.sentry = (true, s) :=
  if_pos hGood

theorem sentry_of_not_good
    (hBad : s.good = false) :
    s.sentry = (false, { s with failbit := true }) := by
  unfold sentry
  rw [hBad, if_neg Bool.false_ne_true]

theorem good_iff :
    s.good = true ↔ s.eofbit = false ∧ s.failbit = false := by
  unfold good
  rw [Bool.and_eq_true, Bool.not_eq_true', Bool.not_eq_true']

theorem not_good_of_failbit
    (hFail : s.failbit = true) :
    s.good = false := by
  unfold good
  rw [hFail, Bool.not_true, Bool.and_false]

theorem good_advance
    (n : Nat)
    (s : InputStream) :
    (s.advance n).good = s.good := rfl

theorem rest_advance
    (n : Nat)
    (s : InputStream) :
    (s.advance n).rest = s.rest.drop n := by
  unfold rest advance
  rw [List.drop_drop]

theorem get_of_rest
    {c : Byte}
    {cs : List Byte}
    (hGood : s.good = true)
    (hRest : s.rest = c :: cs) :
    s.get = (some c, s.advance 1) := by
  rw [InputStream.get, sentry_of_good hGood]
  dsimp only
  rw [hRest]

/- A line that is ended. -/
theorem getline_of_end
    {line text : List Byte}
    (hGood : s.good = true)
    (hRest : s.rest = line ++ newline :: text)
    (hEnd : newline ∉ line)
    (value : StdString) :
    s.getline value = (line, s.advance (line.length + 1)) := by
  rw [getline, sentry_of_good hGood]
  dsimp only
  rw [hRest, Lines.takeWhile_append_cons hEnd, if_pos]
  simp

/- The last line, if it is not ended. -/
theorem getline_of_notMem
    (hGood : s.good = true)
    (hEnd : newline ∉ s.rest)
    (value : StdString) :
    s.getline value =
      (s.rest,
        { s.advance s.rest.length with
          eofbit := true
          failbit := s.rest.isEmpty }) := by
  rw [getline, sentry_of_good hGood]
  dsimp only
  rw [Lines.takeWhile_of_notMem hEnd,
    if_neg (Nat.lt_irrefl _)]

end InputStream

end AnDbg

------------------------------------------------------------
-- Words
------------------------------------------------------------

namespace AnDbg

namespace InputStream

open Conversion Fields

/- The words that can still be extracted. -/
def words (s : InputStream) : List StdString :=
  if s.good then fields isSpace s.rest else []

variable {s : InputStream} {blanks word text : List Byte}

theorem words_opened
    (text : List Byte) :
    (opened text).words = fields isSpace text := rfl

theorem takeWhile_isSpace
    (hBlanks : ∀ c ∈ blanks, isSpace c = true)
    (hStarts : startsField isSpace text = true) :
    (blanks ++ text).takeWhile isSpace = blanks := by
  rw [List.takeWhile_append_of_pos hBlanks]
  rcases text with - | ⟨c, cs⟩
  · cases hStarts
  · rw [List.takeWhile_cons_of_neg, List.append_nil]
    simpa [startsField] using hStarts

theorem takeWhile_not_isSpace
    (hWord : ∀ c ∈ word, isSpace c = false)
    (hEnds : startsField isSpace text = false) :
    (word ++ text).takeWhile (!isSpace ·) = word := by
  rw [List.takeWhile_append_of_pos
    fun c hc => by simp [hWord c hc]]
  rcases text with - | ⟨c, cs⟩
  · exact List.append_nil word
  · rw [List.takeWhile_cons_of_neg, List.append_nil]
    simpa [startsField] using hEnds

/- A word behind blanks is extracted. -/
theorem extract_of_rest
    (hGood : s.good = true)
    (hRest : s.rest = blanks ++ (word ++ text))
    (hBlanks : ∀ c ∈ blanks, isSpace c = true)
    (hNonempty : word ≠ [])
    (hWord : ∀ c ∈ word, isSpace c = false)
    (hEnds : startsField isSpace text = false)
    (value : StdString) :
    ∃ s' : InputStream,
      s.extract value = (word, s') ∧ s'.rest = text ∧
        s'.failbit = false ∧ s'.eofbit = text.isEmpty := by
  have hStarts : startsField isSpace (word ++ text) = true := by
    rcases List.exists_cons_of_ne_nil hNonempty with
      ⟨c, cs, rfl⟩
    simp [startsField, hWord c List.mem_cons_self]
  have hBehind :
      (s.advance blanks.length).rest = word ++ text := by
    rw [rest_advance, hRest, List.drop_left]
  have hSome : word ++ text ≠ [] := by
    simp [hNonempty]
  rw [extract, sentry_of_good hGood]
  dsimp only
  rw [hRest, takeWhile_isSpace hBlanks hStarts, hBehind,
    if_neg hSome, takeWhile_not_isSpace hWord hEnds]
  refine ⟨_, rfl, ?_, (good_iff.mp hGood).2, ?_⟩
  · have hText := rest_advance word.length
      (s.advance blanks.length)
    rwa [hBehind, List.drop_left] at hText
  · rcases text with - | ⟨c, cs⟩
    · simp
    · simp

/- Where there are only blanks nothing is extracted. -/
theorem extract_of_blank
    (hGood : s.good = true)
    (hBlank : ∀ c ∈ s.rest, isSpace c = true)
    (value : StdString) :
    s.extract value =
      (value,
        { s.advance s.rest.length with
          eofbit := true
          failbit := true }) := by
  have hAll := List.takeWhile_eq_self_iff.mpr hBlank
  have hNothing : (s.advance s.rest.length).rest = [] := by
    rw [rest_advance, List.drop_length]
  rw [extract, sentry_of_good hGood]
  dsimp only
  rw [hAll, if_pos hNothing]

/- Words are extracted one after another. -/
theorem extract_spec
    (value : StdString)
    (s : InputStream) :
    (s.extract value).1 = s.words.headD value ∧
      (s.extract value).2.words = s.words.tail ∧
      (s.extract value).2.failbit =
        (s.failbit || s.words.isEmpty) := by
  unfold words
  cases hGood : s.good with
  | false =>
      rw [extract, sentry_of_not_good hGood]
      dsimp only
      rw [not_good_of_failbit rfl, if_neg Bool.false_ne_true]
      simp
  | true =>
      rw [if_pos rfl]
      rcases blank_or_field isSpace s.rest with hBlank |
        ⟨blanks, word, text, hRest, hBlanks, hNonempty, hWord,
          hEnds⟩
      · rw [extract_of_blank hGood hBlank,
          fields_blanks hBlank, not_good_of_failbit rfl,
          if_neg Bool.false_ne_true, (good_iff.mp hGood).2]
        exact ⟨rfl, rfl, rfl⟩
      · rcases extract_of_rest hGood hRest hBlanks hNonempty
          hWord hEnds value with ⟨s', hExtract, hText, hOk, hEof⟩
        rw [hExtract, hRest, fields_blanks_append hBlanks,
          fields_word_append hNonempty hWord hEnds]
        refine ⟨rfl, ?_, ?_⟩
        · rw [good, hOk, hEof, hText]
          rcases text with - | ⟨c, cs⟩
          · rfl
          · rfl
        · rw [hOk, (good_iff.mp hGood).2]
          rfl

/- A stream from which a text is left, and no read failed. -/
structure Before
    (s : InputStream)
    (text : List Byte) : Prop where
  rest : s.rest = text
  failbit : s.failbit = false
  eofbit : s.eofbit = true → text = []

theorem before_opened
    (text : List Byte) :
    (opened text).Before text :=
  ⟨rfl, rfl, Bool.noConfusion⟩

theorem Before.good
    (hBefore : s.Before text)
    (hText : text ≠ []) :
    s.good = true := by
  apply good_iff.mpr
  refine ⟨?_, hBefore.failbit⟩
  cases hEof : s.eofbit with
  | false => rfl
  | true => exact absurd (hBefore.eofbit hEof) hText

theorem Before.extract
    (hBefore : s.Before (blanks ++ (word ++ text)))
    (hBlanks : ∀ c ∈ blanks, isSpace c = true)
    (hNonempty : word ≠ [])
    (hWord : ∀ c ∈ word, isSpace c = false)
    (hEnds : startsField isSpace text = false)
    (value : StdString) :
    ∃ s' : InputStream,
      s.extract value = (word, s') ∧ s'.Before text := by
  have hGood := hBefore.good (by simp [hNonempty])
  rcases extract_of_rest hGood hBefore.rest hBlanks hNonempty
    hWord hEnds value with ⟨s', hExtract, hRest, hOk, hEof⟩
  refine ⟨s', hExtract, hRest, hOk, ?_⟩
  intro hEnd
  rw [hEof] at hEnd
  exact List.isEmpty_iff.mp hEnd

theorem getline_of_not_good
    (hBad : s.good = false)
    (value : StdString) :
    (s.getline value).1 = value := by
  rw [getline, sentry_of_not_good hBad]

/- The rest of a line behind blanks. -/
theorem Before.getline_skipSpace
    (hBefore : s.Before (blanks ++ text))
    (hBlanks : ∀ c ∈ blanks, isSpace c = true)
    (hText : text = [] ∨ startsField isSpace text = true)
    (hEnd : newline ∉ text) :
    (s.skipSpace.getline []).1 = text := by
  cases hGood : s.good with
  | false =>
      have hNothing : blanks ++ text = [] := by
        by_contra hSome
        rw [hBefore.good hSome] at hGood
        cases hGood
      rw [skipSpace, sentry_of_not_good hGood]
      rw [getline_of_not_good (not_good_of_failbit rfl)]
      exact (List.append_eq_nil_iff.mp hNothing).2.symm
  | true =>
      have hTake :
          (blanks ++ text).takeWhile isSpace = blanks := by
        rcases hText with rfl | hStarts
        · rw [List.append_nil]
          exact List.takeWhile_eq_self_iff.mpr hBlanks
        · exact takeWhile_isSpace hBlanks hStarts
      rw [skipSpace, sentry_of_good hGood]
      dsimp only
      rw [hBefore.rest, hTake]
      by_cases hNil : text = []
      · subst hNil
        have hEof :
            decide (blanks.length = (blanks ++ []).length) =
              true := by
          simp
        rw [hEof, getline_of_not_good rfl]
      · have hRest : (s.advance blanks.length).rest = text := by
          rw [rest_advance, hBefore.rest, List.drop_left]
        have hEof :
            decide (blanks.length = (blanks ++ text).length) =
              false := by
          simpa using hNil
        rw [hEof, getline_of_notMem]
        · exact hRest
        · exact good_iff.mpr ⟨rfl, hBefore.failbit⟩
        · change newline ∉ (s.advance blanks.length).rest
          rwa [hRest]

end InputStream

end AnDbg
