import AnDbg.Base.InputStream
import AnDbg.Core.Kernel
import AnDbg.Lib.Collecting

/-
  The processes that `ps` lists.

  The output of the command is read into a buffer of fixed
  size.  A line that does not fit is read in pieces, and
  every piece is taken for a line.

  Main declarations:
    * `AnDbg.Utils.splitBySpace`
    * `AnDbg.PSHelper.fgets` and `AnDbg.PSHelper.pieces`
    * `AnDbg.PSHelper.parseSingleLine`
    * `AnDbg.PSHelper.getItems`
    * `AnDbg.PSHelper.pieces_append_line`
-/

------------------------------------------------------------
-- Words Of A Line
------------------------------------------------------------

namespace AnDbg

namespace Utils

open Conversion Fields InputStream

theorem words_lt_of_extract
    {token value : StdString}
    {iss iss' : InputStream}
    (hExtract : iss.extract value = (token, iss'))
    (hOk : iss'.failbit = false) :
    iss'.words.length < iss.words.length := by
  have hSpec := extract_spec value iss
  rw [hExtract] at hSpec
  rcases hSpec with ⟨-, hWords, hFail⟩
  rw [hOk] at hFail
  rw [hWords]
  cases hBefore : iss.words with
  | nil => simp [hBefore] at hFail
  | cons word words => simp

/- The loop of `split_by_space`. -/
def extractTokens
    (token : StdString)
    (iss : InputStream) : List StdString :=
  match _hExtract : iss.extract token with
  | (token, iss) =>
    if _hOk : iss.failbit = false then
      token :: extractTokens token iss
    else
      []
termination_by iss.words.length
decreasing_by exact words_lt_of_extract _hExtract _hOk

/- `split_by_space`. -/
def splitBySpace (s : StdString) : List StdString :=
  extractTokens [] (opened s)

theorem extractTokens_eq
    {words : List StdString}
    {iss : InputStream}
    (hWords : iss.words = words)
    (hOk : iss.failbit = false)
    (token : StdString) :
    extractTokens token iss = words := by
  induction words generalizing iss token with
  | nil =>
      rw [extractTokens]
      split
      next token' iss' hExtract =>
        have hSpec := extract_spec token iss
        rw [hExtract, hWords, hOk] at hSpec
        have hFail : iss'.failbit = true := hSpec.2.2
        rw [dif_neg (by simp [hFail])]
  | cons word words ih =>
      rw [extractTokens]
      split
      next token' iss' hExtract =>
        have hSpec := extract_spec token iss
        rw [hExtract, hWords, hOk] at hSpec
        have hToken : token' = word := hSpec.1
        have hStill : iss'.failbit = false := hSpec.2.2
        rw [dif_pos hStill, ih hSpec.2.1 hStill, hToken]

/- The tokens are the fields of the text. -/
theorem splitBySpace_eq
    (s : StdString) :
    splitBySpace s = fields isSpace s :=
  extractTokens_eq (words_opened s) rfl []

end Utils

end AnDbg

------------------------------------------------------------
-- Reading The Output
------------------------------------------------------------

namespace AnDbg

namespace PROCHelper

/- `char_to_process_state`. -/
def charToProcessState (state : Byte) : ProcessState :=
  if state = 0x52 then .running
  else if state = 0x53 then .sleeping
  else if state = 0x44 then .diskSleep
  else if state = 0x54 then .stopped
  else if state = 0x74 then .tracingStop
  else if state = 0x58 then .dead
  else if state = 0x5a then .zombie
  else if state = 0x50 then .parked
  else if state = 0x49 then .idle
  else .unknown

end PROCHelper

/- `PSHelper::PSItem`. -/
structure PSItem where
  user : StdString
  pid : Pid
  ppid : Pid
  vsz : BitVec 64
  rss : BitVec 64
  wchan : StdString
  addr : StdString
  state : ProcessState
  name : StdString

namespace PSHelper

open Collecting Conversion InputStream Utils

/- The size of the buffer that a line is read into. -/
def bufferSize : Nat := 2048

/-
  `fgets`: what is read of the output of a pipe, and what is
  left of it.  A place of the buffer is kept for the NUL.
-/
def fgets (pipe : List Byte) : List Byte × List Byte :=
  let n := min (bufferSize - 1)
    ((pipe.takeWhile (· != newline)).length + 1)
  (pipe.take n, pipe.drop n)

/- What `fgets` reads, until it returns a null pointer. -/
def pieces (pipe : List Byte) : List (List Byte) :=
  if _hEnd : pipe = [] then
    []
  else
    (fgets pipe).1 :: pieces (fgets pipe).2
termination_by pipe.length
decreasing_by
  have hLength := List.length_pos_iff.mpr _hEnd
  have hSize : bufferSize = 2048 := rfl
  rw [fgets, List.length_drop]
  omega

/- The line that `get_items` makes of what is in the buffer. -/
def lineOf (buffer : List Byte) : StdString :=
  ((cStr buffer).filter (· != newline)).filter (· != 0x0d)

/- `parse_single_line`; the item of a line it accepts. -/
def parseSingleLine
    (line : StdString) :
    Except ConversionError (Option PSItem) :=
  let tokens := splitBySpace line
  if tokens.length < 9 then
    .ok none
  else do
    let pid ← stoi (tokens.getD 1 [])
    let ppid ← stoi (tokens.getD 2 [])
    let vsz ← stoull 10 (tokens.getD 3 [])
    let rss ← stoull 10 (tokens.getD 4 [])
    let item : PSItem :=
      { user := tokens.getD 0 []
        pid := pid
        ppid := ppid
        vsz := vsz
        rss := rss
        wchan := tokens.getD 5 []
        addr := tokens.getD 6 []
        state :=
          PROCHelper.charToProcessState
            ((tokens.getD 7 []).headD 0)
        name :=
          (tokens.drop 9).foldl
            (fun name token => name ++ ascii " " ++ token)
            (tokens.getD 8 []) }
    return some item

/- `get_items`, given the output of `ps`, if it was started. -/
def getItems
    (output : Option (List Byte)) :
    Except ConversionError (List PSItem) :=
  match output with
  | none => .ok []
  | some pipe =>
    -- the first line is skipped
    collect (fun buffer => parseSingleLine (lineOf buffer))
      (pieces pipe).tail

end PSHelper

end AnDbg

------------------------------------------------------------
-- Pieces Of Lines
------------------------------------------------------------

namespace AnDbg

namespace PSHelper

open InputStream Lines

variable {line text pipe piece : List Byte}

theorem pieces_of_ne_nil
    (hPipe : pipe ≠ []) :
    pieces pipe = (fgets pipe).1 :: pieces (fgets pipe).2 := by
  rw [pieces, dif_neg hPipe]

theorem pieces_nil : pieces [] = [] := by
  rw [pieces, dif_pos rfl]

/- Nothing is lost between the pieces. -/
theorem flatten_pieces
    (pipe : List Byte) :
    (pieces pipe).flatten = pipe := by
  induction pipe using pieces.induct with
  | case1 => rw [pieces_nil, List.flatten_nil]
  | case2 pipe hPipe ih =>
      rw [pieces_of_ne_nil hPipe, List.flatten_cons, ih, fgets,
        List.take_append_drop]

theorem length_le_of_mem_pieces
    (hPiece : piece ∈ pieces pipe) :
    piece.length ≤ bufferSize - 1 := by
  induction pipe using pieces.induct with
  | case1 =>
      rw [pieces_nil] at hPiece
      cases hPiece
  | case2 pipe hPipe ih =>
      rw [pieces_of_ne_nil hPipe] at hPiece
      rcases List.mem_cons.mp hPiece with rfl | hRest
      · rw [fgets, List.length_take]
        omega
      · exact ih hRest

/- What is read first of a line that fits, and of another. -/
theorem fgets_short
    (hEnd : newline ∉ line)
    (hShort : line.length < bufferSize - 1)
    (text : List Byte) :
    fgets (line ++ newline :: text) =
      (line ++ [newline], text) := by
  have hSplit :
      line ++ newline :: text = (line ++ [newline]) ++ text := by
    rw [List.append_assoc]
    rfl
  have hCount :
      min (bufferSize - 1) (line.length + 1) =
        (line ++ [newline]).length := by
    rw [List.length_append, List.length_singleton]
    omega
  rw [fgets, takeWhile_append_cons hEnd, hCount,
    hSplit, List.take_left, List.drop_left]

theorem fgets_long
    (hEnd : newline ∉ line)
    (hLong : bufferSize - 1 ≤ line.length)
    (text : List Byte) :
    fgets (line ++ newline :: text) =
      (line.take (bufferSize - 1),
        line.drop (bufferSize - 1) ++ newline :: text) := by
  have hCount :
      min (bufferSize - 1) (line.length + 1) =
        bufferSize - 1 := by
    omega
  rw [fgets, takeWhile_append_cons hEnd, hCount,
    List.take_append_of_le_length hLong,
    List.drop_append_of_le_length hLong]

/- A line that fits is one piece. -/
theorem pieces_of_short
    (hEnd : newline ∉ line)
    (hShort : line.length < bufferSize - 1) :
    pieces (line ++ [newline]) = [line ++ [newline]] := by
  rw [pieces_of_ne_nil (by simp), fgets_short hEnd hShort,
    pieces_nil]

/- No piece has something of two lines. -/
theorem pieces_append_line
    (hEnd : newline ∉ line)
    (text : List Byte) :
    pieces (line ++ newline :: text) =
      pieces (line ++ [newline]) ++ pieces text := by
  induction hLength : line.length using
    Nat.strong_induction_on generalizing line with
  | _ n ih =>
      rw [pieces_of_ne_nil (by simp)]
      by_cases hShort : line.length < bufferSize - 1
      · rw [fgets_short hEnd hShort,
          pieces_of_short hEnd hShort]
        rfl
      · have hLong := Nat.not_lt.mp hShort
        have hSize : bufferSize = 2048 := rfl
        have hRest := ih
          (line.drop (bufferSize - 1)).length
          (by rw [List.length_drop]; omega)
          (fun hMem => hEnd (List.mem_of_mem_drop hMem)) rfl
        have hOwn :
            pieces (line ++ [newline]) =
              line.take (bufferSize - 1) ::
                pieces (line.drop (bufferSize - 1) ++
                  [newline]) := by
          rw [pieces_of_ne_nil (by simp),
            fgets_long hEnd hLong]
        rw [fgets_long hEnd hLong, hRest, hOwn]
        rfl

/- The pieces of lines. -/
theorem pieces_unlines
    {list : List (List Byte)}
    (hList : ∀ line ∈ list, newline ∉ line) :
    pieces (unlines newline list) =
      list.flatMap fun line => pieces (line ++ [newline]) := by
  induction list with
  | nil => exact pieces_nil
  | cons line list ih =>
      have hRest := ih fun line' hMem =>
        hList line' (List.mem_cons_of_mem line hMem)
      have hText :
          unlines newline (line :: list) =
            line ++ newline :: unlines newline list := by
        rw [unlines, List.flatMap_cons, ← unlines,
          List.append_assoc]
        rfl
      rw [hText,
        pieces_append_line (hList line List.mem_cons_self),
        hRest, List.flatMap_cons]

end PSHelper

end AnDbg
