import AnDbg.Base.File

/-
  Whole reads of a file among reads of its lines.

  Of a stream there is a single whole read, and only while
  no read has come to its end.  It takes away the lines that
  were not read before it.

  Main declarations:
    * `AnDbg.File.answers` and `AnDbg.File.answers_eq`
    * `AnDbg.File.Undisturbed` and `AnDbg.File.Harmless`
    * `AnDbg.File.undisturbed_iff`
-/

------------------------------------------------------------
-- Sequences Of Reads
------------------------------------------------------------

namespace AnDbg

namespace File

open InputStream Lines

/- The reads of a file. -/
inductive Op
  | readAll
  | readLines
  | readLine
deriving DecidableEq

/- What a read returns. -/
inductive Answer
  | content (content : List Byte)
  | lines (lines : List StdString)
  | line (line : StdString)

/- One read. -/
def perform (op : Op) (f : File) : Answer × File :=
  match op with
  | .readAll => (.content f.readAll.1, f.readAll.2)
  | .readLines => (.lines f.readLines.1, f.readLines.2)
  | .readLine => (.line f.readLine.1, f.readLine.2)

/- What a sequence of reads returns. -/
def answers : List Op → File → List Answer
| [], _ => []
| op :: ops, f =>
    (f.perform op).1 :: answers ops (f.perform op).2

/- The line that an answer is, if it is one. -/
def Answer.line? : Answer → Option StdString
| .line text => some text
| _ => none

/-
  The whole reads of a sequence are complete, and the lines
  that are read in it are those that are read without them.
-/
structure Undisturbed
    (content : List Byte)
    (ops : List Op) : Prop where
  readAll :
    ∀ answer,
      (Op.readAll, answer) ∈
          ops.zip (answers ops (opened content)) →
      answer = .content content
  readLines :
    ∀ answer,
      (Op.readLines, answer) ∈
          ops.zip (answers ops (opened content)) →
      answer = .lines (lines newline content)
  readLine :
    (answers ops (opened content)).filterMap Answer.line? =
      (answers (ops.filter (· = .readLine))
        (opened content)).filterMap Answer.line?

/-
  There is nothing in the file, or there is no whole read,
  or only one, before any read came to the end, and behind
  it only empty lines or none are read.
-/
inductive Harmless (content : List Byte) : List Op → Prop
  | empty
      {ops : List Op}
      (hEmpty : content = []) :
      Harmless content ops
  | lines
      (n : Nat) :
      Harmless content (List.replicate n .readLine)
  | once
      (op : Op)
      (before after : Nat)
      (hBefore : before ≤ content.count newline)
      (hAfter :
        ∀ i, before ≤ i → i < before + after →
          (Lines.lines newline content).getD i [] = []) :
      Harmless content
        (List.replicate before .readLine ++
          op :: List.replicate after .readLine)

variable {f : File} {content : List Byte}

/- What a read does, by what is pending. -/
theorem perform_spec
    (hFile : f.HasContent content)
    (op : Op) :
    (f.perform op).1 =
        (match op with
        | .readAll =>
          .content (if f.pending.isSome then content else [])
        | .readLines =>
          .lines (if f.pending.isSome then
            Lines.lines newline content else [])
        | .readLine =>
          .line ((f.pending.elim []
            (Lines.lines newline)).headD [])) ∧
      (f.perform op).2.pending =
        (match op with
        | .readLine => afterLine f.pending
        | _ => none) ∧
      (f.perform op).2.HasContent content := by
  have hGood : f.pending.isSome = f.stream.good := by
    unfold pending
    cases f.stream.good
    case true => rfl
    case false => rfl
  rw [hGood]
  cases op with
  | readAll =>
      rcases readAll_spec hFile with ⟨hText, hRest⟩
      exact ⟨congrArg Answer.content hText, hRest⟩
  | readLines =>
      rcases readLines_spec hFile with ⟨hLines, hRest⟩
      exact ⟨congrArg Answer.lines hLines, hRest⟩
  | readLine =>
      rcases readLine_spec hFile with ⟨hLine, hRest⟩
      exact ⟨congrArg Answer.line hLine, hRest⟩

/- The reads of a file, by what is pending. -/
def answersOf
    (content : List Byte) :
    List Op → Option (List Byte) → List Answer
| [], _ => []
| .readAll :: ops, pending =>
    .content (if pending.isSome then content else []) ::
      answersOf content ops none
| .readLines :: ops, pending =>
    .lines (if pending.isSome then
      Lines.lines newline content else []) ::
      answersOf content ops none
| .readLine :: ops, pending =>
    .line ((pending.elim []
      (Lines.lines newline)).headD []) ::
      answersOf content ops (afterLine pending)

/- Only what is pending matters for a sequence of reads. -/
theorem answers_eq
    (hFile : f.HasContent content)
    (ops : List Op) :
    answers ops f = answersOf content ops f.pending := by
  induction ops generalizing f with
  | nil => rfl
  | cons op ops ih =>
      rcases perform_spec hFile op with
        ⟨hAnswer, hPending, hAfter⟩
      rw [answers, hAnswer, ih hAfter, hPending]
      cases op with
      | readAll => rfl
      | readLines => rfl
      | readLine => rfl

end File

end AnDbg

------------------------------------------------------------
-- When Whole Reads Do No Harm
------------------------------------------------------------

namespace AnDbg

namespace File

open InputStream Lines

variable {content : List Byte} {ops : List Op}
variable {pending : Option (List Byte)}

/- The lines that are pending. -/
def linesOf (pending : Option (List Byte)) : List StdString :=
  pending.elim [] (Lines.lines newline)

theorem linesOf_afterLine
    (pending : Option (List Byte)) :
    linesOf (afterLine pending) = (linesOf pending).tail := by
  unfold linesOf
  cases pending with
  | none => rfl
  | some text =>
      rw [Option.elim_some, afterLine]
      by_cases hEnd : newline ∈ text
      · rcases List.eq_append_cons_of_mem hEnd with
          ⟨line, tail, rfl, hLine⟩
        rw [if_pos hEnd, takeWhile_append_cons hLine,
          lines_append_cons hLine, Option.elim_some]
        simp
      · rw [if_neg hEnd]
        rcases text with - | ⟨c, cs⟩
        · rfl
        · rw [lines_of_notMem (List.cons_ne_nil c cs) hEnd]
          rfl

/- What is pending after some lines were read. -/
def afterLines (n : Nat) :
    Option (List Byte) → Option (List Byte) :=
  afterLine^[n]

/- A text is pending while there was an end for each line. -/
theorem isSome_afterLines_iff
    (n : Nat)
    (text : List Byte) :
    (afterLines n (some text)).isSome = true ↔
      n ≤ text.count newline := by
  unfold afterLines
  induction n generalizing text with
  | zero => simp
  | succ n ih =>
      rw [Function.iterate_succ_apply, afterLine]
      by_cases hEnd : newline ∈ text
      · rcases List.eq_append_cons_of_mem hEnd with
          ⟨line, tail, rfl, hLine⟩
        have hDrop :
            (line ++ newline :: tail).drop (line.length + 1) =
              tail := by
          simp
        rw [if_pos hEnd, takeWhile_append_cons hLine, hDrop, ih,
          List.count_append, List.count_eq_zero_of_not_mem hLine,
          List.count_cons_self]
        omega
      · rw [if_neg hEnd, List.count_eq_zero_of_not_mem hEnd,
          Function.iterate_fixed rfl]
        simp

/- Lines that are read before the other reads. -/
theorem answersOf_replicate_append
    (content : List Byte)
    (n : Nat)
    (ops : List Op)
    (pending : Option (List Byte)) :
    answersOf content (List.replicate n .readLine ++ ops)
        pending =
      (List.range n).map
          (fun i => .line ((linesOf pending).getD i [])) ++
        answersOf content ops (afterLines n pending) := by
  unfold afterLines
  induction n generalizing pending with
  | zero => rfl
  | succ n ih =>
      rw [List.replicate_succ, List.cons_append, answersOf, ih,
        Function.iterate_succ_apply, List.range_succ_eq_map,
        List.map_cons, List.map_map, List.cons_append,
        linesOf_afterLine]
      congr 1
      · unfold linesOf
        rcases pending.elim [] (Lines.lines newline) with
          - | ⟨line, rest⟩
        · rfl
        · rfl
      · congr 1
        apply List.map_congr_left
        intro i _
        rcases linesOf pending with - | ⟨line, rest⟩
        · rfl
        · rfl

theorem answersOf_replicate
    (content : List Byte)
    (n : Nat)
    (pending : Option (List Byte)) :
    answersOf content (List.replicate n .readLine) pending =
      (List.range n).map
        (fun i => .line ((linesOf pending).getD i [])) := by
  have hReads := answersOf_replicate_append content n [] pending
  rwa [List.append_nil, answersOf, List.append_nil] at hReads

/- What a whole read returns; no line is left behind it. -/
def complete (content : List Byte) : Op → Answer
| .readAll => .content content
| .readLines => .lines (Lines.lines newline content)
| .readLine => .line []

/- What a read of nothing returns. -/
abbrev nothing : Op → Answer := complete []

theorem answersOf_whole
    {op : Op}
    (hWhole : op ≠ .readLine)
    (ops : List Op)
    (pending : Option (List Byte)) :
    answersOf content (op :: ops) pending =
      complete (if pending.isSome then content else []) op ::
        answersOf content ops none := by
  cases op with
  | readAll => rfl
  | readLines =>
      rw [answersOf, complete]
      split
      next hSome => rfl
      next hNone => rfl
  | readLine => exact absurd rfl hWhole

/- With nothing left, or nothing there, nothing is read. -/
theorem answersOf_nothing
    (hLines : linesOf pending = [])
    (hContent : pending.isSome = true → content = [])
    (ops : List Op) :
    answersOf content ops pending = ops.map nothing := by
  induction ops generalizing pending with
  | nil => rfl
  | cons op ops ih =>
      by_cases hLine : op = .readLine
      · have hAfter := linesOf_afterLine pending
        rw [hLines] at hAfter
        have hStill :
            (afterLine pending).isSome = true →
              content = [] := by
          intro hSome
          apply hContent
          cases pending with
          | none => exact hSome
          | some text => rfl
        rw [hLine, answersOf, ← linesOf, hLines,
          ih hAfter hStill]
        rfl
      · have hRead :
            (if pending.isSome then content else []) = [] := by
          split
          next hSome => exact hContent hSome
          next hNone => rfl
        rw [answersOf_whole hLine, hRead,
          ih rfl (fun hSome => by cases hSome)]
        rfl

theorem answersOf_none
    (content : List Byte)
    (ops : List Op) :
    answersOf content ops none = ops.map nothing :=
  answersOf_nothing rfl (fun hSome => by cases hSome) ops

theorem answers_opened
    (content : List Byte)
    (ops : List Op) :
    answers ops (opened content) =
      answersOf content ops (some content) := by
  rw [answers_eq (hasContent_opened content), pending_opened]

/- Lines that are read while there are no other reads. -/
theorem line?_answersOf_replicate
    (content : List Byte)
    (n : Nat)
    (pending : Option (List Byte)) :
    (answersOf content (List.replicate n .readLine)
        pending).filterMap Answer.line? =
      (List.range n).map
        (fun i => (linesOf pending).getD i []) := by
  rw [answersOf_replicate, List.filterMap_map]
  exact congrFun List.filterMap_eq_map _

/- The lines before a whole read, and nothing behind it. -/
theorem line?_answersOf_whole
    {op : Op}
    (hWhole : op ≠ .readLine)
    (content : List Byte)
    (before after : Nat)
    (pending : Option (List Byte)) :
    (answersOf content
        (List.replicate before .readLine ++
          op :: List.replicate after .readLine)
        pending).filterMap Answer.line? =
      (List.range before).map
          (fun i => (linesOf pending).getD i []) ++
        List.replicate after [] := by
  rw [answersOf_replicate_append, answersOf_whole hWhole,
    answersOf_none, List.filterMap_append, List.filterMap_map,
    List.map_replicate]
  congr 1
  · exact congrFun List.filterMap_eq_map _
  · rw [List.filterMap_cons_none,
      List.filterMap_replicate_of_some
        (f := Answer.line?) (a := nothing .readLine) rfl]
    cases op with
    | readAll => rfl
    | readLines => rfl
    | readLine => exact absurd rfl hWhole

/- The answers to the reads around a whole read. -/
theorem zip_answersOf_whole
    {op : Op}
    (hWhole : op ≠ .readLine)
    (content : List Byte)
    (before : Nat)
    (ops : List Op)
    (pending : Option (List Byte)) :
    let reads := List.replicate before .readLine ++ op :: ops
    reads.zip (answersOf content reads pending) =
      (List.replicate before Op.readLine).zip
          ((List.range before).map
            (fun i => .line ((linesOf pending).getD i []))) ++
        (op, complete
          (if (afterLines before pending).isSome
            then content else []) op) ::
          ops.map (fun op => (op, nothing op)) := by
  intro reads
  rw [answersOf_replicate_append, answersOf_whole hWhole,
    answersOf_none, List.zip_append (by simp),
    List.zip_cons_cons, List.map_prod_left_eq_zip]

/- A sequence of reads has a first whole read, or none. -/
theorem replicate_or_whole
    (ops : List Op) :
    (∃ n, ops = List.replicate n .readLine) ∨
      ∃ n op rest, op ≠ .readLine ∧
        ops = List.replicate n .readLine ++ op :: rest := by
  induction ops with
  | nil => exact .inl ⟨0, rfl⟩
  | cons op ops ih =>
      by_cases hLine : op = .readLine
      · subst hLine
        rcases ih with ⟨n, rfl⟩ | ⟨n, op, rest, hWhole, rfl⟩
        · exact .inl ⟨n + 1, rfl⟩
        · exact .inr ⟨n + 1, op, rest, hWhole, rfl⟩
      · exact .inr ⟨0, op, ops, hLine, rfl⟩

/- A complete read of nothing is one of an empty file. -/
theorem eq_nil_of_complete_eq
    {op : Op}
    (hWhole : op ≠ .readLine)
    (hNothing : nothing op = complete content op) :
    content = [] := by
  cases op with
  | readAll =>
      injection hNothing with hContent
      exact hContent.symm
  | readLines =>
      injection hNothing with hLines
      by_contra hContent
      exact lines_ne_nil hContent hLines.symm
  | readLine => exact absurd rfl hWhole

/- Both kinds of whole reads at once. -/
theorem undisturbed_iff_answersOf
    (content : List Byte)
    (ops : List Op) :
    Undisturbed content ops ↔
      (∀ op answer,
        (op, answer) ∈
            ops.zip (answersOf content ops (some content)) →
        op ≠ .readLine → answer = complete content op) ∧
        (answersOf content ops
            (some content)).filterMap Answer.line? =
          (answersOf content (ops.filter (· = .readLine))
            (some content)).filterMap Answer.line? := by
  rw [← answers_opened, ← answers_opened]
  constructor
  · intro hReads
    refine ⟨?_, hReads.readLine⟩
    intro op answer hMem hWhole
    cases op with
    | readAll => exact hReads.readAll answer hMem
    | readLines => exact hReads.readLines answer hMem
    | readLine => exact absurd rfl hWhole
  · rintro ⟨hComplete, hLines⟩
    exact {
      readAll := fun answer hMem =>
        hComplete .readAll answer hMem Op.noConfusion
      readLines := fun answer hMem =>
        hComplete .readLines answer hMem Op.noConfusion
      readLine := hLines }

theorem filter_replicate_append
    {op : Op}
    (hWhole : op ≠ .readLine)
    (before after : Nat) :
    (List.replicate before Op.readLine ++
        op :: List.replicate after Op.readLine).filter
        (· = Op.readLine) =
      List.replicate (before + after) Op.readLine := by
  rw [List.filter_append,
    List.filter_cons_of_neg (by simpa using hWhole)]
  simp

/- Without a whole read there is nothing to disturb. -/
theorem undisturbed_replicate
    (content : List Byte)
    (n : Nat) :
    Undisturbed content (List.replicate n .readLine) := by
  apply (undisturbed_iff_answersOf _ _).mpr
  refine ⟨?_, ?_⟩
  · intro op answer hMem hWhole
    exact absurd
      (List.eq_of_mem_replicate (List.of_mem_zip hMem).1) hWhole
  · rw [List.filter_eq_self.mpr]
    intro op hMem
    exact decide_eq_true (List.eq_of_mem_replicate hMem)

/- Nor is there in an empty file. -/
theorem undisturbed_nil
    (ops : List Op) :
    Undisturbed [] ops := by
  have hNothing (ops : List Op) :
      answersOf [] ops (some []) = ops.map nothing :=
    answersOf_nothing rfl (fun _ => rfl) ops
  apply (undisturbed_iff_answersOf _ _).mpr
  rw [hNothing, hNothing]
  refine ⟨?_, ?_⟩
  · intro op answer hMem _
    rw [← List.map_prod_left_eq_zip, List.mem_map] at hMem
    rcases hMem with ⟨op', _, hEq⟩
    cases hEq
    rfl
  · rw [List.filterMap_map, List.filterMap_map,
      List.filterMap_filter]
    apply List.filterMap_congr
    intro op _
    cases op with
    | readAll => rfl
    | readLines => rfl
    | readLine => rfl

/-
  A whole read disturbs nothing if and only if it was made
  in time and what it takes away are empty lines.
-/
theorem undisturbed_whole_iff
    {op : Op}
    (hWhole : op ≠ .readLine)
    (hContent : content ≠ [])
    (before : Nat)
    (rest : List Op) :
    Undisturbed content
        (List.replicate before .readLine ++ op :: rest) ↔
      ∃ after, rest = List.replicate after .readLine ∧
        before ≤ content.count newline ∧
        ∀ i, before ≤ i → i < before + after →
          (linesOf (some content)).getD i [] = [] := by
  have hPending := isSome_afterLines_iff before content
  rw [undisturbed_iff_answersOf, zip_answersOf_whole hWhole]
  constructor
  · rintro ⟨hComplete, hLines⟩
    have hFirst := hComplete op _
      (List.mem_append_right _ List.mem_cons_self) hWhole
    have hRest : ∀ op' ∈ rest, op' = .readLine := by
      intro op' hMem
      by_contra hWhole'
      apply hContent
      apply eq_nil_of_complete_eq hWhole'
      apply hComplete op' _ _ hWhole'
      apply List.mem_append_right
      apply List.mem_cons_of_mem
      exact List.mem_map.mpr ⟨op', hMem, rfl⟩
    have hReplicate := List.eq_replicate_of_mem hRest
    generalize rest.length = after at hReplicate
    subst hReplicate
    refine ⟨after, rfl, ?_, ?_⟩
    · apply hPending.mp
      by_contra hNone
      rw [if_neg hNone] at hFirst
      exact hContent (eq_nil_of_complete_eq hWhole hFirst)
    · intro i hLow hHigh
      rw [line?_answersOf_whole hWhole,
        filter_replicate_append hWhole,
        line?_answersOf_replicate, List.range_add,
        List.map_append] at hLines
      have hBehind := List.append_cancel_left hLines
      have hAt := congrArg (·.getD (i - before) []) hBehind
      have hIndex : i - before < after := by omega
      simpa [hIndex, Nat.add_sub_cancel' hLow] using hAt.symm
  · rintro ⟨after, rfl, hBefore, hAfter⟩
    refine ⟨?_, ?_⟩
    · intro op' answer hMem hWhole'
      rw [if_pos (hPending.mpr hBefore)] at hMem
      rcases List.mem_append.mp hMem with hLine | hMem
      · exact absurd (List.eq_of_mem_replicate
          (List.of_mem_zip hLine).1) hWhole'
      · rcases List.mem_cons.mp hMem with hFirst | hMem
        · cases hFirst
          rfl
        · rcases List.mem_map.mp hMem with ⟨op'', hIn, hEq⟩
          cases hEq
          exact absurd (List.eq_of_mem_replicate hIn) hWhole'
    · rw [line?_answersOf_whole hWhole,
        filter_replicate_append hWhole,
        line?_answersOf_replicate, List.range_add,
        List.map_append, List.map_map]
      congr 1
      symm
      apply List.eq_replicate_iff.mpr
      refine ⟨by simp, ?_⟩
      intro line hMem
      rcases List.mem_map.mp hMem with ⟨i, hIndex, rfl⟩
      rw [List.mem_range] at hIndex
      exact hAfter (before + i) (by omega) (by omega)

theorem undisturbed_iff
    (content : List Byte)
    (ops : List Op) :
    Undisturbed content ops ↔ Harmless content ops := by
  constructor
  · intro hReads
    by_cases hContent : content = []
    · exact .empty hContent
    · rcases replicate_or_whole ops with
        ⟨n, rfl⟩ | ⟨before, op, rest, hWhole, rfl⟩
      · exact .lines n
      · rcases (undisturbed_whole_iff hWhole hContent
            before rest).mp hReads with
          ⟨after, rfl, hBefore, hAfter⟩
        exact .once op before after hBefore hAfter
  · intro hReads
    cases hReads with
    | empty hEmpty =>
        subst hEmpty
        exact undisturbed_nil ops
    | lines n => exact undisturbed_replicate content n
    | once op before after hBefore hAfter =>
        by_cases hLine : op = .readLine
        · subst hLine
          rw [← List.replicate_succ,
            List.replicate_append_replicate]
          exact undisturbed_replicate content _
        · by_cases hContent : content = []
          · subst hContent
            exact undisturbed_nil _
          · exact (undisturbed_whole_iff hLine hContent
              before _).mpr ⟨after, rfl, hBefore, hAfter⟩

/- The second of two whole reads returns nothing. -/
theorem not_undisturbed_readAll_twice :
    ¬ Undisturbed [0x61, newline] [.readAll, .readAll] := by
  intro hReads
  have hAgain := hReads.readAll (.content []) (by
    rw [answers_opened]
    exact List.mem_cons_of_mem _ List.mem_cons_self)
  injection hAgain with hContent
  exact absurd hContent (List.cons_ne_nil _ _).symm

end File

end AnDbg
