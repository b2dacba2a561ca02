import Mathlib.Data.List.TakeWhile

/-
  A text as fields that are kept apart by separators.

  The fields are the longest pieces without a separator, so
  that none of them is empty.  Where two texts are joined the
  last field of the one and the first field of the other may
  become one field; all the others stay as they are.

  Main declarations:
    * `Fields.fields`
    * `Fields.fields_append`
    * `Fields.fields_filter`
    * `Fields.fields_intercalate`
    * `Fields.isInfix_of_mem_fields`
-/

------------------------------------------------------------
-- Splitting
------------------------------------------------------------

namespace Fields

variable {α : Type}

/- A field begins at the beginning of the text. -/
def startsField (sep : α → Bool) : List α → Bool
| [] => false
| c :: _ => !sep c

/- The fields of a text. -/
def fields (sep : α → Bool) : List α → List (List α)
| [] => []
| c :: cs =>
    if sep c then
      fields sep cs
    else if startsField sep cs then
      (fields sep cs).modifyHead (c :: ·)
    else
      [c] :: fields sep cs

variable {sep : α → Bool} {c : α} {text word blanks : List α}

theorem fields_cons_sep
    (hSep : sep c = true)
    (text : List α) :
    fields sep (c :: text) = fields sep text := by
  rw [fields, if_pos hSep]

theorem fields_cons_of_starts
    (hSep : sep c = false)
    (hStarts : startsField sep text = true) :
    fields sep (c :: text) =
      (fields sep text).modifyHead (c :: ·) := by
  rw [fields, if_neg (by simp [hSep]), if_pos hStarts]

theorem fields_cons_of_ends
    (hSep : sep c = false)
    (hEnds : startsField sep text = false) :
    fields sep (c :: text) = [c] :: fields sep text := by
  rw [fields, if_neg (by simp [hSep]),
    if_neg (by simp [hEnds])]

theorem fields_blanks_append
    (hBlanks : ∀ c ∈ blanks, sep c = true)
    (text : List α) :
    fields sep (blanks ++ text) = fields sep text := by
  induction blanks with
  | nil => rfl
  | cons c cs ih =>
      rw [List.cons_append,
        fields_cons_sep (hBlanks c List.mem_cons_self)]
      exact ih fun c' hc' =>
        hBlanks c' (List.mem_cons_of_mem c hc')

/- A field, up to a separator or to the end. -/
theorem fields_word_append
    (hWord : word ≠ [])
    (hNoSep : ∀ c ∈ word, sep c = false)
    (hEnds : startsField sep text = false) :
    fields sep (word ++ text) = word :: fields sep text := by
  induction word with
  | nil => exact absurd rfl hWord
  | cons c cs ih =>
      have hSep := hNoSep c List.mem_cons_self
      rcases cs with - | ⟨c', cs⟩
      · exact fields_cons_of_ends hSep hEnds
      · have hRest := ih (List.cons_ne_nil c' cs)
          fun d hd => hNoSep d (List.mem_cons_of_mem c hd)
        have hStarts :
            startsField sep (c' :: cs ++ text) = true := by
          have hSep' := hNoSep c' (by simp)
          simp [startsField, hSep']
        rw [List.cons_append,
          fields_cons_of_starts hSep hStarts, hRest]
        rfl

theorem fields_word
    (hWord : word ≠ [])
    (hNoSep : ∀ c ∈ word, sep c = false) :
    fields sep word = [word] := by
  have hFields :
      fields sep (word ++ []) = word :: fields sep [] :=
    fields_word_append hWord hNoSep rfl
  rwa [List.append_nil] at hFields

theorem fields_blanks
    (hBlanks : ∀ c ∈ blanks, sep c = true) :
    fields sep blanks = [] := by
  have hFields := fields_blanks_append hBlanks []
  rwa [List.append_nil] at hFields

/- A text is blank, or it has a first field. -/
theorem blank_or_field
    (sep : α → Bool)
    (text : List α) :
    (∀ c ∈ text, sep c = true) ∨
      ∃ blanks word rest, text = blanks ++ (word ++ rest) ∧
        (∀ c ∈ blanks, sep c = true) ∧ word ≠ [] ∧
        (∀ c ∈ word, sep c = false) ∧
        startsField sep rest = false := by
  induction text with
  | nil => exact .inl fun c hc => absurd hc List.not_mem_nil
  | cons c cs ih =>
      cases hSep : sep c with
      | true =>
          rcases ih with hBlank |
            ⟨blanks, word, rest, rfl, hBlanks, hRest⟩
          · exact .inl (List.forall_mem_cons.mpr ⟨hSep, hBlank⟩)
          · exact .inr ⟨c :: blanks, word, rest, rfl,
              List.forall_mem_cons.mpr ⟨hSep, hBlanks⟩, hRest⟩
      | false =>
          refine .inr ⟨[], c :: cs.takeWhile (!sep ·),
            cs.dropWhile (!sep ·), ?_, ?_, List.cons_ne_nil _ _,
            ?_, ?_⟩
          · simp
          · exact fun c hc => absurd hc List.not_mem_nil
          · intro d hd
            rcases List.mem_cons.mp hd with rfl | hd
            · exact hSep
            · simpa using List.mem_takeWhile_imp hd
          · have hHead := List.head?_dropWhile_not (!sep ·) cs
            cases hDrop : cs.dropWhile (!sep ·) with
            | nil => rfl
            | cons d ds =>
                rw [hDrop] at hHead
                simpa [startsField] using hHead

theorem fields_ne_nil_of_starts
    (hStarts : startsField sep text = true) :
    fields sep text ≠ [] := by
  induction text with
  | nil => cases hStarts
  | cons c cs ih =>
      have hSep : sep c = false := by
        simpa [startsField] using hStarts
      by_cases hNext : startsField sep cs = true
      · rw [fields_cons_of_starts hSep hNext]
        intro hNil
        exact ih hNext (List.modifyHead_eq_nil_iff.mp hNil)
      · rw [fields_cons_of_ends hSep (by simpa using hNext)]
        exact List.cons_ne_nil _ _

/- No field is empty, and none has a separator in it. -/
theorem field_spec
    (hWord : word ∈ fields sep text) :
    word ≠ [] ∧ ∀ c ∈ word, sep c = false := by
  induction text generalizing word with
  | nil => cases hWord
  | cons c cs ih =>
      cases hSep : sep c with
      | true =>
          rw [fields_cons_sep hSep] at hWord
          exact ih hWord
      | false =>
          cases hStarts : startsField sep cs with
          | true =>
              rw [fields_cons_of_starts hSep hStarts] at hWord
              rcases List.exists_cons_of_ne_nil
                (fields_ne_nil_of_starts hStarts) with
                ⟨first, rest, hFields⟩
              rw [hFields] at ih hWord
              rcases List.mem_cons.mp hWord with rfl | hRest
              · refine ⟨List.cons_ne_nil _ _, ?_⟩
                intro d hd
                rcases List.mem_cons.mp hd with rfl | hd
                · exact hSep
                · exact (ih List.mem_cons_self).2 d hd
              · exact ih (List.mem_cons_of_mem first hRest)
          | false =>
              rw [fields_cons_of_ends hSep hStarts] at hWord
              rcases List.mem_cons.mp hWord with rfl | hRest
              · refine ⟨List.cons_ne_nil _ _, ?_⟩
                intro d hd
                rwa [List.mem_singleton.mp hd]
              · exact ih hRest

end Fields

------------------------------------------------------------
-- Joined Texts
------------------------------------------------------------

namespace Fields

variable {α : Type} {sep : α → Bool} {a b text : List α}

/-
  Two texts have the fields of both, unless the last field
  of the one and the first field of the other touch.
-/
theorem fields_append
    (sep : α → Bool)
    (a b : List α) :
    fields sep (a ++ b) = fields sep a ++ fields sep b ∨
      ∃ init u v rest,
        fields sep a = init ++ [u] ∧
          fields sep b = v :: rest ∧
          fields sep (a ++ b) = init ++ (u ++ v) :: rest := by
  induction a with
  | nil => exact .inl rfl
  | cons c cs ih =>
      rw [List.cons_append]
      cases hSep : sep c with
      | true =>
          rw [fields_cons_sep hSep, fields_cons_sep hSep]
          exact ih
      | false =>
          rcases cs with - | ⟨d, ds⟩
          · have hOne : fields sep [c] = [[c]] :=
              fields_cons_of_ends hSep rfl
            rw [List.nil_append, hOne]
            cases hStarts : startsField sep b with
            | true =>
                rcases List.exists_cons_of_ne_nil
                  (fields_ne_nil_of_starts hStarts) with
                  ⟨v, rest, hFields⟩
                refine .inr ⟨[], [c], v, rest, rfl, hFields, ?_⟩
                rw [fields_cons_of_starts hSep hStarts, hFields]
                rfl
            | false =>
                left
                rw [fields_cons_of_ends hSep hStarts]
                rfl
          · have hSame :
                startsField sep (d :: ds ++ b) =
                  startsField sep (d :: ds) := rfl
            cases hStarts : startsField sep (d :: ds) with
            | true =>
                rw [fields_cons_of_starts hSep hStarts,
                  fields_cons_of_starts hSep
                    (hSame.trans hStarts)]
                rcases ih with hBoth |
                  ⟨init, u, v, rest, hLeft, hRight, hTouch⟩
                · left
                  rw [hBoth]
                  rcases List.exists_cons_of_ne_nil
                    (fields_ne_nil_of_starts hStarts) with
                    ⟨w, ws, hFields⟩
                  rw [hFields]
                  rfl
                · right
                  rw [hTouch, hLeft]
                  rcases init with - | ⟨w, ws⟩
                  · exact ⟨[], c :: u, v, rest, rfl, hRight,
                      rfl⟩
                  · exact ⟨(c :: w) :: ws, u, v, rest, rfl,
                      hRight, rfl⟩
            | false =>
                rw [fields_cons_of_ends hSep hStarts,
                  fields_cons_of_ends hSep
                    (hSame.trans hStarts)]
                rcases ih with hBoth |
                  ⟨init, u, v, rest, hLeft, hRight, hTouch⟩
                · left
                  rw [hBoth]
                  rfl
                · right
                  exact ⟨[c] :: init, u, v, rest,
                    by rw [hLeft]; rfl, hRight,
                    by rw [hTouch]; rfl⟩

/- One field at most is lost where two texts are joined. -/
theorem length_fields_add_le
    (sep : α → Bool)
    (a b : List α) :
    (fields sep a).length + (fields sep b).length ≤
      (fields sep (a ++ b)).length + 1 := by
  rcases fields_append sep a b with hBoth |
    ⟨init, u, v, rest, hLeft, hRight, hTouch⟩
  · rw [hBoth, List.length_append]
    omega
  · rw [hLeft, hRight, hTouch]
    simp
    omega

/- A text has no more fields than what it is the end of. -/
theorem length_fields_right_le
    (sep : α → Bool)
    (a b : List α) :
    (fields sep b).length ≤
      (fields sep (a ++ b)).length := by
  rcases fields_append sep a b with hBoth |
    ⟨init, u, v, rest, hLeft, hRight, hTouch⟩
  · rw [hBoth, List.length_append]
    omega
  · rw [hRight, hTouch]
    simp

/- Nor than what it is the beginning of. -/
theorem length_fields_left_le
    (sep : α → Bool)
    (a b : List α) :
    (fields sep a).length ≤
      (fields sep (a ++ b)).length := by
  rcases fields_append sep a b with hBoth |
    ⟨init, u, v, rest, hLeft, hRight, hTouch⟩
  · rw [hBoth, List.length_append]
    omega
  · rw [hLeft, hTouch]
    simp

/- With as many fields, only the first may be longer. -/
theorem tail_fields_right
    (hLength :
      (fields sep b).length =
        (fields sep (a ++ b)).length) :
    (fields sep b).tail = (fields sep (a ++ b)).tail := by
  rcases fields_append sep a b with hBoth |
    ⟨init, u, v, rest, hLeft, hRight, hTouch⟩
  · rw [hBoth, List.length_append] at hLength
    have hNone : fields sep a = [] :=
      List.length_eq_zero_iff.mp (by omega)
    rw [hBoth, hNone, List.nil_append]
  · rw [hRight, hTouch, List.length_append] at hLength
    have hNone : init = [] := by
      apply List.length_eq_zero_iff.mp
      simp only [List.length_cons] at hLength
      omega
    rw [hRight, hTouch, hNone]
    rfl

/- And here only the last. -/
theorem dropLast_fields_left
    (hLength :
      (fields sep a).length =
        (fields sep (a ++ b)).length) :
    (fields sep a).dropLast =
      (fields sep (a ++ b)).dropLast := by
  rcases fields_append sep a b with hBoth |
    ⟨init, u, v, rest, hLeft, hRight, hTouch⟩
  · rw [hBoth, List.length_append] at hLength
    have hNone : fields sep b = [] :=
      List.length_eq_zero_iff.mp (by omega)
    rw [hBoth, hNone, List.append_nil]
  · rw [hLeft, hTouch, List.length_append,
      List.length_append] at hLength
    have hNone : rest = [] := by
      apply List.length_eq_zero_iff.mp
      simp only [List.length_cons, List.length_nil] at hLength
      omega
    rw [hLeft, hTouch, hNone, List.dropLast_concat,
      List.dropLast_concat]

/- At a separator nothing touches. -/
theorem fields_append_sep
    {c : α}
    (hSep : sep c = true)
    (a b : List α) :
    fields sep (a ++ c :: b) =
      fields sep a ++ fields sep b := by
  induction a with
  | nil =>
      rw [List.nil_append, fields_cons_sep hSep]
      rfl
  | cons d ds ih =>
      rw [List.cons_append]
      cases hFirst : sep d with
      | true =>
          rw [fields_cons_sep hFirst, fields_cons_sep hFirst]
          exact ih
      | false =>
          have hSame :
              startsField sep (ds ++ c :: b) =
                startsField sep ds := by
            rcases ds with - | ⟨e, es⟩
            · simp [startsField, hSep]
            · rfl
          cases hStarts : startsField sep ds with
          | true =>
              rw [fields_cons_of_starts hFirst hStarts,
                fields_cons_of_starts hFirst
                  (hSame.trans hStarts), ih]
              rcases List.exists_cons_of_ne_nil
                (fields_ne_nil_of_starts hStarts) with
                ⟨w, ws, hFields⟩
              rw [hFields]
              rfl
          | false =>
              rw [fields_cons_of_ends hFirst hStarts,
                fields_cons_of_ends hFirst
                  (hSame.trans hStarts), ih]
              rfl

/- To drop separators keeps the fields, or makes them fewer. -/
theorem fields_filter
    {keep : α → Bool}
    (hKeep : ∀ c, keep c = false → sep c = true)
    (text : List α) :
    fields sep (text.filter keep) = fields sep text ∨
      (fields sep (text.filter keep)).length <
        (fields sep text).length := by
  induction text with
  | nil => exact .inl rfl
  | cons c cs ih =>
      cases hKept : keep c with
      | false =>
          rw [List.filter_cons_of_neg (by simp [hKept]),
            fields_cons_sep (hKeep c hKept)]
          exact ih
      | true =>
          rw [List.filter_cons_of_pos hKept]
          cases hSep : sep c with
          | true =>
              rw [fields_cons_sep hSep, fields_cons_sep hSep]
              exact ih
          | false =>
              have hLe :
                  (fields sep (cs.filter keep)).length ≤
                    (fields sep cs).length := by
                rcases ih with hSame | hFewer
                · rw [hSame]
                · exact hFewer.le
              cases hStarts : startsField sep cs with
              | true =>
                  have hStill :
                      startsField sep (cs.filter keep) =
                        true := by
                    rcases cs with - | ⟨d, ds⟩
                    · cases hStarts
                    · cases hNext : keep d with
                      | true =>
                          rwa [List.filter_cons_of_pos hNext]
                      | false =>
                          have hDrop := hKeep d hNext
                          simp [startsField, hDrop] at hStarts
                  rw [fields_cons_of_starts hSep hStarts,
                    fields_cons_of_starts hSep hStill,
                    List.length_modifyHead,
                    List.length_modifyHead]
                  rcases ih with hSame | hFewer
                  · exact .inl (by rw [hSame])
                  · exact .inr hFewer
              | false =>
                  rw [fields_cons_of_ends hSep hStarts,
                    List.length_cons]
                  cases hNow :
                      startsField sep (cs.filter keep) with
                  | true =>
                      right
                      rw [fields_cons_of_starts hSep hNow,
                        List.length_modifyHead]
                      omega
                  | false =>
                      rw [fields_cons_of_ends hSep hNow,
                        List.length_cons]
                      rcases ih with hSame | hFewer
                      · exact .inl (by rw [hSame])
                      · exact .inr (by omega)

/- Fields that are joined by a separator are found again. -/
theorem fields_intercalate
    {c : α}
    {words : List (List α)}
    (hSep : sep c = true)
    (hWords :
      ∀ word ∈ words, word ≠ [] ∧ ∀ d ∈ word, sep d = false) :
    fields sep ([c].intercalate words) = words := by
  induction words with
  | nil => rfl
  | cons word words ih =>
      rcases hWords word List.mem_cons_self with
        ⟨hNonempty, hNoSep⟩
      have hRest := ih fun word' hMem =>
        hWords word' (List.mem_cons_of_mem word hMem)
      by_cases hLast : words = []
      · rw [hLast, List.intercalate_singleton]
        exact fields_word hNonempty hNoSep
      · rw [List.intercalate_cons_of_ne_nil hLast,
          List.append_assoc, List.singleton_append,
          fields_append_sep hSep, hRest,
          fields_word hNonempty hNoSep]
        rfl

/- A field is a part of the text. -/
theorem isInfix_of_mem_fields
    {word : List α}
    (hWord : word ∈ fields sep text) :
    word <:+: text := by
  induction hLength : text.length using
    Nat.strong_induction_on generalizing text with
  | _ n ih =>
      rcases blank_or_field sep text with hBlank |
        ⟨blanks, first, rest, rfl, hBlanks, hNonempty, hFirst,
          hEnds⟩
      · rw [fields_blanks hBlank] at hWord
        cases hWord
      · rw [fields_blanks_append hBlanks,
          fields_word_append hNonempty hFirst hEnds] at hWord
        rcases List.mem_cons.mp hWord with rfl | hRest
        · exact ⟨blanks, rest, by simp⟩
        · have hShorter : rest.length < n := by
            have hPos := List.length_pos_iff.mpr hNonempty
            simp only [List.length_append] at hLength
            omega
          have hInfix := ih rest.length hShorter hRest rfl
          rw [← List.append_assoc]
          exact hInfix.trans
            (List.suffix_append (blanks ++ first)
              rest).isInfix

end Fields
