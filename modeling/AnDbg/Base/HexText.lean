import AnDbg.Base.Utils
import Mathlib.Data.Nat.Digits.Lemmas

/-
  What the conversions between numbers and hexadecimal texts
  compute.

  A text of any length is taken modulo the width of the
  number that it is read into; a number is written in lower
  case without leading zeros.

  Main declarations:
    * `AnDbg.Utils.WritesHex`
    * `AnDbg.Utils.hexStrToNum_of_writes`
    * `AnDbg.Utils.numToHexStr_eq`
-/

------------------------------------------------------------
-- Reading A Text
------------------------------------------------------------

namespace AnDbg

namespace Utils

/-
  A text is a hexadecimal number: digits of either case, at
  least one of them, with or without a prefix.
-/
inductive WritesHex : StdString → Nat → Prop
  | intro
      (pre digits : StdString)
      (values : List Nat)
      (hPre : pre = [] ∨ pre = ascii "0x" ∨ pre = ascii "0X")
      (hDigits : digits ≠ [])
      (hValues : digits.map hexDigitValue = values.map some) :
      WritesHex (pre ++ digits) (Nat.ofDigits 16 values.reverse)

variable {w : Nat}

/- One more digit, in the wrapping arithmetic of the type. -/
theorem shift_add_ofNat
    (m digit : Nat) :
    (BitVec.ofNat w m <<< 4) + BitVec.ofNat w digit =
      BitVec.ofNat w (digit + 16 * m) := by
  apply BitVec.eq_of_toNat_eq
  rw [BitVec.toNat_add, BitVec.toNat_shiftLeft,
    BitVec.toNat_ofNat, BitVec.toNat_ofNat, BitVec.toNat_ofNat,
    Nat.shiftLeft_eq, ← Nat.add_mod, Nat.add_mod,
    Nat.mod_mul_mod, ← Nat.add_mod, Nat.add_comm, Nat.mul_comm]

/- The digits continue the number that was read so far. -/
theorem hexLoop_of_values
    {digits : List Byte}
    {values : List Nat}
    (hValues : digits.map hexDigitValue = values.map some)
    (m : Nat) :
    hexLoop digits (BitVec.ofNat w m) =
      some (BitVec.ofNat w
        (Nat.ofDigits 16 (values.reverse ++ [m]))) := by
  induction digits generalizing values m with
  | nil =>
      cases values with
      | nil => simp [hexLoop]
      | cons => cases hValues
  | cons digit digits ih =>
      cases values with
      | nil => cases hValues
      | cons value values =>
          rw [List.map_cons, List.map_cons,
            List.cons.injEq] at hValues
          rw [hexLoop, hValues.1]
          dsimp only
          rw [shift_add_ofNat, ih hValues.2,
            List.reverse_cons, List.append_assoc,
            Nat.ofDigits_append, Nat.ofDigits_append]
          simp [Nat.ofDigits_cons]

/- No text of digits begins like a prefix. -/
theorem take_two_ne_prefix
    {digits : List Byte}
    {values : List Nat}
    (hValues : digits.map hexDigitValue = values.map some)
    {x : Byte}
    (hx : hexDigitValue x = none)
    (zero : Byte) :
    digits.take 2 ≠ [zero, x] := by
  intro hTake
  have hMem : x ∈ digits := by
    apply List.mem_of_mem_take (i := 2)
    rw [hTake]
    simp
  have hNone := List.mem_map_of_mem (f := hexDigitValue) hMem
  rw [hValues, hx] at hNone
  simp at hNone

theorem dropHexPrefix_of_values
    {pre digits : StdString}
    {values : List Nat}
    (hPre : pre = [] ∨ pre = ascii "0x" ∨ pre = ascii "0X")
    (hValues : digits.map hexDigitValue = values.map some) :
    dropHexPrefix (pre ++ digits) = digits := by
  rcases hPre with rfl | rfl | rfl
  · rw [List.nil_append, dropHexPrefix, if_neg]
    rintro (hLower | hUpper)
    · exact take_two_ne_prefix hValues (by decide) _ hLower
    · exact take_two_ne_prefix hValues (by decide) _ hUpper
  · exact if_pos (.inl rfl)
  · exact if_pos (.inr rfl)

/- Where the loop ends well, it has met digits only. -/
theorem values_of_hexLoop
    {digits : List Byte}
    {result v : BitVec w}
    (hLoop : hexLoop digits result = some v) :
    ∃ values : List Nat,
      digits.map hexDigitValue = values.map some := by
  induction digits generalizing result with
  | nil => exact ⟨[], rfl⟩
  | cons c cs ih =>
      rw [hexLoop] at hLoop
      cases hDigit : hexDigitValue c with
      | none =>
          rw [hDigit] at hLoop
          cases hLoop
      | some digit =>
          rw [hDigit] at hLoop
          rcases ih hLoop with ⟨values, hValues⟩
          refine ⟨digit :: values, ?_⟩
          rw [List.map_cons, List.map_cons, hDigit, hValues]

theorem exists_prefix
    (s : StdString) :
    ∃ pre,
      (pre = [] ∨ pre = ascii "0x" ∨ pre = ascii "0X") ∧
        s = pre ++ dropHexPrefix s := by
  unfold dropHexPrefix
  split
  next hPre =>
    exact ⟨s.take 2, .inr hPre, (List.take_append_drop 2 s).symm⟩
  next => exact ⟨[], .inl rfl, rfl⟩

/- A number of any length is read modulo the width. -/
theorem hexStrToNum_of_writes
    {s : StdString}
    {n : Nat}
    (hWrites : WritesHex s n) :
    hexStrToNum w s = some (BitVec.ofNat w n) := by
  cases hWrites with
  | intro pre digits values hPre hDigits hValues =>
      unfold hexStrToNum
      dsimp only
      rw [dropHexPrefix_of_values hPre hValues, if_neg hDigits]
      have hLoop := hexLoop_of_values (w := w) hValues 0
      rw [Nat.ofDigits_append] at hLoop
      simpa using hLoop

/- What is read as a number is written as one. -/
theorem writes_of_hexStrToNum
    {s : StdString}
    {v : BitVec w}
    (hRead : hexStrToNum w s = some v) :
    ∃ n, WritesHex s n := by
  rcases exists_prefix s with ⟨pre, hPre, hSplit⟩
  unfold hexStrToNum at hRead
  dsimp only at hRead
  split at hRead
  next => cases hRead
  next hDigits =>
    rcases values_of_hexLoop hRead with ⟨values, hValues⟩
    rw [hSplit]
    exact ⟨_, .intro pre _ values hPre hDigits hValues⟩

end Utils

end AnDbg

------------------------------------------------------------
-- Writing A Text
------------------------------------------------------------

namespace AnDbg

namespace Utils

variable {w : Nat}

/- The canonical text of a number. -/
def hexText (n : Nat) : StdString :=
  ascii "0x" ++ hex n

theorem hex_of_lt
    {n : Nat}
    (hn : n < 16) :
    hex n = [hexDigit n] := by
  have hAll : ∀ n < 16, hex n = [hexDigit n] := by decide
  exact hAll n hn

theorem hex_of_le
    {n : Nat}
    (hn : 16 ≤ n) :
    hex n = hex (n / 16) ++ [hexDigit (n % 16)] := by
  have hLow := hex_of_lt (Nat.mod_lt n (by decide : 0 < 16))
  rw [← hLow]
  unfold hex
  rw [Nat.toDigits_of_base_le (by decide) hn, List.map_append,
    Nat.toDigits_of_lt_base (Nat.mod_lt n (by decide))]

/- The loop meets the digits from the lowest to the highest. -/
theorem reverse_lowDigits
    (num : BitVec w)
    (hNum : num ≠ 0) :
    (lowDigits num).reverse = hex num.toNat := by
  induction num using lowDigits.induct with
  | case1 => exact absurd rfl hNum
  | case2 num _ ih =>
      have hShift : (num >>> 4).toNat = num.toNat / 16 := by
        rw [BitVec.toNat_ushiftRight,
          Nat.shiftRight_eq_div_pow]
      rw [lowDigits, if_neg hNum, List.reverse_cons]
      by_cases hSmall : num.toNat < 16
      · have hZero : num >>> 4 = 0 := by
          apply BitVec.eq_of_toNat_eq
          rw [hShift, Nat.div_eq_of_lt hSmall]
          rfl
        rw [hZero, lowDigits, if_pos rfl, hex_of_lt hSmall,
          Nat.mod_eq_of_lt hSmall]
        rfl
      · have hNonzero : num >>> 4 ≠ 0 := by
          intro hZero
          have hDiv := congrArg BitVec.toNat hZero
          rw [hShift] at hDiv
          have hPos : 0 < num.toNat / 16 :=
            Nat.div_pos (by omega) (by decide)
          simp at hDiv
          omega
        rw [ih hNonzero, hShift, ← hex_of_le (by omega)]

theorem numToHexStr_eq
    (num : BitVec w) :
    numToHexStr num true = some (hexText num.toNat) := by
  unfold numToHexStr hexText
  by_cases hNum : num = 0
  · subst hNum
    simp
    decide
  · rw [if_neg hNum]
    dsimp only
    rw [reverse_lowDigits num hNum]
    rfl

end Utils

end AnDbg
