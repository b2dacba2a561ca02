import AnDbg.Base.HexText

/-
  Numbers and their hexadecimal texts, there and back.

  A text is read exactly if it is a hexadecimal number, and
  a number is written as the shortest text of digits that
  stands for it.

  Main declarations:
    * `AnDbg.Utils.WritesDigits`
    * `AnDbg.Utils.ShortestNumeral`
    * `AnDbg.Utils.hex_codec`
-/

------------------------------------------------------------
-- Numerals
------------------------------------------------------------

namespace AnDbg

namespace Utils

/- Digits of either case, one or more, and their number. -/
def WritesDigits (digits : StdString) (n : Nat) : Prop :=
  digits ≠ [] ∧
    ∃ values : List Nat,
      digits.map hexDigitValue = values.map some ∧
        n = Nat.ofDigits 16 values.reverse

/- The shortest numeral of a number, in lower case. -/
structure ShortestNumeral
    (digits : StdString)
    (n : Nat) : Prop where
  writes : WritesDigits digits n
  lower : ∀ c ∈ digits, toLower c = c
  shortest :
    ∀ digits', WritesDigits digits' n →
      digits.length ≤ digits'.length

variable {digits : StdString} {n : Nat}

/- Digits with a prefix or none are a hexadecimal number. -/
theorem WritesDigits.writesHex
    {pre : StdString}
    (hWrites : WritesDigits digits n)
    (hPre : pre = [] ∨ pre = ascii "0x" ∨ pre = ascii "0X") :
    WritesHex (pre ++ digits) n := by
  rcases hWrites with ⟨hDigits, values, hValues, rfl⟩
  exact .intro pre digits values hPre hDigits hValues

theorem hexDigitValue_lt
    {c : Byte}
    {value : Nat}
    (hValue : hexDigitValue c = some value) :
    value < 16 := by
  unfold hexDigitValue at hValue
  dsimp only at hValue
  split at hValue
  next h =>
    cases hValue
    omega
  next =>
    split at hValue
    next h =>
      cases hValue
      omega
    next =>
      split at hValue
      next h =>
        cases hValue
        omega
      next => cases hValue

/- So many digits do not write a larger number. -/
theorem WritesDigits.lt
    (hWrites : WritesDigits digits n) :
    n < 16 ^ digits.length := by
  rcases hWrites with ⟨-, values, hValues, rfl⟩
  have hLength := congrArg List.length hValues
  rw [List.length_map, List.length_map] at hLength
  rw [hLength, ← List.length_reverse]
  apply Nat.ofDigits_lt_base_pow_length (by decide)
  intro value hValue
  have hMem :
      some value ∈ digits.map hexDigitValue := by
    rw [hValues]
    exact List.mem_map_of_mem (List.mem_reverse.mp hValue)
  rcases List.mem_map.mp hMem with ⟨c, -, hc⟩
  exact hexDigitValue_lt hc

theorem hexDigit_spec :
    ∀ nibble < 16,
      hexDigitValue (hexDigit nibble) = some nibble ∧
        toLower (hexDigit nibble) = hexDigit nibble := by
  decide

/- One more digit behind a numeral. -/
theorem WritesDigits.snoc
    {nibble : Nat}
    (hWrites : WritesDigits digits n)
    (hNibble : nibble < 16) :
    WritesDigits (digits ++ [hexDigit nibble])
      (16 * n + nibble) := by
  rcases hWrites with ⟨-, values, hValues, rfl⟩
  refine ⟨by simp, values ++ [nibble], ?_, ?_⟩
  · rw [List.map_append, List.map_append, hValues,
      List.map_singleton, (hexDigit_spec nibble hNibble).1]
    rfl
  · rw [List.reverse_append, List.reverse_singleton,
      List.singleton_append, Nat.ofDigits_cons]
    exact Nat.add_comm _ _

theorem writesDigits_digit
    {nibble : Nat}
    (hNibble : nibble < 16) :
    WritesDigits [hexDigit nibble] nibble := by
  refine ⟨List.cons_ne_nil _ _, [nibble], ?_, ?_⟩
  · rw [List.map_singleton, (hexDigit_spec nibble hNibble).1]
    rfl
  · simp

/-
  The digits that are printed for a number: they write it,
  they are in lower case, and the first of several is not
  zero.
-/
theorem hex_spec
    (n : Nat) :
    WritesDigits (hex n) n ∧
      (∀ c ∈ hex n, toLower c = c) ∧
      (1 < (hex n).length →
        16 ^ ((hex n).length - 1) ≤ n) := by
  induction n using Nat.strong_induction_on with
  | _ n ih =>
      rcases Nat.lt_or_ge n 16 with hSmall | hLarge
      · rw [hex_of_lt hSmall]
        refine ⟨writesDigits_digit hSmall, ?_, ?_⟩
        · intro c hc
          rw [List.mem_singleton.mp hc]
          exact (hexDigit_spec n hSmall).2
        · intro hLength
          exact absurd hLength (by simp)
      · have hMod : n % 16 < 16 := Nat.mod_lt n (by decide)
        have hSplit : 16 * (n / 16) + n % 16 = n :=
          Nat.div_add_mod n 16
        rcases ih (n / 16) (by omega) with
          ⟨hWrites, hLower, hFirst⟩
        rw [hex_of_le hLarge]
        refine ⟨?_, ?_, ?_⟩
        · have hSnoc := hWrites.snoc hMod
          rwa [hSplit] at hSnoc
        · intro c hc
          rcases List.mem_append.mp hc with hInit | hLast
          · exact hLower c hInit
          · rw [List.mem_singleton.mp hLast]
            exact (hexDigit_spec _ hMod).2
        · intro _
          rw [List.length_append, List.length_singleton,
            Nat.add_sub_cancel]
          have hSome : 0 < (hex (n / 16)).length :=
            List.length_pos_iff.mpr hWrites.1
          rcases Nat.lt_or_ge 1 (hex (n / 16)).length with
            hMany | hOne
          · have hPow := hFirst hMany
            have hSucc :
                16 ^ (hex (n / 16)).length =
                  16 * 16 ^ ((hex (n / 16)).length - 1) := by
              rw [← Nat.pow_succ']
              congr 1
              omega
            omega
          · have hLength : (hex (n / 16)).length = 1 := by omega
            rw [hLength]
            omega

theorem shortestNumeral_hex
    (n : Nat) :
    ShortestNumeral (hex n) n := by
  rcases hex_spec n with ⟨hWrites, hLower, hFirst⟩
  refine ⟨hWrites, hLower, ?_⟩
  intro digits' hWrites'
  have hSome : 0 < digits'.length :=
    List.length_pos_iff.mpr hWrites'.1
  by_contra hShorter
  have hPow := hFirst (by omega)
  have hLess := hWrites'.lt
  have hMono :
      16 ^ digits'.length ≤ 16 ^ ((hex n).length - 1) :=
    Nat.pow_le_pow_right (by decide) (by omega)
  omega

end Utils

end AnDbg

------------------------------------------------------------
-- The Codec
------------------------------------------------------------

namespace AnDbg

namespace Utils

variable {w : Nat}

/- The text of a number with the prefix, or without it. -/
theorem numToHexStr_eq_hex
    (num : BitVec w)
    (withPrefix : Bool) :
    numToHexStr num withPrefix =
      some ((if withPrefix then ascii "0x" else []) ++
        hex num.toNat) := by
  cases withPrefix with
  | true => exact numToHexStr_eq num
  | false =>
      unfold numToHexStr
      by_cases hNum : num = 0
      · subst hNum
        simp
        decide
      · rw [if_neg hNum]
        dsimp only
        rw [reverse_lowDigits num hNum]
        rfl

/- What is read of a text, for all texts. -/
theorem hexStrToNum_eq_some_iff
    {s : StdString}
    {v : BitVec w} :
    hexStrToNum w s = some v ↔
      ∃ n, WritesHex s n ∧ v = BitVec.ofNat w n := by
  constructor
  · intro hRead
    rcases writes_of_hexStrToNum hRead with ⟨n, hWrites⟩
    refine ⟨n, hWrites, ?_⟩
    rw [hexStrToNum_of_writes hWrites] at hRead
    exact (Option.some.inj hRead).symm
  · rintro ⟨n, hWrites, rfl⟩
    exact hexStrToNum_of_writes hWrites

/-
  At every width: a text is read exactly if it is a number
  in hexadecimal digits, with a prefix or without, as that
  number modulo the width; and a number is written as its
  shortest numeral, which reads back.
-/
theorem hex_codec
    (w : Nat)
    (s : StdString)
    (num : BitVec w)
    (withPrefix : Bool) :
    (∀ v, hexStrToNum w s = some v ↔
      ∃ n, WritesHex s n ∧ v = BitVec.ofNat w n) ∧
    ∃ digits,
      ShortestNumeral digits num.toNat ∧
        numToHexStr num withPrefix =
          some ((if withPrefix then ascii "0x" else []) ++
            digits) ∧
        (numToHexStr num withPrefix).bind (hexStrToNum w) =
          some num := by
  refine ⟨fun v => hexStrToNum_eq_some_iff, hex num.toNat,
    shortestNumeral_hex num.toNat,
    numToHexStr_eq_hex num withPrefix, ?_⟩
  have hWrites := (shortestNumeral_hex num.toNat).writes
  have hPre :
      (if withPrefix then ascii "0x" else []) = [] ∨
        (if withPrefix then ascii "0x" else []) =
          ascii "0x" ∨
        (if withPrefix then ascii "0x" else []) =
          ascii "0X" := by
    cases withPrefix
    case true => exact .inr (.inl rfl)
    case false => exact .inl rfl
  rw [numToHexStr_eq_hex, Option.bind_some,
    hexStrToNum_of_writes (hWrites.writesHex hPre),
    BitVec.ofNat_toNat, BitVec.setWidth_eq]

end Utils

end AnDbg
