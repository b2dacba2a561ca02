import Mathlib.Data.List.Basic
import Mathlib.Data.BitVec

/-
  Byte strings as machine words, least significant byte
  first.

  `encode` cuts a word into bytes and `decode` puts bytes
  back together; at matching widths the two are inverse.
  `reversed` is the shift-and-or loop by which programs turn
  a word round, and its bytes are the reversed bytes.

  Main declarations:
    * `LittleEndian.encode`
    * `LittleEndian.decode`
    * `LittleEndian.decode_encode`
    * `LittleEndian.encode_decode`
    * `LittleEndian.encode_reversed`
-/

------------------------------------------------------------
-- Encoding And Decoding
------------------------------------------------------------

/- An octet. -/
abbrev Byte := BitVec 8

namespace LittleEndian

variable {w : Nat}

/- The `n` low bytes of a word, least significant first. -/
def encode : Nat → BitVec w → List Byte
| 0, _ => []
| n + 1, v => v.setWidth 8 :: encode n (v >>> 8)

/- Shift a byte in at the low end of a word. -/
def shiftIn (b : Byte) (acc : BitVec w) : BitVec w :=
  b.setWidth w ||| (acc <<< 8)

/- The word whose low bytes are the given ones. -/
def decode (w : Nat) (bs : List Byte) : BitVec w :=
  bs.foldr shiftIn 0#w

@[simp] theorem length_encode
    (n : Nat)
    (v : BitVec w) :
    (encode n v).length = n := by
  induction n generalizing v with
  | zero => rfl
  | succ n ih => simp [encode, ih]

/- Byte `i` of an encoding is bits `8 i` to `8 i + 7`. -/
theorem getElem?_encode
    (n : Nat)
    (v : BitVec w)
    {i : Nat}
    (hi : i < n) :
    (encode n v)[i]? = some ((v >>> (8 * i)).setWidth 8) := by
  induction n generalizing v i with
  | zero => omega
  | succ n ih =>
      cases i with
      | zero => simp [encode]
      | succ i =>
          have hShift : 8 * (i + 1) = 8 + 8 * i := by omega
          rw [encode, List.getElem?_cons_succ,
            ih (v >>> 8) (by omega), hShift,
            BitVec.shiftRight_add]

/- A bit of a decoded word is a bit of one of its bytes. -/
theorem getLsbD_decode
    (bs : List Byte)
    (i : Nat) :
    (decode w bs).getLsbD i =
      (decide (i < w) &&
        (bs.getD (i / 8) 0#8).getLsbD (i % 8)) := by
  induction bs generalizing i with
  | nil => simp [decode]
  | cons b bs ih =>
      rw [decode, List.foldr_cons, ← decode, shiftIn,
        BitVec.getLsbD_or, BitVec.getLsbD_setWidth,
        BitVec.getLsbD_shiftLeft, ih]
      by_cases hByte : i < 8
      · have hDiv : i / 8 = 0 := by omega
        have hMod : i % 8 = i := by omega
        simp [hByte, hDiv, hMod]
      · obtain ⟨j, rfl⟩ : ∃ j, i = j + 8 := ⟨i - 8, by omega⟩
        have hDiv : (j + 8) / 8 = j / 8 + 1 := by omega
        have hMod : (j + 8) % 8 = j % 8 := by omega
        by_cases hWidth : j + 8 < w
        · have hLow : j < w := by omega
          simp [hWidth, hLow, hDiv, hMod]
        · simp [hWidth]

/- Decoding the bytes of a word that they cover returns it. -/
theorem decode_encode
    {n : Nat}
    (v : BitVec w)
    (hWidth : w ≤ 8 * n) :
    decode w (encode n v) = v := by
  apply BitVec.eq_of_getLsbD_eq
  intro i hi
  have hByte : i / 8 < n := by omega
  have hBit : i % 8 < 8 := by omega
  have hSplit : 8 * (i / 8) + i % 8 = i := by omega
  rw [getLsbD_decode, List.getD_eq_getElem?_getD,
    getElem?_encode n v hByte]
  simp [hi, hBit, hSplit]

/- Encoding as many bytes as were decoded returns them. -/
theorem encode_decode
    (bs : List Byte)
    (hWidth : 8 * bs.length ≤ w) :
    encode bs.length (decode w bs) = bs := by
  apply List.ext_getElem?
  intro i
  by_cases hi : i < bs.length
  · rw [getElem?_encode _ _ hi, List.getElem?_eq_getElem hi]
    congr 1
    apply BitVec.eq_of_getLsbD_eq
    intro j hj
    have hDiv : (8 * i + j) / 8 = i := by omega
    have hMod : (8 * i + j) % 8 = j := by omega
    have hBit : 8 * i + j < w := by omega
    rw [BitVec.getLsbD_setWidth, BitVec.getLsbD_ushiftRight,
      getLsbD_decode, hDiv, hMod]
    simp [hj, hBit, hi]
  · rw [List.getElem?_eq_none (by simpa using hi),
      List.getElem?_eq_none (by simpa using hi)]

end LittleEndian

------------------------------------------------------------
-- Byte Reversal
------------------------------------------------------------

namespace LittleEndian

variable {w : Nat}

/-
  The shift-and-or loop of a byte reversal: each round moves
  the lowest byte of `source` to the low end of `target`.
-/
def reverseLoop :
    Nat → (target source : BitVec w) → BitVec w
| 0, target, _ => target
| n + 1, target, source =>
    reverseLoop n
      ((target <<< 8) ||| (source &&& 0xFF#w))
      (source >>> 8)

/- The loop folds the bytes of the source, lowest first. -/
theorem reverseLoop_eq_foldl
    (n : Nat)
    (target source : BitVec w) :
    reverseLoop n target source =
      (encode n source).foldl (fun acc b => shiftIn b acc)
        target := by
  induction n generalizing target source with
  | zero => rfl
  | succ n ih =>
      have hLow :
          source &&& 0xFF#w =
            (source.setWidth 8).setWidth w := by
        apply BitVec.eq_of_getLsbD_eq
        intro i hi
        have hMask : (0xFF#w).getLsbD i = decide (i < 8) := by
          rw [BitVec.getLsbD_ofNat,
            show (0xFF : Nat) = 2 ^ 8 - 1 from rfl,
            Nat.testBit_two_pow_sub_one]
          simp [hi]
        simp only [BitVec.getLsbD_and, hMask,
          BitVec.getLsbD_setWidth, hi]
        cases source.getLsbD i <;> simp
      rw [reverseLoop, ih, hLow, BitVec.or_comm]
      rfl

/- The bytes of a reversed word are the reversed bytes. -/
theorem encode_reversed
    {n : Nat}
    (v : BitVec w)
    (hWidth : 8 * n ≤ w) :
    encode n (reverseLoop n 0#w v) =
      (encode n v).reverse := by
  have hDecode :
      reverseLoop n 0#w v =
        decode w (encode n v).reverse := by
    rw [reverseLoop_eq_foldl, decode, List.foldr_reverse]
  have hLength : (encode n v).reverse.length = n := by simp
  calc
    encode n (reverseLoop n 0#w v)
        = encode (encode n v).reverse.length
            (decode w (encode n v).reverse) := by
          rw [hDecode, hLength]
    _ = (encode n v).reverse :=
          encode_decode _ (by rw [hLength]; exact hWidth)

end LittleEndian
