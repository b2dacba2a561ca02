import AnDbg.Base.Status

/-
  Words in host order and in network order, numbers as
  hexadecimal texts, and the search in a text.

  The conversion loops reverse the bytes of a word on a
  little-endian host and do nothing on a big-endian one.
  `hostBytes` and `ofHostBytes` are what `memcpy` and `recv`
  see of a word that is stored on the host, so that both
  kinds of host put the same bytes on the wire.

  Main declarations:
    * `AnDbg.Utils.toBigEndian`
    * `AnDbg.Utils.fromBigEndian`
    * `AnDbg.Utils.hostBytes_toBigEndian`
    * `AnDbg.Utils.fromBigEndian_ofHostBytes`
    * `AnDbg.Utils.hexStrToNum` and `AnDbg.Utils.numToHexStr`
    * `AnDbg.Utils.containsString`
    * `AnDbg.Utils.containsString_iff`
-/

------------------------------------------------------------
-- Byte Order
------------------------------------------------------------

namespace AnDbg

namespace Utils

variable {w : Nat}

/- `to_big_endian`, given `IS_LITTLE_ENDIAN`. -/
def toBigEndian
    (littleEndian : Bool)
    (hostVal : BitVec w) : BitVec w :=
  if !littleEndian then
    hostVal
  else
    LittleEndian.reverseLoop (w / 8) 0#w hostVal

/- `from_big_endian`, given `IS_LITTLE_ENDIAN`. -/
def fromBigEndian
    (littleEndian : Bool)
    (bigVal : BitVec w) : BitVec w :=
  if !littleEndian then
    bigVal
  else
    LittleEndian.reverseLoop (w / 8) 0#w bigVal

/- The bytes of a stored word, lowest address first. -/
def hostBytes
    (littleEndian : Bool)
    (v : BitVec w) : List Byte :=
  if littleEndian then
    LittleEndian.encode (w / 8) v
  else
    (LittleEndian.encode (w / 8) v).reverse

/- The word that is stored as the given bytes. -/
def ofHostBytes
    (littleEndian : Bool)
    (w : Nat)
    (bs : List Byte) : BitVec w :=
  if littleEndian then
    LittleEndian.decode w bs
  else
    LittleEndian.decode w bs.reverse

theorem length_hostBytes
    (littleEndian : Bool)
    (v : BitVec w) :
    (hostBytes littleEndian v).length = w / 8 := by
  cases littleEndian <;> simp [hostBytes]

/- Every host puts the highest byte on the wire first. -/
theorem hostBytes_toBigEndian
    (littleEndian : Bool)
    (v : BitVec w) :
    hostBytes littleEndian (toBigEndian littleEndian v) =
      (LittleEndian.encode (w / 8) v).reverse := by
  cases littleEndian with
  | false => rfl
  | true =>
      exact LittleEndian.encode_reversed v
        (Nat.mul_div_le w 8)

/- Every host takes the first byte as the highest one. -/
theorem fromBigEndian_ofHostBytes
    (littleEndian : Bool)
    {bs : List Byte}
    (hLength : 8 * bs.length = w) :
    fromBigEndian littleEndian (ofHostBytes littleEndian w bs) =
      LittleEndian.decode w bs.reverse := by
  cases littleEndian with
  | false => rfl
  | true =>
      have hBytes : w / 8 = bs.length := by omega
      have hReversed :
          LittleEndian.encode bs.length
              (LittleEndian.reverseLoop bs.length 0#w
                (LittleEndian.decode w bs)) =
            bs.reverse := by
        rw [LittleEndian.encode_reversed _ (by omega),
          LittleEndian.encode_decode _ (by omega)]
      calc
        fromBigEndian true (ofHostBytes true w bs)
            = LittleEndian.reverseLoop bs.length 0#w
                (LittleEndian.decode w bs) := by
              rw [← hBytes]
              rfl
        _ = LittleEndian.decode w
              (LittleEndian.encode bs.length
                (LittleEndian.reverseLoop bs.length 0#w
                  (LittleEndian.decode w bs))) :=
              (LittleEndian.decode_encode _ (by omega)).symm
        _ = LittleEndian.decode w bs.reverse := by
              rw [hReversed]

/- Converting there and back changes nothing. -/
theorem fromBigEndian_toBigEndian
    (littleEndian : Bool)
    (v : BitVec 64) :
    fromBigEndian littleEndian (toBigEndian littleEndian v) =
      v := by
  cases littleEndian with
  | false => rfl
  | true =>
      have hBytes := hostBytes_toBigEndian true v
      have hBack :
          ofHostBytes true 64
              (hostBytes true (toBigEndian true v)) =
            toBigEndian true v :=
        LittleEndian.decode_encode _ (by decide)
      rw [← hBack, fromBigEndian_ofHostBytes true
        (by rw [length_hostBytes]), hBytes,
        List.reverse_reverse]
      exact LittleEndian.decode_encode v (by decide)

end Utils

end AnDbg

------------------------------------------------------------
-- Hexadecimal Texts
------------------------------------------------------------

namespace AnDbg

namespace Utils

variable {w : Nat}

/- The value of a hexadecimal digit of either case. -/
def hexDigitValue (c : Byte) : Option Nat :=
  let c := c.toNat
  if 0x30 ≤ c ∧ c ≤ 0x39 then
    some (c - 0x30)
  else if 0x61 ≤ c ∧ c ≤ 0x66 then
    some (10 + c - 0x61)
  else if 0x41 ≤ c ∧ c ≤ 0x46 then
    some (10 + c - 0x41)
  else
    none

/- The loop of `hex_str_to_num` over the digits. -/
def hexLoop : List Byte → BitVec w → Option (BitVec w)
| [], result => some result
| c :: cs, result =>
    match hexDigitValue c with
    | none => none
    | some digit =>
      hexLoop cs ((result <<< 4) + BitVec.ofNat w digit)

/- The digits that follow the prefix, if there is one. -/
def dropHexPrefix (hexStr : StdString) : StdString :=
  if hexStr.take 2 = ascii "0x" ∨ hexStr.take 2 = ascii "0X"
  then
    hexStr.drop 2
  else
    hexStr

/- `hex_str_to_num`, for a type of `w` bits. -/
def hexStrToNum
    (w : Nat)
    (hexStr : StdString) : Option (BitVec w) :=
  let digits := dropHexPrefix hexStr
  if digits = [] then
    none
  else
    hexLoop digits 0

/- `hex_digits[nibble]`. -/
def hexDigit (nibble : Nat) : Byte :=
  (ascii "0123456789abcdef").getD nibble 0

/- The loop of `num_to_hex_str`: the lowest digit is first. -/
def lowDigits (num : BitVec w) : StdString :=
  if num = 0 then
    []
  else
    hexDigit (num.toNat % 16) :: lowDigits (num >>> 4)
termination_by num.toNat
decreasing_by
  rename_i hNonzero
  have hPos : 0 < num.toNat := by
    rw [Nat.pos_iff_ne_zero]
    intro hZero
    exact hNonzero (BitVec.eq_of_toNat_eq (by simp [hZero]))
  rw [BitVec.toNat_ushiftRight, Nat.shiftRight_eq_div_pow]
  exact Nat.div_lt_self hPos (by decide)

/- `num_to_hex_str`, which always has a result. -/
def numToHexStr
    (num : BitVec w)
    (withPrefix : Bool) : Option StdString :=
  if num = 0 then
    some (if withPrefix then ascii "0x0" else ascii "0")
  else
    let hexStr := (lowDigits num).reverse
    some (if withPrefix then ascii "0x" ++ hexStr else hexStr)

end Utils

end AnDbg

------------------------------------------------------------
-- Searching A Text
------------------------------------------------------------

namespace AnDbg

namespace Utils

/- `std::tolower` in the "C" locale. -/
def toLower (c : Byte) : Byte :=
  if 0x41 ≤ c.toNat ∧ c.toNat ≤ 0x5a then c + 0x20 else c

/- A text begins with another one, by a comparison. -/
def startsWith
    (pred : Byte → Byte → Bool) : StdString → StdString → Bool
| [], _ => true
| _ :: _, [] => false
| t :: target, c :: src =>
    pred c t && startsWith pred target src

/- Whether `std::search` finds the target. -/
def search
    (pred : Byte → Byte → Bool)
    (target : StdString) : StdString → Bool
| [] => target.isEmpty
| c :: src =>
    startsWith pred target (c :: src) || search pred target src

/- `contains_string`. -/
def containsString
    (src target : StdString)
    (isSensitivity : Bool) : Bool :=
  if target = [] then
    false
  else if !isSensitivity then
    search (fun a b => toLower a == toLower b) target src
  else
    search (fun a b => a == b) target src

theorem startsWith_iff
    (f : Byte → Byte)
    (target src : StdString) :
    startsWith (fun a b => f a == f b) target src = true ↔
      target.map f <+: src.map f := by
  induction target generalizing src with
  | nil => simp [startsWith]
  | cons t target ih =>
      cases src with
      | nil => simp [startsWith]
      | cons c src =>
          rw [startsWith, Bool.and_eq_true, ih, beq_iff_eq,
            List.map_cons, List.map_cons, List.cons_prefix_cons]
          constructor
          · intro hBoth
            exact ⟨hBoth.1.symm, hBoth.2⟩
          · intro hBoth
            exact ⟨hBoth.1.symm, hBoth.2⟩

theorem search_iff
    (f : Byte → Byte)
    (target src : StdString) :
    search (fun a b => f a == f b) target src = true ↔
      target.map f <:+: src.map f := by
  induction src with
  | nil => simp [search, List.isEmpty_iff]
  | cons c src ih =>
      rw [search, Bool.or_eq_true, ih, startsWith_iff,
        List.map_cons, List.infix_cons_iff]

/- The search finds a part that is the target in some case. -/
theorem containsString_iff
    {src target : StdString}
    (hTarget : target ≠ []) :
    containsString src target false = true ↔
      target.map toLower <:+: src.map toLower := by
  unfold containsString
  rw [if_neg hTarget]
  exact search_iff toLower target src

end Utils

end AnDbg
