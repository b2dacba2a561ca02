import AnDbg.Base.HexText

/-
  Numbers at the beginning of a text, as the standard
  library reads them.

  `std::stoi` and `std::stoull` skip blanks, take a sign and,
  in base 16, a prefix, and then as many digits as there
  are; what follows the digits is not looked at.  Where
  there is no digit, and where the number does not fit, they
  throw.

  Main declarations:
    * `AnDbg.Conversion.scanNumber`
    * `AnDbg.Conversion.stoi` and `AnDbg.Conversion.stoull`
    * `AnDbg.Conversion.scanNumber_of_writes`
    * `AnDbg.Conversion.stoull_isOk_iff`
-/

------------------------------------------------------------
-- Scanning A Number
------------------------------------------------------------

namespace AnDbg

/- What the conversions throw. -/
inductive ConversionError
  | invalidArgument
  | outOfRange
deriving DecidableEq, Repr

namespace Conversion

open Utils

/- `std::isspace` in the "C" locale. -/
def isSpace (c : Byte) : Bool :=
  decide
    (c.toNat = 0x20 ∨ (0x09 ≤ c.toNat ∧ c.toNat ≤ 0x0d))

/- The value of a digit of the base. -/
def digitValue (base : Nat) (c : Byte) : Option Nat :=
  (hexDigitValue c).filter (· < base)

/- The values of the digits that a text begins with. -/
def leadingDigits (base : Nat) : StdString → List Nat
| [] => []
| c :: cs =>
    match digitValue base c with
    | none => []
    | some value => value :: leadingDigits base cs

/- Whether a text begins with a minus, and what follows. -/
def takeSign : StdString → Bool × StdString
| [] => (false, [])
| c :: cs =>
    if c = 0x2d then
      (true, cs)
    else if c = 0x2b then
      (false, cs)
    else
      (false, c :: cs)

/- In base 16 a prefix is skipped if a digit follows it. -/
def skipBase (base : Nat) : StdString → StdString
| zero :: x :: c :: cs =>
    if base = 16 ∧ zero = 0x30 ∧ (x = 0x78 ∨ x = 0x58) ∧
        (digitValue 16 c).isSome then
      c :: cs
    else
      zero :: x :: c :: cs
| text => text

/- The sign and the size of the number, if there is one. -/
def scanNumber
    (base : Nat)
    (text : StdString) : Option (Bool × Nat) :=
  let (negative, text) := takeSign (text.dropWhile isSpace)
  let values := leadingDigits base (skipBase base text)
  if values = [] then
    none
  else
    some (negative, Nat.ofDigits base values.reverse)

/- `std::stoull`; a minus wraps the number around. -/
def stoull
    (base : Nat)
    (text : StdString) : Except ConversionError (BitVec 64) :=
  match scanNumber base text with
  | none => .error .invalidArgument
  | some (negative, n) =>
    if 2 ^ 64 ≤ n then
      .error .outOfRange
    else
      let v := BitVec.ofNat 64 n
      .ok (if negative then -v else v)

/- `std::stoi`. -/
def stoi (text : StdString) : Except ConversionError Int :=
  match scanNumber 10 text with
  | none => .error .invalidArgument
  | some (negative, n) =>
    let v : Int := if negative then -n else n
    if v < -2 ^ 31 ∨ 2 ^ 31 ≤ v then
      .error .outOfRange
    else
      .ok v

/- A text of digits that stands for a number. -/
structure WritesNumber
    (base : Nat)
    (digits : StdString)
    (n : Nat) : Prop where
  nonempty : digits ≠ []
  values :
    ∃ values : List Nat,
      digits.map (digitValue base) = values.map some ∧
        n = Nat.ofDigits base values.reverse

variable {base n : Nat} {c : Byte} {digits text : StdString}

theorem hexDigitValue_of_digitValue
    {value : Nat}
    (hValue : digitValue base c = some value) :
    hexDigitValue c = some value ∧ value < base := by
  unfold digitValue at hValue
  rw [Option.filter_eq_some_iff] at hValue
  exact ⟨hValue.1, of_decide_eq_true hValue.2⟩

/- No digit is a blank, a sign or the letter of a prefix. -/
theorem notMem_marks_of_digitValue
    {value : Nat}
    (hValue : digitValue base c = some value) :
    isSpace c = false ∧ c ≠ 0x2d ∧ c ≠ 0x2b ∧ c ≠ 0x78 ∧
      c ≠ 0x58 := by
  have hAll :
      ∀ c : Byte, hexDigitValue c ≠ none →
        isSpace c = false ∧ c ≠ 0x2d ∧ c ≠ 0x2b ∧ c ≠ 0x78 ∧
          c ≠ 0x58 := by
    decide +kernel
  apply hAll
  rw [(hexDigitValue_of_digitValue hValue).1]
  exact Option.some_ne_none value

theorem leadingDigits_of_values
    {values : List Nat}
    (hValues : digits.map (digitValue base) = values.map some) :
    leadingDigits base digits = values := by
  induction digits generalizing values with
  | nil =>
      cases values with
      | nil => rfl
      | cons => cases hValues
  | cons c cs ih =>
      cases values with
      | nil => cases hValues
      | cons value values =>
          rw [List.map_cons, List.map_cons,
            List.cons.injEq] at hValues
          rw [leadingDigits, hValues.1, ih hValues.2]

theorem exists_digitValue_of_mem
    (hWrites : WritesNumber base digits n)
    (hc : c ∈ digits) :
    ∃ value, digitValue base c = some value := by
  rcases hWrites.values with ⟨values, hValues, -⟩
  have hMem := List.mem_map_of_mem (f := digitValue base) hc
  rw [hValues] at hMem
  rcases List.mem_map.mp hMem with ⟨value, -, hValue⟩
  exact ⟨value, hValue.symm⟩

/- Digits alone are scanned as what they stand for. -/
theorem scanNumber_of_writes
    (hWrites : WritesNumber base digits n) :
    scanNumber base digits = some (false, n) := by
  have hDigit := fun c (hc : c ∈ digits) =>
    exists_digitValue_of_mem hWrites hc
  rcases hWrites with ⟨hNonempty, values, hValues, rfl⟩
  rcases List.exists_cons_of_ne_nil hNonempty with
    ⟨c, cs, rfl⟩
  rcases hDigit c List.mem_cons_self with ⟨value, hValue⟩
  rcases notMem_marks_of_digitValue hValue with
    ⟨hSpace, hMinus, hPlus, -, -⟩
  have hBlank :
      (c :: cs).dropWhile isSpace = c :: cs := by
    rw [List.dropWhile_cons, hSpace]
    rfl
  have hSign : takeSign (c :: cs) = (false, c :: cs) := by
    rw [takeSign, if_neg hMinus, if_neg hPlus]
  have hBase : skipBase base (c :: cs) = c :: cs := by
    rcases cs with - | ⟨x, - | ⟨d, ds⟩⟩
    · rfl
    · rfl
    · rcases hDigit x (by simp) with ⟨value', hValue'⟩
      rcases notMem_marks_of_digitValue hValue' with
        ⟨-, -, -, hLower, hUpper⟩
      rw [skipBase, if_neg]
      rintro ⟨-, -, hLetter, -⟩
      rcases hLetter with hIs | hIs
      · exact hLower hIs
      · exact hUpper hIs
  have hSome : values ≠ [] := by
    rintro rfl
    cases hValues
  unfold scanNumber
  rw [hBlank, hSign]
  dsimp only
  rw [hBase, leadingDigits_of_values hValues, if_neg hSome]

theorem stoull_of_writes
    (hWrites : WritesNumber base digits n)
    (hFits : n < 2 ^ 64) :
    stoull base digits = .ok (BitVec.ofNat 64 n) := by
  unfold stoull
  rw [scanNumber_of_writes hWrites]
  dsimp only
  rw [if_neg (Nat.not_le.mpr hFits),
    if_neg Bool.false_ne_true]

theorem stoi_of_writes
    (hWrites : WritesNumber 10 digits n)
    (hFits : n < 2 ^ 31) :
    stoi digits = .ok (n : Int) := by
  unfold stoi
  rw [scanNumber_of_writes hWrites]
  dsimp only
  rw [if_neg Bool.false_ne_true, if_neg (by omega)]

/- The text begins with a number that 64 bits can hold. -/
def Fits (base : Nat) (text : StdString) : Prop :=
  ∃ negative n,
    scanNumber base text = some (negative, n) ∧ n < 2 ^ 64

/- Only then is there a result. -/
theorem stoull_isOk_iff :
    (∃ v, stoull base text = .ok v) ↔ Fits base text := by
  unfold stoull Fits
  cases scanNumber base text with
  | none => simp
  | some found =>
      rcases found with ⟨negative, n⟩
      dsimp only
      by_cases hLarge : 2 ^ 64 ≤ n
      · rw [if_pos hLarge]
        constructor
        · rintro ⟨v, hv⟩
          cases hv
        · rintro ⟨negative', n', hSame, hn⟩
          cases hSame
          omega
      · rw [if_neg hLarge]
        constructor
        · intro _
          exact ⟨negative, n, rfl, Nat.not_le.mp hLarge⟩
        · intro _
          exact ⟨_, rfl⟩

theorem mem_of_mem_takeSign
    (hMem : c ∈ (takeSign text).2) :
    c ∈ text := by
  rcases text with - | ⟨d, ds⟩
  · exact hMem
  · rw [takeSign] at hMem
    split at hMem
    next => exact List.mem_cons_of_mem d hMem
    next =>
      split at hMem
      next => exact List.mem_cons_of_mem d hMem
      next => exact hMem

/- A text without digits is no number. -/
theorem stoi_of_noDigit
    (hNoDigit : ∀ c ∈ text, digitValue 10 c = none) :
    stoi text = .error .invalidArgument := by
  have hBase (text : StdString) : skipBase 10 text = text := by
    rcases text with - | ⟨zero, - | ⟨x, - | ⟨c, cs⟩⟩⟩
    · rfl
    · rfl
    · rfl
    · rw [skipBase, if_neg (by simp)]
  have hScan : scanNumber 10 text = none := by
    rw [scanNumber]
    generalize hSign :
      takeSign (text.dropWhile isSpace) = signed
    rcases signed with ⟨negative, digits⟩
    dsimp only
    rw [hBase, if_pos]
    rcases digits with - | ⟨d, ds⟩
    · rfl
    · have hMem : d ∈ (takeSign (text.dropWhile isSpace)).2 := by
        rw [hSign]
        exact List.mem_cons_self
      have hNone := hNoDigit d
        ((List.dropWhile_suffix isSpace).subset
          (mem_of_mem_takeSign hMem))
      rw [leadingDigits, hNone]
  rw [stoi, hScan]

/- A computation of two steps that does not throw. -/
theorem bind_eq_ok_iff
    {ε α β : Type}
    {x : Except ε α}
    {f : α → Except ε β}
    {b : β} :
    (x >>= f) = .ok b ↔ ∃ a, x = .ok a ∧ f a = .ok b := by
  cases x with
  | error e =>
      constructor
      · intro hBind
        cases hBind
      · rintro ⟨a, hOk, -⟩
        cases hOk
  | ok a =>
      constructor
      · intro hBind
        exact ⟨a, rfl, hBind⟩
      · rintro ⟨a', hOk, hNext⟩
        cases hOk
        exact hNext

theorem bind_isOk_iff
    {ε α β : Type}
    {x : Except ε α}
    {f : α → Except ε β} :
    (∃ b, (x >>= f) = .ok b) ↔
      ∃ a, x = .ok a ∧ ∃ b, f a = .ok b := by
  simp only [bind_eq_ok_iff]
  rw [exists_comm]
  simp only [exists_and_left]

end Conversion

end AnDbg
