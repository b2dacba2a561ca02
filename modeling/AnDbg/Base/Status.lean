import AnDbg.Lib.LittleEndian
import Mathlib.Data.List.TakeWhile

/-
  Texts, exceptions and the status that every command of the
  debugger ends with.

  A `std::string` is a list of bytes; the texts of the
  source are written as literals and stored as their UTF-8
  bytes.  `format` strings are spelled out as the parts that
  `fmt::format` joins.

  Main declarations:
    * `AnDbg.StdString`
    * `AnDbg.StdException`
    * `AnDbg.Status`
-/

------------------------------------------------------------
-- Texts
------------------------------------------------------------

namespace AnDbg

/- The bytes of a `std::string`. -/
abbrev StdString := List Byte

/- The UTF-8 bytes of a literal. -/
def utf8 (s : String) : StdString :=
  s.toUTF8.data.toList.map UInt8.toBitVec

/- The ASCII bytes of a literal. -/
def ascii (s : String) : StdString :=
  s.toList.map fun c => BitVec.ofNat 8 c.toNat

/- What `{}` prints for an integer. -/
def dec (n : Int) : StdString :=
  ascii (toString n)

/- What `{:x}` prints for an unsigned integer. -/
def hex (n : Nat) : StdString :=
  (Nat.toDigits 16 n).map fun c => BitVec.ofNat 8 c.toNat

/- What is left of a string that is passed as `c_str()`. -/
def cStr (s : StdString) : StdString :=
  s.takeWhile fun b => b != 0#8

theorem cStr_eq_self
    {s : StdString}
    (hNoNul : 0#8 ∉ s) :
    cStr s = s := by
  apply List.takeWhile_eq_self_iff.mpr
  intro b hb
  have hNe : b ≠ 0#8 := fun hEq => hNoNul (hEq ▸ hb)
  simpa using hNe

theorem notMem_cStr
    (s : StdString) :
    0#8 ∉ cStr s := by
  intro hMem
  have hNe := List.mem_takeWhile_imp hMem
  simp at hNe

theorem cStr_cStr
    (s : StdString) :
    cStr (cStr s) = cStr s :=
  cStr_eq_self (notMem_cStr s)

end AnDbg

------------------------------------------------------------
-- Exceptions And Statuses
------------------------------------------------------------

namespace AnDbg

/- The exceptions that the modelled code lets escape. -/
inductive StdException
  | invalidArgument (what : StdString)
  | lengthError
  | badAlloc
  | typeError
deriving DecidableEq, Repr

/- Whether a command succeeded. -/
inductive StatusType
  | success
  | fail
deriving DecidableEq, Repr

/- The outcome of a command with its text for the client. -/
structure Status where
  string : StdString
  type : StatusType
deriving DecidableEq, Repr

namespace Status

/- `Status::success`, given the formatted text. -/
def success (text : StdString) : Status :=
  ⟨text, .success⟩

/-
  `Status::success` of a lone text.  Overload resolution
  takes it to the JSON version, so the text, which has
  nothing to escape, is put in quotes.
-/
def successText (text : StdString) : Status :=
  success ([0x22#8] ++ text ++ [0x22#8])

/- `Status::fail`, given the formatted text. -/
def fail (text : StdString) : Status :=
  ⟨text, .fail⟩

def isSuccess (s : Status) : Bool :=
  s.type == .success

def isFail (s : Status) : Bool :=
  s.type == .fail

@[simp] theorem isSuccess_success
    (text : StdString) :
    (success text).isSuccess = true := rfl

@[simp] theorem isSuccess_successText
    (text : StdString) :
    (successText text).isSuccess = true := rfl

@[simp] theorem isSuccess_fail
    (text : StdString) :
    (fail text).isSuccess = false := rfl

@[simp] theorem isFail_success
    (text : StdString) :
    (success text).isFail = false := rfl

@[simp] theorem isFail_successText
    (text : StdString) :
    (successText text).isFail = false := rfl

@[simp] theorem isFail_fail
    (text : StdString) :
    (fail text).isFail = true := rfl

/- A status that is no failure is a success. -/
theorem isFail_eq_not_isSuccess
    (s : Status) :
    s.isFail = !s.isSuccess := by
  rcases s with ⟨text, type⟩
  cases type <;> rfl

end Status

end AnDbg
