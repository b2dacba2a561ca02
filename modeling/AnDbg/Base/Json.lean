import AnDbg.Base.Status
import AnDbg.Lib.SortedMap

/-
  JSON values, as far as the debugger looks into them.

  The fields of an object are kept as they are walked: by
  ascending key, each key once.  How a value is written as a
  text is left to the library that the program uses.

  Main declarations:
    * `AnDbg.Json`
    * `AnDbg.Json.field`
    * `AnDbg.Json.set`
    * `AnDbg.Json.setField_eq_insert`
-/

------------------------------------------------------------
-- Values
------------------------------------------------------------

namespace AnDbg

/- `nlohmann::json`. -/
inductive Json
  | null
  | boolean (b : Bool)
  | integer (n : Int)
  | float (text : StdString)
  | string (s : StdString)
  | array (items : List Json)
  | object (fields : List (StdString × Json))

namespace Json

/-
  The field of an object that `contains` it, unless it is
  null.
-/
def field
    (key : StdString) : Json → Option Json
| .object fields =>
    match fields.lookup key with
    | none => none
    | some .null => none
    | some value => some value
| _ => none

/- Assign to a field of an object's list of fields. -/
def setField
    (key : StdString)
    (value : Json) :
    List (StdString × Json) → List (StdString × Json)
| [] => [(key, value)]
| (key', value') :: fields =>
    if key = key' then
      (key, value) :: fields
    else if key < key' then
      (key, value) :: (key', value') :: fields
    else
      (key', value') :: setField key value fields

/- `json[key] = value`; a null becomes an object. -/
def set
    (key : StdString)
    (value : Json) : Json → Json
| .object fields => .object (setField key value fields)
| .null => .object [(key, value)]
| other => other

/- An object is filled as the ordered container it is. -/
theorem setField_eq_insert
    (key : StdString)
    (value : Json)
    (fields : List (StdString × Json)) :
    setField key value fields =
      SortedMap.insert key value fields := by
  induction fields with
  | nil => rfl
  | cons entry fields ih => rw [setField, ih, SortedMap.insert]

/- The fields of what an assignment makes an object. -/
def fields : Json → List (StdString × Json)
| .object fields => fields
| _ => []

theorem set_eq_object
    {json : Json}
    (hJson : json = .null ∨ ∃ fields, json = .object fields)
    (key : StdString)
    (value : Json) :
    set key value json =
      .object (SortedMap.insert key value json.fields) := by
  rcases hJson with rfl | ⟨fields, rfl⟩
  · rfl
  · rw [set, setField_eq_insert]
    rfl

/- What was assigned last is found; the rest is as it was. -/
theorem field_set_object
    {json : Json}
    (hJson : json = .null ∨ ∃ fields, json = .object fields)
    (k key : StdString)
    (items : List (StdString × Json)) :
    (set key (.object items) json).field k =
      if k = key then some (.object items)
      else json.field k := by
  rw [set_eq_object hJson, field, SortedMap.lookup_insert]
  by_cases hKey : k = key
  · rw [if_pos hKey, if_pos hKey]
  · rw [if_neg hKey, if_neg hKey]
    rcases hJson with rfl | ⟨fields, rfl⟩
    · rfl
    · rfl

end Json

end AnDbg
