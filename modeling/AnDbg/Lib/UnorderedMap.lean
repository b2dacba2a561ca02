import Mathlib.Data.Finmap
import Mathlib.Data.Multiset.Filter
import Mathlib.Data.Multiset.MapFold
import Mathlib.Data.Multiset.Count

/-
  The associative container of C++ as a finite map.

  `emplace` keeps an entry that is already there, and the
  subscript operator makes a missing entry before it yields
  it: `index` is the value it yields, `touch` the map it
  leaves behind, and `update` the map after the value was
  changed in place.  Walking the container visits its values
  in no fixed order, so `values` is a multiset.

  Main declarations:
    * `UnorderedMap.index`, `UnorderedMap.touch` and
      `UnorderedMap.update`
    * `UnorderedMap.emplace`
    * `UnorderedMap.values` and `UnorderedMap.mem_values`
    * `UnorderedMap.nodup_values`
-/

------------------------------------------------------------
-- Container Operations
------------------------------------------------------------

/- A container of values under distinct keys. -/
abbrev UnorderedMap (K V : Type) := Finmap fun _ : K => V

namespace UnorderedMap

variable {K V : Type}
variable [DecidableEq K]

/- The value that the subscript operator yields. -/
def index
    [Inhabited V]
    (k : K)
    (m : UnorderedMap K V) : V :=
  (m.lookup k).getD default

/- The map that the subscript operator leaves behind. -/
def touch
    [Inhabited V]
    (k : K)
    (m : UnorderedMap K V) : UnorderedMap K V :=
  if k ∈ m then m else m.insert k default

/- Change the value that the subscript operator yields. -/
def update
    [Inhabited V]
    (k : K)
    (f : V → V)
    (m : UnorderedMap K V) : UnorderedMap K V :=
  m.insert k (f (index k m))

/- Add an entry unless its key is taken. -/
def emplace
    (k : K)
    (v : V)
    (m : UnorderedMap K V) : UnorderedMap K V :=
  if k ∈ m then m else m.insert k v

/- The values, each as often as it is stored. -/
def values (m : UnorderedMap K V) : Multiset V :=
  m.entries.map fun entry => entry.2

/- Some value meets a test. -/
def anyValue (p : V → Bool) (m : UnorderedMap K V) : Bool :=
  decide (0 < (values m).countP fun v => p v)

end UnorderedMap

------------------------------------------------------------
-- Lookups After An Operation
------------------------------------------------------------

namespace UnorderedMap

variable {K V : Type}
variable [DecidableEq K]

theorem lookup_insert
    (m : UnorderedMap K V)
    (k : K)
    (v : V)
    (k' : K) :
    (m.insert k v).lookup k' =
      if k' = k then some v else m.lookup k' := by
  split
  next hEq => rw [hEq, Finmap.lookup_insert]
  next hNe => rw [Finmap.lookup_insert_of_ne m hNe]

theorem lookup_erase
    (m : UnorderedMap K V)
    (k k' : K) :
    (m.erase k).lookup k' =
      if k' = k then none else m.lookup k' := by
  split
  next hEq => rw [hEq, Finmap.lookup_erase]
  next hNe => rw [Finmap.lookup_erase_ne hNe]

variable [Inhabited V]

theorem index_eq_of_lookup
    {m : UnorderedMap K V}
    {k : K}
    {v : V}
    (hLookup : m.lookup k = some v) :
    index k m = v := by
  rw [index, hLookup, Option.getD_some]

theorem index_of_notMem
    {m : UnorderedMap K V}
    {k : K}
    (hAbsent : k ∉ m) :
    index k m = default := by
  rw [index, Finmap.lookup_eq_none.mpr hAbsent,
    Option.getD_none]

/- Yielding an entry changes no value that is yielded. -/
@[simp] theorem index_touch
    (m : UnorderedMap K V)
    (k k' : K) :
    index k' (touch k m) = index k' m := by
  by_cases hMem : k ∈ m
  · rw [touch, if_pos hMem]
  · rw [touch, if_neg hMem, index, lookup_insert]
    split
    next hEq =>
      rw [hEq, index_of_notMem hMem, Option.getD_some]
    next => rfl

@[simp] theorem mem_touch
    (m : UnorderedMap K V)
    (k k' : K) :
    k' ∈ touch k m ↔ k' = k ∨ k' ∈ m := by
  by_cases hMem : k ∈ m
  · rw [touch, if_pos hMem]
    constructor
    · exact Or.inr
    · rintro (rfl | hOther)
      · exact hMem
      · exact hOther
  · rw [touch, if_neg hMem, Finmap.mem_insert]

theorem index_update
    (m : UnorderedMap K V)
    (k : K)
    (f : V → V)
    (k' : K) :
    index k' (update k f m) =
      if k' = k then f (index k m) else index k' m := by
  rw [index, update, lookup_insert]
  split <;> rfl

theorem lookup_update
    (m : UnorderedMap K V)
    (k : K)
    (f : V → V)
    (k' : K) :
    (update k f m).lookup k' =
      if k' = k then some (f (index k m))
      else m.lookup k' := by
  rw [update, lookup_insert]

theorem index_erase
    (m : UnorderedMap K V)
    (k k' : K) :
    index k' (m.erase k) =
      if k' = k then default else index k' m := by
  rw [index, lookup_erase]
  split <;> rfl

/- Changes in place that can be swapped at one key. -/
theorem update_comm
    {f g : V → V}
    (hComm : ∀ v, f (g v) = g (f v))
    (k k' : K)
    (m : UnorderedMap K V) :
    update k f (update k' g m) = update k' g (update k f m) := by
  apply Finmap.ext_lookup
  intro x
  simp only [lookup_update, index_update]
  by_cases hEq : k = k'
  · subst hEq
    simp only [if_true, hComm]
    split <;> rfl
  · simp only [hEq, Ne.symm hEq, if_false]
    by_cases hFirst : x = k
    · have hOther : x ≠ k' := fun hx => hEq (hFirst.symm.trans hx)
      simp only [hFirst, hEq, if_true, if_false]
    · simp only [hFirst, if_false]

end UnorderedMap

------------------------------------------------------------
-- Walking The Values
------------------------------------------------------------

namespace UnorderedMap

variable {K V : Type}
variable [DecidableEq K]

/- A value is walked past when some key holds it. -/
theorem mem_values
    {m : UnorderedMap K V}
    {v : V} :
    v ∈ values m ↔ ∃ k, m.lookup k = some v := by
  rw [values, Multiset.mem_map]
  constructor
  · rintro ⟨⟨k, v'⟩, hEntry, rfl⟩
    exact ⟨k, Finmap.lookup_eq_some_iff.mpr hEntry⟩
  · rintro ⟨k, hLookup⟩
    exact ⟨⟨k, v⟩, Finmap.lookup_eq_some_iff.mp hLookup, rfl⟩

theorem anyValue_iff
    {p : V → Bool}
    {m : UnorderedMap K V} :
    anyValue p m = true ↔
      ∃ k v, m.lookup k = some v ∧ p v = true := by
  rw [anyValue, decide_eq_true_iff, Multiset.countP_pos]
  constructor
  · rintro ⟨v, hMem, hTest⟩
    rcases mem_values.mp hMem with ⟨k, hLookup⟩
    exact ⟨k, v, hLookup, hTest⟩
  · rintro ⟨k, v, hLookup, hTest⟩
    exact ⟨v, mem_values.mpr ⟨k, hLookup⟩, hTest⟩

/- Values that tell their own key are walked past once. -/
theorem nodup_values
    {m : UnorderedMap K V}
    (keyOf : V → K)
    (hKey : ∀ k v, m.lookup k = some v → keyOf v = k) :
    (values m).Nodup := by
  apply Multiset.Nodup.map_on _ m.nodup_entries
  rintro ⟨k, v⟩ hEntry ⟨k', v'⟩ hEntry' hEq
  have hk : keyOf v = k :=
    hKey k v (Finmap.lookup_eq_some_iff.mpr hEntry)
  have hk' : keyOf v' = k' :=
    hKey k' v' (Finmap.lookup_eq_some_iff.mpr hEntry')
  have hValues : v = v' := hEq
  subst hValues
  rw [← hk, ← hk']

end UnorderedMap
