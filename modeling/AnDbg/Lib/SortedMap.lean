import Mathlib.Data.List.Nodup
import Mathlib.Data.List.Perm.Basic

/-
  The ordered container of C++ as a list of its entries in
  the order in which they are walked.

  `insert` is the assignment through the subscript operator.
  A map is determined by what its keys look up, so that maps
  which were filled in different orders can be compared.

  Main declarations:
    * `SortedMap.insert` and `SortedMap.lookup_insert`
    * `SortedMap.Ascending` and `SortedMap.ext`
    * `SortedMap.ofKeys`, the map of a function
    * `SortedMap.filter_ofKeys`
-/

------------------------------------------------------------
-- Entries In Order
------------------------------------------------------------

namespace SortedMap

variable {K V : Type}
variable [LT K] [DecidableEq K]

/- The entries are walked by ascending keys. -/
def Ascending (m : List (K × V)) : Prop :=
  (m.map Prod.fst).Pairwise (· < ·)

omit [DecidableEq K] in
theorem ascending_nil :
    Ascending ([] : List (K × V)) :=
  List.Pairwise.nil

/- Assign to a key. -/
def insert
    [DecidableLT K]
    (key : K)
    (value : V) : List (K × V) → List (K × V)
| [] => [(key, value)]
| (key', value') :: m =>
    if key = key' then
      (key, value) :: m
    else if key < key' then
      (key, value) :: (key', value') :: m
    else
      (key', value') :: insert key value m

section Lookup

omit [LT K]

variable [BEq K] [LawfulBEq K]

theorem lookup_cons_eq
    (k key : K)
    (value : V)
    (m : List (K × V)) :
    List.lookup k ((key, value) :: m) =
      if k = key then some value else m.lookup k := by
  rw [List.lookup_cons]
  by_cases hKey : k = key
  · simp [hKey]
  · rw [if_neg hKey, beq_false_of_ne hKey]

omit [DecidableEq K] in
theorem lookup_eq_none_iff_notMem
    {k : K}
    {m : List (K × V)} :
    m.lookup k = none ↔ k ∉ m.map Prod.fst := by
  rw [List.lookup_eq_none_iff]
  simp only [bne_iff_ne, List.mem_map, not_exists, not_and]
  exact forall₂_congr fun entry _ => ne_comm

omit [DecidableEq K] in
theorem mem_of_lookup
    {k : K}
    {value : V}
    {m : List (K × V)}
    (hLookup : m.lookup k = some value) :
    (k, value) ∈ m := by
  rcases List.lookup_eq_some_iff.mp hLookup with
    ⟨before, rest, rfl, -⟩
  simp

/- With each key there once, lookup finds every entry. -/
theorem lookup_of_mem
    {k : K}
    {value : V}
    {m : List (K × V)}
    (hNodup : (m.map Prod.fst).Nodup)
    (hMem : (k, value) ∈ m) :
    m.lookup k = some value := by
  induction m with
  | nil => cases hMem
  | cons entry m ih =>
      rw [List.map_cons, List.nodup_cons] at hNodup
      rw [lookup_cons_eq]
      cases hMem with
      | head => exact if_pos rfl
      | tail _ hMem =>
          rw [if_neg]
          · exact ih hNodup.2 hMem
          · intro hKey
            exact hNodup.1
              (hKey ▸ List.mem_map_of_mem (f := Prod.fst) hMem)

/- Entries are kept or dropped by their keys. -/
theorem lookup_filter
    (p : K → Bool)
    (k : K)
    (m : List (K × V)) :
    (m.filter fun entry => p entry.1).lookup k =
      if p k = true then m.lookup k else none := by
  induction m with
  | nil => simp
  | cons entry m ih =>
      rw [lookup_cons_eq, List.filter_cons]
      by_cases hKey : k = entry.1
      · subst hKey
        by_cases hKeep : p entry.1 = true
        · rw [if_pos hKeep, if_pos hKeep, if_pos rfl,
            lookup_cons_eq, if_pos rfl]
        · rw [if_neg hKeep, if_neg hKeep, ih, if_neg hKeep]
      · rw [if_neg hKey]
        by_cases hKeep : p entry.1 = true
        · rw [if_pos hKeep, lookup_cons_eq, if_neg hKey, ih]
        · rw [if_neg hKeep, ih]

end Lookup

section Insert

variable [DecidableLT K]
variable [BEq K] [LawfulBEq K]

theorem lookup_insert
    (k key : K)
    (value : V)
    (m : List (K × V)) :
    (insert key value m).lookup k =
      if k = key then some value else m.lookup k := by
  induction m with
  | nil => rw [insert, lookup_cons_eq]
  | cons entry m ih =>
      rcases entry with ⟨key', value'⟩
      rw [insert]
      split
      next hKey =>
        subst hKey
        rw [lookup_cons_eq, lookup_cons_eq]
        split
        · rfl
        · rfl
      next hKey =>
        split
        · rw [lookup_cons_eq]
        · rw [lookup_cons_eq, ih, lookup_cons_eq]
          by_cases hk : k = key'
          · subst hk
            rw [if_pos rfl, if_neg (Ne.symm hKey), if_pos rfl]
          · rw [if_neg hk, if_neg hk]

theorem mem_keys_insert
    {k key : K}
    {value : V}
    {m : List (K × V)} :
    k ∈ (insert key value m).map Prod.fst ↔
      k = key ∨ k ∈ m.map Prod.fst := by
  rw [← not_iff_not, not_or, ← lookup_eq_none_iff_notMem,
    ← lookup_eq_none_iff_notMem, lookup_insert]
  by_cases hKey : k = key
  · simp [hKey]
  · simp [hKey]

variable [Trans (α := K) (· < ·) (· < ·) (· < ·)]
variable [Std.Trichotomous (α := K) (· < ·)]

theorem Ascending.insert
    {m : List (K × V)}
    (hm : Ascending m)
    (key : K)
    (value : V) :
    Ascending (SortedMap.insert key value m) := by
  induction m with
  | nil => simp [SortedMap.insert, Ascending]
  | cons entry m ih =>
      rcases entry with ⟨key', value'⟩
      rcases List.pairwise_cons.mp hm with ⟨hHead, hTail⟩
      rw [SortedMap.insert]
      split
      next hKey =>
        subst hKey
        exact hm
      next hKey =>
        split
        next hLt =>
          apply List.pairwise_cons.mpr ⟨?_, hm⟩
          intro k hk
          rcases List.mem_cons.mp hk with rfl | hk
          · exact hLt
          · exact Trans.trans hLt (hHead k hk)
        next hNotLt =>
          have hGt : key' < key := by
            by_contra hNotGt
            exact hKey
              (Std.Trichotomous.trichotomous _ _ hNotLt hNotGt)
          apply List.pairwise_cons.mpr ⟨?_, ih hTail⟩
          intro k hk
          rcases mem_keys_insert.mp hk with rfl | hk
          · exact hGt
          · exact hHead k hk

end Insert

section Order

variable [BEq K] [LawfulBEq K]
variable [Std.Irrefl (α := K) (· < ·)]
variable [Trans (α := K) (· < ·) (· < ·) (· < ·)]

omit [DecidableEq K] [BEq K] [LawfulBEq K]
  [Trans (α := K) (· < ·) (· < ·) (· < ·)] in
theorem Ascending.nodup
    {m : List (K × V)}
    (hm : Ascending m) :
    (m.map Prod.fst).Nodup := by
  apply List.Pairwise.imp _ hm
  rintro a _ hLt rfl
  exact Std.Irrefl.irrefl a hLt

/- Maps in order are the same if they look up the same. -/
theorem ext
    {m m' : List (K × V)}
    (hm : Ascending m)
    (hm' : Ascending m')
    (hLookup : ∀ k, m.lookup k = m'.lookup k) :
    m = m' := by
  have hOrdered : m.Pairwise fun a b => a.1 < b.1 :=
    List.pairwise_map.mp hm
  have hOrdered' : m'.Pairwise fun a b => a.1 < b.1 :=
    List.pairwise_map.mp hm'
  have hMem : ∀ entry : K × V, entry ∈ m ↔ entry ∈ m' := by
    intro entry
    constructor
    · intro hEntry
      apply mem_of_lookup
      rw [← hLookup]
      exact lookup_of_mem hm.nodup hEntry
    · intro hEntry
      apply mem_of_lookup
      rw [hLookup]
      exact lookup_of_mem hm'.nodup hEntry
  have hPerm : m.Perm m' :=
    (List.perm_ext_iff_of_nodup
      (.of_map _ hm.nodup) (.of_map _ hm'.nodup)).mpr hMem
  apply List.Perm.eq_of_pairwise _ hOrdered hOrdered' hPerm
  intro a b _ _ hLt hGt
  exact absurd (Trans.trans hLt hGt) (Std.Irrefl.irrefl a.1)

end Order

end SortedMap

------------------------------------------------------------
-- The Map Of A Function
------------------------------------------------------------

namespace SortedMap

variable {K V : Type}
variable [LT K] [DecidableEq K] [DecidableLT K]
variable [BEq K] [LawfulBEq K]

/- Assign to each key its value, one after the other. -/
def ofKeys
    (value : K → V)
    (keys : List K)
    (m : List (K × V)) : List (K × V) :=
  keys.foldl (fun m key => insert key (value key) m) m

omit [BEq K] [LawfulBEq K] in
theorem ofKeys_congr
    {value value' : K → V}
    {keys : List K}
    (hSame : ∀ key ∈ keys, value key = value' key)
    (m : List (K × V)) :
    ofKeys value keys m = ofKeys value' keys m := by
  apply List.foldl_ext
  intro m key hKey
  rw [hSame key hKey]

theorem lookup_ofKeys
    (value : K → V)
    (keys : List K)
    (m : List (K × V))
    (k : K) :
    (ofKeys value keys m).lookup k =
      if k ∈ keys then some (value k) else m.lookup k := by
  unfold ofKeys
  induction keys generalizing m with
  | nil => simp
  | cons key keys ih =>
      rw [List.foldl_cons, ih, lookup_insert]
      by_cases hMem : k ∈ keys
      · simp [hMem]
      · by_cases hKey : k = key
        · subst hKey
          simp [hMem]
        · simp [hMem, hKey]

theorem mem_keys_ofKeys
    (value : K → V)
    (keys : List K)
    (k : K) :
    k ∈ (ofKeys value keys []).map Prod.fst ↔ k ∈ keys := by
  rw [← not_iff_not, ← lookup_eq_none_iff_notMem,
    lookup_ofKeys]
  by_cases hMem : k ∈ keys
  · simp [hMem]
  · simp [hMem]

variable [Trans (α := K) (· < ·) (· < ·) (· < ·)]
variable [Std.Trichotomous (α := K) (· < ·)]

theorem Ascending.ofKeys
    {m : List (K × V)}
    (hm : Ascending m)
    (value : K → V)
    (keys : List K) :
    Ascending (SortedMap.ofKeys value keys m) := by
  unfold SortedMap.ofKeys
  induction keys generalizing m with
  | nil => exact hm
  | cons key keys ih => exact ih (hm.insert key (value key))

theorem ascending_ofKeys
    (value : K → V)
    (keys : List K) :
    Ascending (ofKeys value keys []) :=
  ascending_nil.ofKeys value keys

theorem mem_ofKeys
    [Std.Irrefl (α := K) (· < ·)]
    {value : K → V}
    {keys : List K}
    {entry : K × V}
    (hMem : entry ∈ ofKeys value keys []) :
    entry.1 ∈ keys ∧ entry.2 = value entry.1 := by
  have hKey : entry.1 ∈ keys :=
    (mem_keys_ofKeys value keys entry.1).mp
      (List.mem_map_of_mem (f := Prod.fst) hMem)
  have hLookup :=
    lookup_of_mem (ascending_ofKeys value keys).nodup hMem
  rw [lookup_ofKeys, if_pos hKey] at hLookup
  exact ⟨hKey, (Option.some.inj hLookup).symm⟩

/- Fewer keys restrict the map. -/
theorem filter_ofKeys
    [Std.Irrefl (α := K) (· < ·)]
    (value : K → V)
    {keys all : List K}
    (hSubset : ∀ key ∈ keys, key ∈ all) :
    (ofKeys value all []).filter
        (fun entry => decide (entry.1 ∈ keys)) =
      ofKeys value keys [] := by
  apply ext
  · exact List.Pairwise.sublist
      (List.filter_sublist.map Prod.fst)
      (ascending_ofKeys value all)
  · exact ascending_ofKeys value keys
  · intro k
    rw [lookup_filter (fun key => decide (key ∈ keys)),
      lookup_ofKeys, lookup_ofKeys]
    by_cases hMem : k ∈ keys
    · simp [hMem, hSubset k hMem]
    · simp [hMem]

end SortedMap
