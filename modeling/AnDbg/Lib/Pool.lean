import Mathlib.Data.Set.Insert
import Mathlib.Logic.Function.Basic

/-
  Resources that are either free or held.

  A holder has at most one resource.  A pool partitions a
  set of resources when the free and the held ones make up
  that set, none is both, and none is held twice; taking a
  free resource and giving a held one back keep that.

  Main declarations:
    * `Pool`, `Pool.take`, `Pool.give`, `Pool.fill` and
      `Pool.drop`
    * `Pool.Partition`
    * `Pool.Step.partition`
-/

------------------------------------------------------------
-- Pools
------------------------------------------------------------

/- What is free, and what every holder has. -/
structure Pool (ι ρ : Type) where
  free : Set ρ
  holder : ι → Option ρ

namespace Pool

variable {ι ρ : Type}

@[ext] theorem ext
    {p q : Pool ι ρ}
    (hFree : p.free = q.free)
    (hHolder : p.holder = q.holder) :
    p = q := by
  cases p
  cases q
  cases hFree
  cases hHolder
  rfl

/- The resources that some holder has. -/
def held (p : Pool ι ρ) : Set ρ :=
  { r | ∃ i, p.holder i = some r }

/- Hand a free resource to a holder. -/
def take
    [DecidableEq ι]
    (i : ι)
    (r : ρ)
    (p : Pool ι ρ) : Pool ι ρ where
  free := p.free \ {r}
  holder := Function.update p.holder i (some r)

/- Put back a resource that a holder has. -/
def give
    [DecidableEq ι]
    (i : ι)
    (r : ρ)
    (p : Pool ι ρ) : Pool ι ρ where
  free := insert r p.free
  holder := Function.update p.holder i none

/- Add resources to the free ones. -/
def fill
    (rs : Set ρ)
    (p : Pool ι ρ) : Pool ι ρ :=
  { p with free := p.free ∪ rs }

/- Lose a free resource. -/
def drop
    (r : ρ)
    (p : Pool ι ρ) : Pool ι ρ :=
  { p with free := p.free \ {r} }

/- The free and the held resources partition a set. -/
structure Partition
    (p : Pool ι ρ)
    (all : Set ρ) : Prop where
  disjoint : ∀ r ∈ p.free, r ∉ p.held
  unique :
    ∀ i j r, p.holder i = some r → p.holder j = some r → i = j
  cover : ∀ r, r ∈ p.free ∨ r ∈ p.held ↔ r ∈ all

/- What one operation can do to a pool. -/
inductive Step
    [DecidableEq ι]
    (p : Pool ι ρ) : Pool ι ρ → Prop
  | skip : Step p p
  | take
      (i : ι)
      {r : ρ}
      (hFree : r ∈ p.free)
      (hNew : p.holder i = none) :
      Step p (p.take i r)
  | give
      (i : ι)
      {r : ρ}
      (hHolder : p.holder i = some r) :
      Step p (p.give i r)

end Pool

------------------------------------------------------------
-- Partitions Are Kept
------------------------------------------------------------

namespace Pool

variable {ι ρ : Type}
variable {p : Pool ι ρ} {all : Set ρ}

/- A pool without holders is partitioned by what is free. -/
theorem partition_of_noHolder
    (hNone : ∀ i, p.holder i = none) :
    p.Partition p.free := by
  have hHeld : ∀ r, r ∉ p.held := by
    rintro r ⟨i, hHolder⟩
    rw [hNone i] at hHolder
    cases hHolder
  constructor
  · intro r _
    exact hHeld r
  · intro i j r hHolder
    rw [hNone i] at hHolder
    cases hHolder
  · intro r
    simp [hHeld r]

/- What is free is what nobody has. -/
theorem Partition.free_eq
    {q : Pool ι ρ}
    (hPart : p.Partition all)
    (hPart' : q.Partition all)
    (hHolder : p.holder = q.holder) :
    p.free = q.free := by
  have hHeld : p.held = q.held := by
    simp only [held, hHolder]
  ext r
  constructor
  · intro hFree
    rcases (hPart'.cover r).mpr
        ((hPart.cover r).mp (.inl hFree)) with hOther | hTaken
    · exact hOther
    · exact absurd (hHeld ▸ hTaken) (hPart.disjoint r hFree)
  · intro hFree
    rcases (hPart.cover r).mpr
        ((hPart'.cover r).mp (.inl hFree)) with hOther | hTaken
    · exact hOther
    · exact absurd (hHeld ▸ hTaken) (hPart'.disjoint r hFree)

/- Filling a pool that has nothing. -/
theorem Partition.fill
    (hEmpty : p.Partition ∅)
    (rs : Set ρ) :
    (p.fill rs).Partition rs := by
  have hNone (r : ρ) : r ∉ p.free ∧ r ∉ p.held := by
    rw [← not_or, hEmpty.cover]
    exact id
  constructor
  · intro r _
    exact (hNone r).2
  · exact hEmpty.unique
  · intro r
    constructor
    · rintro ((hFree | hNew) | hHeld)
      · exact absurd hFree (hNone r).1
      · exact hNew
      · exact absurd hHeld (hNone r).2
    · intro hNew
      exact .inl (.inr hNew)

/- A resource that is lost is missing from the set. -/
theorem Partition.drop
    {r : ρ}
    (hPart : p.Partition all)
    (hFree : r ∈ p.free) :
    (p.drop r).Partition (all \ {r}) := by
  constructor
  case disjoint =>
    rintro s ⟨hOld, -⟩
    exact hPart.disjoint s hOld
  case unique => exact hPart.unique
  case cover =>
    intro s
    have hHeld : s ∈ p.held → s ≠ r := by
      rintro hHolder rfl
      exact hPart.disjoint s hFree hHolder
    constructor
    · rintro (⟨hOld, hNe⟩ | hHolder)
      · exact ⟨(hPart.cover s).mp (.inl hOld), hNe⟩
      · exact ⟨(hPart.cover s).mp (.inr hHolder),
          hHeld hHolder⟩
    · rintro ⟨hAll, hNe⟩
      rcases (hPart.cover s).mpr hAll with hOld | hHolder
      · exact .inl ⟨hOld, hNe⟩
      · exact .inr hHolder

variable [DecidableEq ι]

theorem holder_take
    (p : Pool ι ρ)
    (i : ι)
    (r : ρ)
    (j : ι) :
    (p.take i r).holder j =
      if j = i then some r else p.holder j :=
  Function.update_apply p.holder i (some r) j

theorem holder_give
    (p : Pool ι ρ)
    (i : ι)
    (r : ρ)
    (j : ι) :
    (p.give i r).holder j =
      if j = i then none else p.holder j :=
  Function.update_apply p.holder i none j

/- A new holder adds its resource to the held ones. -/
theorem mem_held_take
    {i : ι}
    {r s : ρ}
    (hNew : p.holder i = none) :
    s ∈ (p.take i r).held ↔ s = r ∨ s ∈ p.held := by
  constructor
  · rintro ⟨j, hHolder⟩
    rw [holder_take] at hHolder
    split at hHolder
    next => exact .inl (Option.some.inj hHolder).symm
    next => exact .inr ⟨j, hHolder⟩
  · rintro (rfl | ⟨j, hHolder⟩)
    · exact ⟨i, by rw [holder_take, if_pos rfl]⟩
    · have hNe : j ≠ i := by
        rintro rfl
        rw [hNew] at hHolder
        cases hHolder
      exact ⟨j, by rw [holder_take, if_neg hNe, hHolder]⟩

theorem Partition.take
    {i : ι}
    {r : ρ}
    (hPart : p.Partition all)
    (hFree : r ∈ p.free)
    (hNew : p.holder i = none) :
    (p.take i r).Partition all := by
  constructor
  case disjoint =>
    rintro s ⟨hOld, hNe⟩ hHeld
    rcases (mem_held_take hNew).mp hHeld with rfl | hHeld
    · exact hNe rfl
    · exact hPart.disjoint s hOld hHeld
  case unique =>
    intro j j' s hHolder hHolder'
    have hBoth (j : ι) (hOld : p.holder j = some r) : False :=
      hPart.disjoint r hFree ⟨j, hOld⟩
    rw [holder_take] at hHolder hHolder'
    by_cases hj : j = i <;> by_cases hj' : j' = i
    · rw [hj, hj']
    · rw [if_pos hj] at hHolder
      rw [if_neg hj', ← Option.some.inj hHolder] at hHolder'
      exact (hBoth j' hHolder').elim
    · rw [if_pos hj'] at hHolder'
      rw [if_neg hj, ← Option.some.inj hHolder'] at hHolder
      exact (hBoth j hHolder).elim
    · rw [if_neg hj] at hHolder
      rw [if_neg hj'] at hHolder'
      exact hPart.unique j j' s hHolder hHolder'
  case cover =>
    intro s
    rw [mem_held_take hNew, ← hPart.cover s]
    by_cases hEq : s = r
    · simp [hEq, hFree]
    · simp [Pool.take, hEq]

/- A holder that gives back leaves the others what they have. -/
theorem Partition.mem_held_give
    {i : ι}
    {r s : ρ}
    (hPart : p.Partition all)
    (hHolder : p.holder i = some r) :
    s ∈ (p.give i r).held ↔ s ≠ r ∧ s ∈ p.held := by
  constructor
  · rintro ⟨j, hOther⟩
    rw [holder_give] at hOther
    split at hOther
    next => cases hOther
    next hNe =>
      refine ⟨?_, j, hOther⟩
      rintro rfl
      exact hNe (hPart.unique j i s hOther hHolder)
  · rintro ⟨hNe, j, hOther⟩
    have hNotGiver : j ≠ i := by
      rintro rfl
      rw [hHolder] at hOther
      exact hNe (Option.some.inj hOther).symm
    exact ⟨j, by rw [holder_give, if_neg hNotGiver, hOther]⟩

theorem Partition.give
    {i : ι}
    {r : ρ}
    (hPart : p.Partition all)
    (hHolder : p.holder i = some r) :
    (p.give i r).Partition all := by
  constructor
  case disjoint =>
    rintro s hFree hHeld
    rcases (hPart.mem_held_give hHolder).mp hHeld with
      ⟨hNe, hOther⟩
    rcases hFree with rfl | hOld
    · exact hNe rfl
    · exact hPart.disjoint s hOld hOther
  case unique =>
    intro j j' s hOther hOther'
    rw [holder_give] at hOther hOther'
    split at hOther
    next => cases hOther
    next =>
      split at hOther'
      next => cases hOther'
      next => exact hPart.unique j j' s hOther hOther'
  case cover =>
    intro s
    rw [hPart.mem_held_give hHolder, ← hPart.cover s]
    by_cases hEq : s = r
    · have hHeld : r ∈ p.held := ⟨i, hHolder⟩
      simp [Pool.give, hEq, hHeld]
    · simp [Pool.give, hEq]

/- Every operation keeps the partition. -/
theorem Step.partition
    {q : Pool ι ρ}
    (hStep : Step p q)
    (hPart : p.Partition all) :
    q.Partition all := by
  cases hStep with
  | skip => exact hPart
  | take i hFree hNew => exact hPart.take hFree hNew
  | give i hHolder => exact hPart.give hHolder

end Pool
