import Mathlib.Data.Finset.Basic

/-
  Handles that are given out and have to be closed.

  A program is accountable for what it did if it closed only
  handles that it held, provided that every handle it got was
  none of these.  Accounts are put together one after the
  other, so that a program is accountable if its parts are.

  Main declarations:
    * `Handles.Change` and `Handles.heldAfter`
    * `Handles.OpensFresh` and `Handles.ClosesHeld`
    * `Handles.Accounts` and `Handles.Accounts.append`
-/

------------------------------------------------------------
-- Opening And Closing
------------------------------------------------------------

namespace Handles

/- A handle is given out, or closed. -/
inductive Change (α : Type)
  | opened (h : α)
  | closed (h : α)
deriving DecidableEq, Repr

variable {α : Type}
variable [DecidableEq α]

/- What is held after some events. -/
def heldAfter : Finset α → List (Change α) → Finset α
| held, [] => held
| held, .opened h :: events => heldAfter (insert h held) events
| held, .closed h :: events => heldAfter (held.erase h) events

/- Nobody gives out a handle that is still held. -/
def OpensFresh : Finset α → List (Change α) → Prop
| _, [] => True
| held, .opened h :: events =>
    h ∉ held ∧ OpensFresh (insert h held) events
| held, .closed h :: events => OpensFresh (held.erase h) events

/- Only what is held is closed, so nothing is closed twice. -/
def ClosesHeld : Finset α → List (Change α) → Prop
| _, [] => True
| held, .opened h :: events => ClosesHeld (insert h held) events
| held, .closed h :: events =>
    h ∈ held ∧ ClosesHeld (held.erase h) events

variable {held : Finset α}
variable {events events' : List (Change α)}

theorem heldAfter_append :
    heldAfter held (events ++ events') =
      heldAfter (heldAfter held events) events' := by
  induction events generalizing held with
  | nil => rfl
  | cons event events ih =>
      cases event with
      | opened h => exact ih
      | closed h => exact ih

theorem opensFresh_append :
    OpensFresh held (events ++ events') ↔
      OpensFresh held events ∧
        OpensFresh (heldAfter held events) events' := by
  induction events generalizing held with
  | nil => simp [OpensFresh, heldAfter]
  | cons event events ih =>
      cases event with
      | opened h =>
          simp only [List.cons_append, OpensFresh, heldAfter,
            ih, and_assoc]
      | closed h =>
          simp only [List.cons_append, OpensFresh, heldAfter,
            ih]

theorem closesHeld_append :
    ClosesHeld held (events ++ events') ↔
      ClosesHeld held events ∧
        ClosesHeld (heldAfter held events) events' := by
  induction events generalizing held with
  | nil => simp [ClosesHeld, heldAfter]
  | cons event events ih =>
      cases event with
      | opened h =>
          simp only [List.cons_append, ClosesHeld, heldAfter,
            ih]
      | closed h =>
          simp only [List.cons_append, ClosesHeld, heldAfter,
            ih, and_assoc]

end Handles

------------------------------------------------------------
-- Accounts
------------------------------------------------------------

namespace Handles

variable {α : Type}
variable [DecidableEq α]
variable {held held' held'' : Finset α}
variable {events events' : List (Change α)}

/-
  If the handles that are given out are fresh, only held ones
  are closed, and `held'` is what is held at the end.
-/
def Accounts
    (held : Finset α)
    (events : List (Change α))
    (held' : Finset α) : Prop :=
  OpensFresh held events →
    ClosesHeld held events ∧ heldAfter held events = held'

theorem Accounts.nil (held : Finset α) :
    Accounts held [] held :=
  fun _ => ⟨trivial, rfl⟩

theorem Accounts.opened
    (held : Finset α)
    (h : α) :
    Accounts held [.opened h] (insert h held) :=
  fun _ => ⟨trivial, rfl⟩

theorem Accounts.closed
    {h : α}
    (hHeld : h ∈ held) :
    Accounts held [.closed h] (held.erase h) :=
  fun _ => ⟨⟨hHeld, trivial⟩, rfl⟩

/- Accounts one after the other. -/
theorem Accounts.append
    (hFirst : Accounts held events held')
    (hThen : Accounts held' events' held'') :
    Accounts held (events ++ events') held'' := by
  intro hFresh
  rcases opensFresh_append.mp hFresh with ⟨hHere, hLater⟩
  rcases hFirst hHere with ⟨hCloses, hHeld⟩
  rw [hHeld] at hLater
  rcases hThen hLater with ⟨hCloses', hHeld'⟩
  constructor
  · rw [closesHeld_append, hHeld]
    exact ⟨hCloses, hCloses'⟩
  · rw [heldAfter_append, hHeld, hHeld']

/-
  What is opened and closed again: it was not held, since it
  was fresh.
-/
theorem Accounts.opened_closed
    (held : Finset α)
    (h : α) :
    Accounts held [.opened h, .closed h] held := by
  rintro ⟨hFresh, _⟩
  refine ⟨⟨Finset.mem_insert_self h held, trivial⟩, ?_⟩
  exact Finset.erase_insert hFresh

end Handles
