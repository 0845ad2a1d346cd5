import Mathlib.Data.List.Basic

/-!
# Loops that end

A loop either stops or yields an item and goes on from a new state. Every pass lowers
a measure of the state, so the loop ends from every state; what it yields on the way
and the state it ends in are functions of the state it starts from.

A loop over a list that fills an array takes what it selects until the array is full.
-/

namespace PstHsm.Loops

universe u v
variable {State : Type u} {Item : Type v}

/-- One pass of a loop, with the measure that makes it end. -/
structure Loop (State : Type u) (Item : Type v) where
  next : State → Option (Item × State)
  measure : State → Nat
  lowers : ∀ {state item after}, next state = some (item, after) → measure after < measure state

namespace Loop

/-- What the loop yields until it stops. -/
def items (loop : Loop State Item) (state : State) : List Item :=
  match _passed : loop.next state with
  | none => []
  | some (item, after) => item :: loop.items after
termination_by loop.measure state
decreasing_by exact loop.lowers _passed

/-- The state in which the loop stops. -/
def last (loop : Loop State Item) (state : State) : State :=
  match _passed : loop.next state with
  | none => state
  | some (_, after) => loop.last after
termination_by loop.measure state
decreasing_by exact loop.lowers _passed

variable (loop : Loop State Item)

/-- A loop that has stopped yields nothing. -/
theorem items_stopped {state : State} (stopped : loop.next state = none) :
    loop.items state = [] := by
  rw [items]
  split <;> simp_all

/-- One that goes on yields an item and what follows. -/
theorem items_passed {state after : State} {item : Item}
    (passed : loop.next state = some (item, after)) :
    loop.items state = item :: loop.items after := by
  rw [items]
  split <;> simp_all

/-- A loop that has stopped is in its last state. -/
theorem last_stopped {state : State} (stopped : loop.next state = none) :
    loop.last state = state := by
  rw [last]
  split <;> simp_all

/-- One that goes on comes to the last state of what follows. -/
theorem last_passed {state after : State} {item : Item}
    (passed : loop.next state = some (item, after)) : loop.last state = loop.last after := by
  rw [last]
  split <;> simp_all

/-- Induction along the passes of a loop. -/
theorem passes {motive : State → Prop}
    (stopped : ∀ state, loop.next state = none → motive state)
    (passed : ∀ state item after, loop.next state = some (item, after) → motive after →
      motive state)
    (state : State) : motive state := by
  induction state using items.induct loop with
  | case1 state taken => exact stopped state taken
  | case2 state item after taken induction => exact passed state item after taken induction

/-- The loop has stopped where it ends. -/
theorem last_next (state : State) : loop.next (loop.last state) = none := by
  induction state using loop.passes with
  | stopped state stopped => rwa [loop.last_stopped stopped]
  | passed state item after passed induction => rwa [loop.last_passed passed]

/-- What every pass from a state with an invariant yields holds of all items. -/
theorem items_hold (Invariant : State → Prop) {Holds : Item → Prop}
    (step : ∀ state item after, Invariant state → loop.next state = some (item, after) →
      Holds item ∧ Invariant after)
    (state : State) (initial : Invariant state) : ∀ item ∈ loop.items state, Holds item := by
  induction state using loop.passes with
  | stopped state stopped => simp [loop.items_stopped stopped]
  | passed state item after passed induction =>
    obtain ⟨holds, invariant⟩ := step state item after initial passed
    rw [loop.items_passed passed]
    intro other member
    cases member with
    | head => exact holds
    | tail _ later => exact induction invariant other later

end Loop

/-! ## Filling an array -/

section Filling

variable {Element : Type u} {Value : Type v} (capacity : Nat) (select : Element → Option Value)

/-- Append what is selected, and end when the array is full. -/
def fill : List Element → List Value → List Value
  | [], array => array
  | element :: rest, array =>
    if array.length < capacity then
      match select element with
      | none => fill rest array
      | some value => fill rest (array ++ [value])
    else array

/-- The array ends up with the first values selected, as many as it has room for. -/
theorem fill_take (elements : List Element) (array : List Value)
    (fits : array.length ≤ capacity) :
    fill capacity select elements array =
      (array ++ elements.filterMap select).take capacity := by
  induction elements generalizing array with
  | nil => rw [fill, List.filterMap_nil, List.append_nil, List.take_of_length_le fits]
  | cons element rest inductionHypothesis =>
    rw [fill]
    split
    · rename_i room
      cases chosen : select element with
      | none =>
        rw [List.filterMap_cons_none chosen]
        exact inductionHypothesis array fits
      | some value =>
        have longer : (array ++ [value]).length ≤ capacity := by
          rw [List.length_append]
          exact room
        rw [List.filterMap_cons_some chosen]
        change fill capacity select rest (array ++ [value]) = _
        rw [inductionHypothesis _ longer, List.append_assoc, List.singleton_append]
    · rename_i full
      rw [List.take_append_of_le_length (Nat.not_lt.mp full), List.take_of_length_le fits]

end Filling

end PstHsm.Loops
