import Mathlib.Data.List.Basic

/-!
# Loops in which the last write wins

A loop walks a list of entries and changes a state at each of them. Seen through one
component of the state, some entries write it and the others leave it alone; after the
loop the component is what the last writing entry gives, or what it was before.

The entries, the state and the component are arbitrary.
-/

namespace PstHsm.LastWrites

universe u v w
variable {Entry : Type u} {State : Type v} {Value : Type w}

/-- The last entry that is accepted. -/
def last (accepts : Entry → Bool) (entries : List Entry) : Option Entry :=
  (entries.filter accepts).getLast?

section Entries

variable (accepts : Entry → Bool)

/-- Without entries there is no last one. -/
@[simp]
theorem last_nil : last accepts [] = none := rfl

/-- The last entry is looked for in the second part first. -/
theorem last_append (before after : List Entry) :
    last accepts (before ++ after) = (last accepts after).or (last accepts before) := by
  rw [last, List.filter_append, List.getLast?_append]
  rfl

/-- And in the first entry at the end. -/
theorem last_cons (entry : Entry) (rest : List Entry) :
    last accepts (entry :: rest) =
      (last accepts rest).or (if accepts entry then some entry else none) := by
  have single : last accepts [entry] = if accepts entry then some entry else none := by
    cases accepted : accepts entry with
    | false => simp [last, accepted]
    | true => simp [last, accepted]
  rw [← single, ← last_append]
  rfl

/-- The last accepted entry is one of the entries, and it is accepted. -/
theorem last_sound {entries : List Entry} {entry : Entry}
    (found : last accepts entries = some entry) : entry ∈ entries ∧ accepts entry = true :=
  List.mem_filter.mp (List.mem_of_getLast? found)

/-- There is none exactly when no entry is accepted. -/
theorem last_none_iff (entries : List Entry) :
    last accepts entries = none ↔ ∀ entry ∈ entries, accepts entry = false := by
  rw [last, List.getLast?_eq_none_iff, List.filter_eq_nil_iff]
  simp only [Bool.not_eq_true]

/-- The last accepted entry is the last of any narrower kind it belongs to. -/
theorem last_narrowed (narrower : Entry → Bool)
    (implied : ∀ entry, narrower entry = true → accepts entry = true) {entries : List Entry}
    {entry : Entry} (found : last accepts entries = some entry) (belongs : narrower entry = true) :
    last narrower entries = some entry := by
  induction entries with
  | nil => cases found
  | cons first rest inductionHypothesis =>
    rw [last_cons] at found ⊢
    cases later : last accepts rest with
    | some written =>
      rw [later, Option.some_or] at found
      rw [inductionHypothesis (later.trans found), Option.some_or]
    | none =>
      have none' : last narrower rest = none := by
        rw [last_none_iff] at later ⊢
        intro tested member
        exact Bool.eq_false_iff.mpr fun narrow =>
          Bool.false_ne_true ((later tested member).symm.trans (implied tested narrow))
      rw [later, Option.none_or] at found
      rw [none', Option.none_or]
      split at found
      · cases found
        rw [if_pos belongs]
      · cases found

end Entries

/-! ## Loops -/

section Loops

variable (accepts : Entry → Bool) (step : State → Entry → State) (component : State → Value)
  (value : Entry → Value)

/-- After the loop the component is what the last writing entry gives. -/
theorem fold_component
    (writes : ∀ state entry, accepts entry = true → component (step state entry) = value entry)
    (keeps : ∀ state entry, accepts entry = false →
      component (step state entry) = component state)
    (entries : List Entry) (state : State) :
    component (entries.foldl step state) =
      ((last accepts entries).map value).getD (component state) := by
  induction entries generalizing state with
  | nil => rfl
  | cons entry rest inductionHypothesis =>
    rw [List.foldl_cons, inductionHypothesis, last_cons]
    cases later : last accepts rest with
    | some written => rfl
    | none =>
      cases accepted : accepts entry with
      | true => simpa using writes state entry accepted
      | false => simpa using keeps state entry accepted

/-- The component is kept exactly when the last writing entry, if there is one, gives what
it was. -/
theorem fold_component_kept_iff
    (writes : ∀ state entry, accepts entry = true → component (step state entry) = value entry)
    (keeps : ∀ state entry, accepts entry = false →
      component (step state entry) = component state)
    (entries : List Entry) (state : State) :
    component (entries.foldl step state) = component state ↔
      ∀ entry, last accepts entries = some entry → value entry = component state := by
  rw [fold_component accepts step component value writes keeps]
  cases last accepts entries with
  | none => exact iff_of_true rfl fun _ impossible => absurd impossible.symm (Option.some_ne_none _)
  | some written =>
    constructor
    · rintro same entry ⟨⟩
      exact same
    · intro same
      exact same written rfl

/-- A component that no entry writes is kept. -/
theorem fold_component_frame
    (keeps : ∀ state entry, component (step state entry) = component state)
    (entries : List Entry) (state : State) :
    component (entries.foldl step state) = component state := by
  induction entries generalizing state with
  | nil => rfl
  | cons entry rest inductionHypothesis =>
    rw [List.foldl_cons, inductionHypothesis, keeps]

end Loops

end PstHsm.LastWrites
