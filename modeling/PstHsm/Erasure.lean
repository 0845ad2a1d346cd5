import PstHsm.Runs

/-!
# Events that can be left out

An event that leaves the state as it was could as well not have happened. Where the
answers tell which events these are, they can be taken out of a run all at once: the
others are answered as before, and the run ends in the same state.
-/

namespace PstHsm.Erasure

universe u v w
variable {State : Type u} {Event : Type v} {Answer : Type w}
variable (step : State → Event → Answer × State)

/-- The events of a run with their answers. -/
def history (state : State) : List Event → List (Event × Answer)
  | [] => []
  | event :: rest => (event, (step state event).1) :: history (step state event).2 rest

/-- The events of a history that are not idle. -/
def remaining (idle : Event → Answer → Bool) (recorded : List (Event × Answer)) :
    List (Event × Answer) :=
  recorded.filter fun pair => !idle pair.1 pair.2

theorem remaining_cons (idle : Event → Answer → Bool) (event : Event) (answer : Answer)
    (recorded : List (Event × Answer)) :
    remaining idle ((event, answer) :: recorded) =
      if idle event answer then remaining idle recorded
      else (event, answer) :: remaining idle recorded := by
  rw [remaining, List.filter_cons]
  cases idle event answer with
  | true => rfl
  | false => rfl

/-- A run without its idle events has the rest of its history and the same end. -/
theorem erased (idle : Event → Answer → Bool)
    (still : ∀ state event, idle event (step state event).1 = true → (step state event).2 = state)
    (state : State) (events : List Event) :
    history step state ((remaining idle (history step state events)).map Prod.fst) =
        remaining idle (history step state events) ∧
      Runs.run step state ((remaining idle (history step state events)).map Prod.fst) =
        Runs.run step state events := by
  induction events generalizing state with
  | nil => exact ⟨rfl, rfl⟩
  | cons event rest inductionHypothesis =>
    obtain ⟨recorded, final⟩ := inductionHypothesis (step state event).2
    rw [history, remaining_cons]
    split
    · rename_i quiet
      rw [Runs.run]
      rw [still state event quiet] at recorded final ⊢
      exact ⟨recorded, final⟩
    · rw [List.map_cons, history, Runs.run, Runs.run]
      exact ⟨congrArg _ recorded, final⟩

end PstHsm.Erasure
