import PstHsm.Runs

/-!
# What one client sees of a shared machine

Some events of a run are a client's own. Two states are the same to the client when its
own events are answered alike from both and lead to states that are the same again. If no
other event makes a difference to it, then the answers that the client gets in a run are
those it gets when its events are the only ones, in whatever order the others come.
-/

namespace PstHsm.Isolation

universe u v w
variable {State : Type u} {Event : Type v} {Answer : Type w}
variable (step : State → Event → Answer × State) (own : Event → Bool)

/-- The answers to the client's events, in order. -/
def answersTo (state : State) : List Event → List Answer
  | [] => []
  | event :: rest =>
    if own event then (step state event).1 :: answersTo (step state event).2 rest
    else answersTo (step state event).2 rest

/-- The client's own events keep states the same to it, and the others leave every state
the same as it was. -/
structure Isolated (same : State → State → Prop) (admitted : Event → Prop) : Prop where
  answered : ∀ state state' event, admitted event → own event = true → same state state' →
    (step state event).1 = (step state' event).1 ∧ same (step state event).2 (step state' event).2
  untouched : ∀ state state' event, admitted event → own event = false → same state state' →
    same (step state event).2 state'

/-- In a run of many an isolated client is answered as if it were alone, and the state at
the end is the same to it. -/
theorem alone {same : State → State → Prop} {admitted : Event → Prop}
    (isolated : Isolated step own same admitted) (state state' : State) (events : List Event)
    (initially : same state state') (each : ∀ event ∈ events, admitted event) :
    answersTo step own state events = Runs.answers step state' (events.filter own) ∧
      same (Runs.run step state events) (Runs.run step state' (events.filter own)) := by
  induction events generalizing state state' with
  | nil => exact ⟨rfl, initially⟩
  | cons event rest inductionHypothesis =>
    have first := each event List.mem_cons_self
    have later : ∀ other ∈ rest, admitted other :=
      fun other member => each other (List.mem_cons_of_mem event member)
    cases mine : own event with
    | true =>
      obtain ⟨agreed, next⟩ := isolated.answered state state' event first mine initially
      obtain ⟨agreedLater, final⟩ := inductionHypothesis _ _ next later
      rw [List.filter_cons_of_pos mine]
      exact ⟨by rw [answersTo, if_pos mine, agreed, agreedLater, Runs.answers], final⟩
    | false =>
      have next := isolated.untouched state state' event first mine initially
      obtain ⟨agreedLater, final⟩ := inductionHypothesis _ _ next later
      have theirs : ¬ own event = true := by
        rw [mine]
        exact Bool.false_ne_true
      rw [List.filter_cons_of_neg theirs]
      exact ⟨by rw [answersTo, if_neg theirs, agreedLater], final⟩

end PstHsm.Isolation
