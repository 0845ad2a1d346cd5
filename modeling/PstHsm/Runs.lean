import Mathlib.Data.List.Forall2

/-!
# Runs of deterministic machines

A machine answers each event and moves to its next state. Nondeterminism, such
as the outcome of a system call, belongs to the event, so a list of events
determines a run. Whole-run statements follow from facts about single steps: an
invariant kept by every admitted step holds throughout, and two machines kept
in relation by matching steps stay related.

Nothing is assumed about the state, the events or the answers.
-/

namespace PstHsm.Runs

universe u v w
variable {State : Type u} {Event : Type v} {Answer : Type w}
variable (step : State → Event → Answer × State)

/-- The state after all events, in order. -/
def run (state : State) : List Event → State
  | [] => state
  | event :: rest => run (step state event).2 rest

/-- A property of a state and the event taken there, at every step of a run. -/
def EveryStep (property : State → Event → Prop) (state : State) : List Event → Prop
  | [] => True
  | event :: rest => property state event ∧ EveryStep property (step state event).2 rest

/-- Some run from an initial state ends in the given state. -/
def Reachable (initial : State → Prop) (state : State) : Prop :=
  ∃ start events, initial start ∧ run step start events = state

instance everyStepDecidable (property : State → Event → Prop)
    [decide : ∀ state event, Decidable (property state event)] :
    ∀ (state : State) (events : List Event), Decidable (EveryStep step property state events)
  | _, [] => isTrue trivial
  | state, event :: rest =>
    have := everyStepDecidable property (step state event).2 rest
    inferInstanceAs (Decidable (_ ∧ _))

/-- A run in two parts. -/
theorem run_append (state : State) (before after : List Event) :
    run step state (before ++ after) = run step (run step state before) after := by
  induction before generalizing state with
  | nil => rfl
  | cons event rest inductionHypothesis => exact inductionHypothesis (step state event).2

/-- A run and one event more. -/
theorem run_snoc (state : State) (before : List Event) (event : Event) :
    run step state (before ++ [event]) = (step (run step state before) event).2 := by
  rw [run_append]
  rfl

/-- A run is a fold over its events. -/
theorem run_foldl (state : State) (events : List Event) :
    run step state events = events.foldl (fun now event => (step now event).2) state := by
  induction events generalizing state with
  | nil => rfl
  | cons event rest inductionHypothesis => exact inductionHypothesis _

/-- What holds at every step of a run holds at every step of both parts. -/
theorem every_step_append (property : State → Event → Prop) (state : State)
    (before after : List Event) :
    EveryStep step property state (before ++ after) ↔
      EveryStep step property state before ∧
        EveryStep step property (run step state before) after := by
  induction before generalizing state with
  | nil => simp [EveryStep, run]
  | cons event rest inductionHypothesis =>
    simp only [List.cons_append, EveryStep, run, inductionHypothesis, and_assoc]

/-- Every step of a run has the property exactly when the property holds of each
event in the state that the events before it produce. -/
theorem every_step_iff (property : State → Event → Prop) (state : State) (events : List Event) :
    EveryStep step property state events ↔
      ∀ before event after, events = before ++ event :: after →
        property (run step state before) event := by
  constructor
  · intro every before event after split
    rw [split, every_step_append] at every
    exact every.2.1
  · intro each
    induction events generalizing state with
    | nil => trivial
    | cons event rest inductionHypothesis =>
      refine ⟨each [] event rest rfl, inductionHypothesis (step state event).2 ?_⟩
      intro before later after split
      exact each (event :: before) later after (by rw [split]; rfl)

/-- What follows at each step follows at every step. -/
theorem every_step_mono (weaker stronger : State → Event → Prop) (state : State)
    (events : List Event) (implied : ∀ s e, stronger s e → weaker s e)
    (every : EveryStep step stronger state events) : EveryStep step weaker state events := by
  induction events generalizing state with
  | nil => trivial
  | cons event rest inductionHypothesis =>
    exact ⟨implied state event every.1, inductionHypothesis _ every.2⟩

/-- What holds of every step and what else holds of every step hold together. -/
theorem every_step_and (left right : State → Event → Prop) (state : State) (events : List Event)
    (everyLeft : EveryStep step left state events)
    (everyRight : EveryStep step right state events) :
    EveryStep step (fun s e => left s e ∧ right s e) state events := by
  induction events generalizing state with
  | nil => trivial
  | cons event rest inductionHypothesis =>
    exact ⟨⟨everyLeft.1, everyRight.1⟩, inductionHypothesis _ everyLeft.2 everyRight.2⟩

/-- The invariant rule: what every admitted step keeps holds after an admitted run. -/
theorem invariant_run (invariant : State → Prop) (admitted : State → Event → Prop)
    (kept : ∀ s e, invariant s → admitted s e → invariant (step s e).2)
    (state : State) (events : List Event) (initially : invariant state)
    (every : EveryStep step admitted state events) : invariant (run step state events) := by
  induction events generalizing state with
  | nil => exact initially
  | cons event rest inductionHypothesis =>
    exact inductionHypothesis _ (kept state event initially every.1) every.2

/-- A step property that the invariant implies holds at every step of an admitted run. -/
theorem every_step_of_invariant (invariant : State → Prop)
    (admitted property : State → Event → Prop)
    (kept : ∀ s e, invariant s → admitted s e → invariant (step s e).2)
    (implied : ∀ s e, invariant s → admitted s e → property s e)
    (state : State) (events : List Event) (initially : invariant state)
    (every : EveryStep step admitted state events) : EveryStep step property state events := by
  induction events generalizing state with
  | nil => trivial
  | cons event rest inductionHypothesis =>
    exact ⟨implied state event initially every.1,
      inductionHypothesis _ (kept state event initially every.1) every.2⟩

/-- An invariant that every step keeps holds of every reachable state. -/
theorem invariant_reachable (initial invariant : State → Prop)
    (initially : ∀ s, initial s → invariant s)
    (kept : ∀ s e, invariant s → invariant (step s e).2)
    (state : State) (reached : Reachable step initial state) : invariant state := by
  obtain ⟨start, events, starts, rfl⟩ := reached
  apply invariant_run step invariant (fun _ _ => True) (fun s e holds _ => kept s e holds)
  · exact initially start starts
  · exact (every_step_iff step _ start events).mpr (fun _ _ _ _ => trivial)

/-- A property of every state that a run passes, the first and the last included. -/
def Throughout (property : State → Prop) (state : State) : List Event → Prop
  | [] => property state
  | event :: rest => property state ∧ Throughout property (step state event).2 rest

/-- What holds throughout a run and at the end of one event more. -/
theorem throughout_snoc (property : State → Prop) (state : State) (events : List Event)
    (event : Event) (always : Throughout step property state events)
    (last : property (run step state (events ++ [event]))) :
    Throughout step property state (events ++ [event]) := by
  induction events generalizing state with
  | nil => exact ⟨always, last⟩
  | cons first rest inductionHypothesis =>
    exact ⟨always.1, inductionHypothesis (step state first).2 always.2 last⟩

/-- What holds throughout holds in the end. -/
theorem throughout_last (property : State → Prop) (state : State) (events : List Event)
    (always : Throughout step property state events) : property (run step state events) := by
  induction events generalizing state with
  | nil => exact always
  | cons first rest inductionHypothesis => exact inductionHypothesis _ always.2

/-- And throughout the first part. -/
theorem throughout_prefix (property : State → Prop) (state : State) (before after : List Event)
    (always : Throughout step property state (before ++ after)) :
    Throughout step property state before := by
  induction before generalizing state with
  | nil =>
    cases after with
    | nil => exact always
    | cons event rest => exact always.1
  | cons event rest inductionHypothesis =>
    exact ⟨always.1, inductionHypothesis (step state event).2 always.2⟩

/-- What follows in each state follows throughout. -/
theorem throughout_mono (weaker stronger : State → Prop) (state : State) (events : List Event)
    (implied : ∀ s, stronger s → weaker s) (always : Throughout step stronger state events) :
    Throughout step weaker state events := by
  induction events generalizing state with
  | nil => exact implied state always
  | cons event rest inductionHypothesis =>
    exact ⟨implied state always.1, inductionHypothesis _ always.2⟩

/-- Of two places in one run the earlier one lies in the events before the later one. -/
theorem split_earlier (before rest before' rest' : List Event) (event event' : Event)
    (same : before ++ event :: rest = before' ++ event' :: rest')
    (earlier : before.length < before'.length) :
    ∃ middle, before' = before ++ event :: middle ∧ rest = middle ++ event' :: rest' := by
  rcases List.append_eq_append_iff.mp same with ⟨suffix, longer, tail⟩ | ⟨suffix, shorter, -⟩
  · cases suffix with
    | nil => simp [longer] at earlier
    | cons first middle =>
      obtain ⟨rfl, split⟩ := List.cons.inj tail
      exact ⟨middle, longer, split⟩
  · rw [shorter, List.length_append] at earlier
    omega

/-- Every step of a run and one more. -/
theorem every_step_snoc (property : State → Event → Prop) (state : State) (events : List Event)
    (event : Event) (every : EveryStep step property state events)
    (last : property (run step state events) event) :
    EveryStep step property state (events ++ [event]) :=
  (every_step_append step property state events [event]).mpr ⟨every, last, trivial⟩

/-! ## A record beside the machine -/

section Traced

variable {Record : Type u} (next : State → Record → Event → Record)

/-- The machine with a record of what happened, which it never looks at. -/
def traced (pair : State × Record) (event : Event) : Answer × State × Record :=
  ((step pair.1 event).1, (step pair.1 event).2, next pair.1 pair.2 event)

/-- The record does not disturb the machine. -/
theorem traced_run (state : State) (record : Record) (events : List Event) :
    (run (traced step next) (state, record) events).1 = run step state events := by
  induction events generalizing state record with
  | nil => rfl
  | cons event rest inductionHypothesis =>
    exact inductionHypothesis (step state event).2 (next state record event)

/-- What the record says at every step may be used to say something of the machine
at every step. -/
theorem every_step_traced (invariant : State × Record → Prop)
    (recorded : State × Record → Event → Prop) (property : State → Event → Prop)
    (kept : ∀ pair event, invariant pair → recorded pair event →
      invariant (traced step next pair event).2)
    (implied : ∀ pair event, invariant pair → recorded pair event → property pair.1 event)
    (state : State) (record : Record) (events : List Event) (initially : invariant (state, record))
    (every : EveryStep (traced step next) recorded (state, record) events) :
    EveryStep step property state events := by
  induction events generalizing state record with
  | nil => trivial
  | cons event rest inductionHypothesis =>
    refine ⟨implied (state, record) event initially every.1, ?_⟩
    exact inductionHypothesis (step state event).2 (next state record event)
      (kept (state, record) event initially every.1) every.2

/-- Where the record keeps an invariant under which it says at each step what the property
says, the two hold of the same runs. -/
theorem every_step_traced_iff (invariant : State × Record → Prop)
    (recorded : State × Record → Event → Prop) (property : State → Event → Prop)
    (kept : ∀ pair event, invariant pair → invariant (traced step next pair event).2)
    (same : ∀ pair event, invariant pair → (property pair.1 event ↔ recorded pair event))
    (state : State) (record : Record) (events : List Event)
    (initially : invariant (state, record)) :
    EveryStep step property state events ↔
      EveryStep (traced step next) recorded (state, record) events := by
  induction events generalizing state record with
  | nil => exact Iff.rfl
  | cons event rest inductionHypothesis =>
    exact and_congr (same (state, record) event initially)
      (inductionHypothesis (step state event).2 (next state record event)
        (kept (state, record) event initially))

end Traced

/-- The answers of a run, in order. -/
def answers (state : State) : List Event → List Answer
  | [] => []
  | event :: rest => (step state event).1 :: answers (step state event).2 rest

/-- Two runs over pairwise matching events stay related, and their answers agree
pairwise, when one matching step keeps the relation. -/
theorem lockstep {State' : Type u} {Event' : Type v} {Answer' : Type w}
    (step' : State' → Event' → Answer' × State')
    (related : State → State' → Prop) (matching : Event → Event' → Prop)
    (agree : Event → Answer → Answer' → Prop)
    (kept : ∀ s s' e e', related s s' → matching e e' →
      agree e (step s e).1 (step' s' e').1 ∧ related (step s e).2 (step' s' e').2)
    (state : State) (state' : State') (events : List Event) (events' : List Event')
    (initially : related state state') (pairwise : List.Forall₂ matching events events') :
    List.Forall₂ (fun event pair => agree event pair.1 pair.2) events
        ((answers step state events).zip (answers step' state' events')) ∧
      related (run step state events) (run step' state' events') := by
  induction pairwise generalizing state state' with
  | nil => exact ⟨.nil, initially⟩
  | cons same rest inductionHypothesis =>
    obtain ⟨agreed, next⟩ := kept state state' _ _ initially same
    obtain ⟨agreedLater, final⟩ := inductionHypothesis _ _ next
    exact ⟨.cons agreed agreedLater, final⟩

end PstHsm.Runs
