import PstHsm.KeyFiles
import PstHsm.Restarts

/-!
# Token objects across restarts

The storage has functions that list and load object files, and nothing calls
them: `C_Initialize` starts from an empty object table. A restart therefore
gives back the token objects of the past exactly when there are none. The token
objects created and never destroyed are kept beside the process, whichever
process created them, with the labels they were given since.
-/

namespace PstHsm

open Tables

/-- The object whose attributes an event sets, before and after. -/
def System.relabelled (system : System) : Event → Option (HsmObject × HsmObject)
  | .call (.setAttributeValue hSession hObject (some template)) _ =>
    match hsmGetSession system hSession with
    | .error _ => none
    | .ok found =>
      match hsmGetObject found.slot hObject with
      | .error _ => none
      | .ok (_, object) => some (object, (hsmSetAttributeValue object template).2)
  | _ => none

/-- The token objects that exist after an event, given those before it. -/
def tokensAfter (system : System) (tokens : List HsmObject) (event : Event) : List HsmObject :=
  let left :=
    match system.destroyed event with
    | none => tokens
    | some (object, _) => tokens.erase object
  let named :=
    match system.relabelled event with
    | none => left
    | some (before, after) => left.replace before after
  named ++ (system.saves event).map SaveCall.object

/-- The process with the token objects created and never destroyed. -/
def tokenStep (sha256 : Sha256) :
    System × List HsmObject → Event → Response × System × List HsmObject :=
  Runs.traced (step sha256) tokensAfter

/-- Every restart from here that succeeds leaves exactly the token objects in the
slot, each found under its handle. -/
def RestartRestores (sha256 : Sha256) (pair : System × List HsmObject) : Prop :=
  ∀ inNewProcess env after,
    (Runs.run (step sha256) pair.1 (restart inNewProcess env)).gHsmContext = some after →
    (∀ object, object ∈ live after.slot.objects ↔ object ∈ pair.2) ∧
      ∀ object ∈ pair.2, ∃ index, hsmGetObject after.slot object.handle = .ok (index, object)

/-- No object is in the slot after a restart. -/
theorem restart_empties (sha256 : Sha256) (inNewProcess : Bool) (env : Env) (system : System)
    (after : HsmContext)
    (afterwards :
      (Runs.run (step sha256) system (restart inNewProcess env)).gHsmContext = some after)
    (object : HsmObject) : object ∉ live after.slot.objects := by
  obtain ⟨fopen, storage, same⟩ :=
    restart_initializes sha256 inNewProcess env system after afterwards
  rw [same, (init_slot_tables fopen storage).2, mem_live_iff]
  rintro ⟨index, present⟩
  cases present

/-- What a restart restores is nothing. -/
theorem restart_restores_nothing (sha256 : Sha256) (pair : System × List HsmObject)
    (restores : RestartRestores sha256 pair) : pair.2 = [] := by
  obtain ⟨after, afterwards⟩ := restart_possible sha256 pair.1
  obtain ⟨exactly, -⟩ := restores true (calmEnv 1) after afterwards
  apply List.eq_nil_iff_forall_not_mem.mpr
  intro object member
  exact restart_empties sha256 true (calmEnv 1) pair.1 after afterwards object
    ((exactly object).mpr member)

/-- From every state that a run reaches, restarts restore the token objects exactly
when every token object ever created was destroyed again. -/
theorem token_objects_persist_iff (sha256 : Sha256) (system : System) (events : List Event)
    (earlier : List HsmObject) :
    RestartRestores sha256 (Runs.run (tokenStep sha256) (system, earlier) events) ↔
      (Runs.run (tokenStep sha256) (system, earlier) events).2 = [] := by
  constructor
  · exact restart_restores_nothing sha256 _
  · intro destroyed inNewProcess env after afterwards
    rw [destroyed]
    refine ⟨?_, nofun⟩
    intro object
    constructor
    · intro member
      exact absurd member (restart_empties sha256 inNewProcess env _ after afterwards object)
    · intro member
      cases member

theorem token_object_lost :
    Booted (bootProcess freshStorage) ∧
      ¬ RestartRestores pinSha256 (Runs.run (tokenStep pinSha256) (bootProcess freshStorage, [])
        (createToken objTypePrivateKey)) := by
  refine ⟨rfl, ?_⟩
  intro restores
  have none_left := restart_restores_nothing pinSha256 _ restores
  have one_left : (Runs.run (tokenStep pinSha256) (bootProcess freshStorage, [])
      (createToken objTypePrivateKey)).2.length = 1 := by
    decide +kernel
  rw [none_left] at one_left
  cases one_left

end PstHsm
