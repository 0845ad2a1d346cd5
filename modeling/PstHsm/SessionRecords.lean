import PstHsm.SessionTable

/-!
# A record beside each session

What a session's fields say about its past is stated with a record beside each entry
of the session table. The record follows the calls made on that session and their
answers, and starts anew when a session is opened at the entry. One rule reduces a
property of every live session and its record, in every run, to the opening of a
session and to the calls made on it; the calls made elsewhere do not matter.
-/

namespace PstHsm

open Tables

/-- What lies at the entry of a session that is written back. -/
theorem written_back (system : System) (found : FoundSession) (slot : HsmSlot)
    (after session : HsmSession)
    (sessions : slot.sessions = put found.slot.sessions found.index (some after))
    (present : (system.withSlot found.context slot).sessions found.index = some session) :
    session = after := by
  rw [sessions_with_slot, sessions, put_self] at present
  exact (Option.some.inj present).symm

/-- A session that appears at an empty entry was opened by a successful call. -/
theorem session_appeared (sha256 : Sha256) (env : Env) (system : System) (call : Call)
    (place : Fin hsmMaxSessions) (session : HsmSession) (vacant : system.sessions place = none)
    (present : (callStep sha256 env system call).2.sessions place = some session) :
    ∃ slotID flags, call = .openSession slotID flags true ∧
      (callStep sha256 env system call).1.rv = .ok ∧
      session = freshSession system.gNextSessionHandle flags env.now := by
  have nowhere (hSession : CkSessionHandle) (context : HsmContext) (stored : HsmSession)
      (located : hsmGetSession system hSession = .ok ⟨context, place, stored⟩) : False := by
    cases vacant.symm.trans (get_session_entry system hSession _ located).1
  have fate := session_fate sha256 env system call place
  rw [present] at fate
  generalize becomes : some session = entry at fate
  cases fate with
  | kept => cases vacant.symm.trans becomes.symm
  | removed => cases becomes
  | loggedIn userType pin context stored located fresh =>
    exact (nowhere _ context stored located).elim
  | updated call context stored after located named update =>
    exact (nowhere _ context stored located).elim
  | opened slotID flags free =>
    refine ⟨slotID, flags, rfl, ?_, Option.some.inj becomes⟩
    rcases open_session_cases env system slotID flags true with
      ⟨rv, failed, same⟩ | ⟨context, index, -, -, -, -, -, -, same⟩
    · simp only [callStep, same] at present
      cases vacant.symm.trans present
    · simp only [callStep, same]

section Records

variable {Record : Type} (sha256 : Sha256)
  (next : System → Fin hsmMaxSessions → Call → Response → Record → Record)

/-- The process with a record beside each entry of its session table. -/
def recordStep : System × (Fin hsmMaxSessions → Record) → Event →
    Response × System × (Fin hsmMaxSessions → Record) :=
  Runs.traced (step sha256) fun system records event =>
    match event with
    | .call call env => fun place =>
      next system place call (callStep sha256 env system call).1 (records place)
    | .newProcess => records

variable (holds : HsmSession → Record → Prop)

/-- The property holds of every live session and its record. -/
def AllSessions (system : System) (records : Fin hsmMaxSessions → Record) : Prop :=
  ∀ place session, system.sessions place = some session → holds session (records place)

/-- What must be shown of the records: a session just opened has the property, a call on
another entry leaves the record of a live session alone, and a call on the session keeps
the property. -/
structure RecordRule : Prop where
  opened : ∀ system place slotID flags response now record, response.rv = .ok →
    system.sessions place = none →
    holds (freshSession system.gNextSessionHandle flags now)
      (next system place (.openSession slotID flags true) response record)
  elsewhere : ∀ system place call response record, system.sessions place ≠ none →
    system.actsOn call ≠ some place → next system place call response record = record
  acted : ∀ env system call hSession found session record, call.hSession = some hSession →
    hsmGetSession system hSession = .ok found →
    (callStep sha256 env system call).2.sessions found.index = some session →
    holds found.session record →
    holds session
      (next system found.index call (callStep sha256 env system call).1 record)

variable (rule : RecordRule sha256 next holds)

include rule

/-- One call keeps the property of every live session. -/
theorem records_call (env : Env) (system : System) (call : Call)
    (records : Fin hsmMaxSessions → Record) (before : AllSessions holds system records) :
    AllSessions holds (callStep sha256 env system call).2 fun place =>
      next system place call (callStep sha256 env system call).1 (records place) := by
  intro place session present
  cases earlier : system.sessions place with
  | none =>
    obtain ⟨slotID, flags, rfl, succeeded, rfl⟩ :=
      session_appeared sha256 env system call place session earlier present
    exact rule.opened system place slotID flags _ env.now (records place) succeeded earlier
  | some stored =>
    by_cases acts : system.actsOn call = some place
    · rw [System.actsOn] at acts
      split at acts
      · cases acts
      · rename_i hSession named
        split at acts
        · cases acts
        · rename_i found located
          obtain rfl := Option.some.inj acts
          apply rule.acted env system call hSession found session _ named located present
          exact before found.index found.session (get_session_entry system hSession found located).1
    · have untouched : some stored = some session := by
        rcases session_untouched sha256 env system call place stored earlier acts with
          same | ⟨-, closed⟩
        · exact same.symm.trans present
        · cases closed.symm.trans present
      obtain rfl := Option.some.inj untouched
      change holds stored (next system place call _ (records place))
      rw [rule.elsewhere system place call _ (records place) (by simp [earlier]) acts]
      exact before place stored earlier

/-- Every run keeps the property of every live session. -/
theorem records_run_from (pair : System × (Fin hsmMaxSessions → Record)) (events : List Event)
    (before : AllSessions holds pair.1 pair.2) :
    AllSessions holds (Runs.run (recordStep sha256 next) pair events).1
      (Runs.run (recordStep sha256 next) pair events).2 := by
  apply Runs.invariant_run (recordStep sha256 next) (fun pair => AllSessions holds pair.1 pair.2)
    (fun _ _ => True)
  · intro pair event before _
    cases event with
    | newProcess =>
      intro place session present
      cases present
    | call call env => exact records_call sha256 next holds rule env pair.1 call pair.2 before
  · exact before
  · exact (Runs.every_step_iff _ _ _ _).mpr fun _ _ _ _ => trivial

/-- The property holds of every live session in every run. -/
theorem records_run (system : System) (events : List Event) (booted : Booted system)
    (records : Fin hsmMaxSessions → Record) :
    AllSessions holds (Runs.run (recordStep sha256 next) (system, records) events).1
      (Runs.run (recordStep sha256 next) (system, records) events).2 := by
  apply records_run_from sha256 next holds rule
  rw [booted]
  intro place session present
  cases present

end Records

end PstHsm
