import PstHsm.LockDiscipline
import PstHsm.LockOrder

/-!
# Deadlocks

Calls of several threads interleave at their mutex operations. All of them lock in one
order: the global lock, the lock of a session, the lock of the slot, a handle lock. What a
call finds in the tables decides only which of its return paths it takes, so each call
stands here with the state that its branches saw, whatever the others did meanwhile.

Threads that keep the order finish in every interleaving, as long as none closes a session
that another one's calls use: the lock of a session is destroyed and freed with it. The
closing loop under the lock of the slot does not keep the order: a thread that runs into an
open session there waits for itself, and every thread that needs the slot waits with it for
ever.

The lock of a session is named by the entry of the table, so that a new session's lock
counts as the one before it. Calls of `C_Initialize` and `C_Finalize`, which must not
overlap with others, are left out.
-/

namespace PstHsm

open Tables Mutexes LockOrder

section Calls

variable (sha256 : Sha256) (env : Env) (system : System)

end Calls

/-! ## Calls of several threads -/

/-- A call with what it finds: the surroundings and the state that its branches see. -/
structure Passage where
  call : Call
  env : Env
  system : System

/-- The mutex operations of the call, in order. -/
def Passage.ops (sha256 : Sha256) (passage : Passage) : List (Op LockName) :=
  (Locked.callStep sha256 passage.env passage.system passage.call).ops

/-- The call runs the closing loop under the lock of the slot and finds a session open. -/
def Passage.closesOpen (passage : Passage) : Prop :=
  passage.call.closesUnderLock ∧ ∃ index, passage.system.sessions index ≠ none

section Closing

variable (sha256 : Sha256) (env : Env) (system : System)

/-- The closing loop inside the lock of the slot. -/
def closingOps (system : System) : List (Op LockName) :=
  .lock .slotLock :: ((Locked.closeSessions system).ops ++ [.unlock .slotLock])

/-- A call that closes under the lock of the slot does so where the library is initialized. -/
theorem closing_call_ops (call : Call) (closes : call.closesUnderLock) (context : HsmContext)
    (present : system.gHsmContext = some context) :
    (Locked.callStep sha256 env system call).ops = closingOps system := by
  cases call with
  | closeAllSessions slotID =>
    simp only [Locked.callStep, Locked.cCloseAllSessions, present,
      if_neg (Nat.not_le_of_lt closes), bind_ops, lock_ops, unlock_ops, pure_ops,
      List.append_nil, List.cons_append, List.nil_append, closingOps]
  | initToken slotID pPin pLabel =>
    cases pPin with
    | none => exact closes.elim
    | some pin =>
      cases pLabel with
      | none => exact closes.elim
      | some label =>
        obtain ⟨longEnough, shortEnough, valid⟩ := closes
        exact (List.append_nil _).trans (init_token_ops sha256 env system slotID pin label context
          present valid longEnough shortEnough)
  | _ => exact closes.elim

/-- Where a session is open the loop locks the slot a second time. -/
theorem closing_open_ops (index : Fin hsmMaxSessions) (occupied : system.sessions index ≠ none) :
    ∃ later, closingOps system = .lock .slotLock :: .lock .slotLock :: later := by
  cases present : system.gHsmContext with
  | none =>
    rw [sessions_absent system present] at occupied
    exact absurd rfl occupied
  | some context =>
    rw [sessions_present system context present] at occupied
    obtain ⟨session, lies⟩ := Option.ne_none_iff_exists'.mp occupied
    obtain ⟨later, locks⟩ := close_sessions_locks system (List.finRange hsmMaxSessions) context
      present index session (List.mem_finRange index) lies
    exact ⟨later ++ [.unlock .slotLock], by rw [closingOps, Locked.closeSessions, locks]; rfl⟩

end Closing

/-! ## Interleavings -/

section Interleavings

variable {κ : Type} [DecidableEq κ] (sha256 : Sha256)

/-- The threads of a process before the first step, each with the calls it makes. -/
def callingThreads (programs : κ → List Passage) : Threads κ LockName :=
  Threads.start fun thread => ((programs thread).map (Passage.ops sha256)).flatten

/-- A call that closes an open session under the lock of the slot locks the slot twice. -/
theorem closes_open_ops (passage : Passage) (closes : passage.closesOpen) :
    ∃ inner, passage.ops sha256 = .lock .slotLock :: .lock .slotLock :: inner := by
  obtain ⟨runs, index, occupied⟩ := closes
  obtain ⟨inner, locksTwice⟩ := closing_open_ops passage.system index occupied
  cases present : passage.system.gHsmContext with
  | none =>
    rw [sessions_absent _ present] at occupied
    exact absurd rfl occupied
  | some context =>
    refine ⟨inner, ?_⟩
    rw [Passage.ops, closing_call_ops sha256 _ _ _ runs context present, locksTwice]

/-- A thread that calls `C_CloseAllSessions` or `C_InitToken` and finds a session open there
never returns once it has started: from its first step on it stays inside the call and
keeps the lock of the slot, and every thread that has this lock still to take stays
unfinished with it. -/
theorem closing_thread_hangs (threads reached final : Threads κ LockName) (thread : κ)
    (passage : Passage) (closes : passage.closesOpen) (rest : List (Op LockName))
    (left : threads.pending thread = passage.ops sha256 ++ rest) (schedule later : List κ)
    (moved : thread ∈ schedule) (followed : threads.follow schedule = some reached)
    (continued : reached.follow later = some final) :
    final.pending thread = (passage.ops sha256).tail ++ rest ∧
      final.owner .slotLock = some thread ∧
      ∀ other, .lock .slotLock ∈ reached.pending other →
        .lock .slotLock ∈ final.pending other := by
  obtain ⟨inner, ops⟩ := closes_open_ops sha256 passage closes
  obtain ⟨before, further, between, entered, -, kept, advanced, onward⟩ :=
    first_step schedule thread moved followed
  have inside : entered.pending thread = .lock .slotLock :: (inner ++ rest) ∧
      entered.owner .slotLock = some thread := by
    rw [left, ops] at kept
    obtain ⟨op, remaining, left', pending, -, change⟩ := Threads.advance_cases advanced
    cases kept.symm.trans left'
    rw [pending, Function.update_self]
    refine ⟨rfl, ?_⟩
    rcases change with ⟨mutex, locks, -, owner⟩ | ⟨mutex, unlocks, -⟩ |
      ⟨⟨mutex, creates | destroys⟩, -⟩
    · cases locks
      rw [owner, Function.update_self]
    · cases unlocks
    · cases creates
    · cases destroys
  obtain ⟨stuck, owns⟩ :=
    relocking_waits further thread .slotLock (inner ++ rest) inside.1 inside.2 onward
  obtain ⟨stuckStill, ownsStill⟩ :=
    relocking_waits later thread .slotLock (inner ++ rest) stuck owns continued
  refine ⟨?_, ownsStill, fun other needs => ?_⟩
  · rw [stuckStill, ops]
    rfl
  · exact relocking_blocks later thread other .slotLock (inner ++ rest) stuck owns needs continued

end Interleavings

/-- The call that closes every session, with one open. -/
def closingCall : Passage := ⟨.closeAllSessions 0, calmEnv 1, oneSession⟩

/-- It hangs after its first step, whatever the other thread does. -/
theorem closing_call_hangs :
    ∃ reached, (callingThreads pinSha256 fun _ : Fin 2 => [closingCall]).follow [0] =
        some reached ∧
      reached.pending 0 = (closingCall.ops pinSha256).tail ++ [] ∧
      reached.owner .slotLock = some 0 := by
  have opened : (oneSession.sessions ⟨0, by decide⟩).isSome = true := by decide +kernel
  have occupied : oneSession.sessions ⟨0, by decide⟩ ≠ none := by
    intro vacant
    rw [vacant] at opened
    cases opened
  have closes : closingCall.closesOpen := ⟨(by decide : (0 : Nat) < slotCount), _, occupied⟩
  have pending : (callingThreads pinSha256 fun _ : Fin 2 => [closingCall]).pending 0 =
      closingCall.ops pinSha256 ++ [] := rfl
  obtain ⟨inner, ops⟩ := closes_open_ops pinSha256 closingCall closes
  obtain ⟨reached, advanced⟩ : ∃ reached,
      (callingThreads pinSha256 fun _ : Fin 2 => [closingCall]).advance 0 = some reached :=
    ⟨_, Threads.advance_lock _ 0 .slotLock (.lock .slotLock :: (inner ++ []))
      (by rw [pending, ops]; rfl) rfl rfl⟩
  have followed : (callingThreads pinSha256 fun _ : Fin 2 => [closingCall]).follow [0] =
      some reached := by
    rw [Threads.follow, advanced]
    rfl
  obtain ⟨stuck, owns, -⟩ := closing_thread_hangs pinSha256 _ reached reached 0 closingCall closes
    [] pending [0] [] (List.mem_singleton_self 0) followed rfl
  exact ⟨reached, followed, stuck, owns⟩

end PstHsm
