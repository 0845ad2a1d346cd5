import Mathlib.Logic.Function.Basic
import Mathlib.Data.List.Basic

/-!
# Mutexes of one thread

A mutex is free, held or destroyed. Locking needs it free, unlocking needs it held, and
neither creating nor destroying it is allowed while it is held. A computation is
traced with the operations it performs, in order; the operations of a run of the
computation are carried out one after the other, and the first one that is not
allowed ends it.

Operations that bring every mutex back are balanced: nothing, one balanced part after
another, and a balanced part inside a lock and an unlock of a mutex that it leaves
alone.
-/

namespace PstHsm.Mutexes

universe u
variable {ι : Type} {α β : Type u}

/-- What can be said of a mutex. -/
inductive Status where
  | free
  | held
  | destroyed
  deriving DecidableEq

/-- What a program does with a mutex. -/
inductive Op (ι : Type) where
  | lock (mutex : ι)
  | unlock (mutex : ι)
  | init (mutex : ι)
  | destroy (mutex : ι)
  deriving DecidableEq

/-! ## Carrying out operations -/

section Performing

variable [DecidableEq ι]

/-- One operation on the mutexes. -/
def Op.perform (mutexes : ι → Status) : Op ι → Option (ι → Status)
  | .lock mutex =>
    if mutexes mutex = .free then some (Function.update mutexes mutex .held) else none
  | .unlock mutex =>
    if mutexes mutex = .held then some (Function.update mutexes mutex .free) else none
  | .init mutex =>
    if mutexes mutex = .held then none else some (Function.update mutexes mutex .free)
  | .destroy mutex =>
    if mutexes mutex = .held then none else some (Function.update mutexes mutex .destroyed)

/-- Operations in order, up to the first that is not allowed. -/
def performs (mutexes : ι → Status) : List (Op ι) → Option (ι → Status)
  | [] => some mutexes
  | op :: rest => (op.perform mutexes).bind fun after => performs after rest

/-- Doing nothing leaves the mutexes as they are. -/
@[simp]
theorem performs_nil (mutexes : ι → Status) : performs mutexes [] = some mutexes := rfl

/-- The second operations start where the first ones end. -/
theorem performs_append (mutexes : ι → Status) (first second : List (Op ι)) :
    performs mutexes (first ++ second) =
      (performs mutexes first).bind fun after => performs after second := by
  induction first generalizing mutexes with
  | nil => rfl
  | cons op rest inductionHypothesis =>
    simp only [List.cons_append, performs, Option.bind_assoc]
    exact congrArg _ (funext fun after => inductionHypothesis after)

/-- A free mutex is held once it is locked. -/
theorem performs_lock (mutexes : ι → Status) (mutex : ι) (rest : List (Op ι))
    (free : mutexes mutex = .free) :
    performs mutexes (.lock mutex :: rest) =
      performs (Function.update mutexes mutex .held) rest := by
  simp [performs, Op.perform, free]

/-- A held mutex is free once it is unlocked. -/
theorem performs_unlock (mutexes : ι → Status) (mutex : ι) (rest : List (Op ι))
    (held : mutexes mutex = .held) :
    performs mutexes (.unlock mutex :: rest) =
      performs (Function.update mutexes mutex .free) rest := by
  simp [performs, Op.perform, held]

/-- A mutex that nobody holds is free once it is initialized. -/
theorem performs_init (mutexes : ι → Status) (mutex : ι) (rest : List (Op ι))
    (unheld : mutexes mutex ≠ .held) :
    performs mutexes (.init mutex :: rest) =
      performs (Function.update mutexes mutex .free) rest := by
  simp [performs, Op.perform, unheld]

/-- A mutex that nobody holds can be destroyed. -/
theorem performs_destroy (mutexes : ι → Status) (mutex : ι) (rest : List (Op ι))
    (unheld : mutexes mutex ≠ .held) :
    performs mutexes (.destroy mutex :: rest) =
      performs (Function.update mutexes mutex .destroyed) rest := by
  simp [performs, Op.perform, unheld]

/-- A mutex that is held or destroyed cannot be locked. -/
theorem locking_fails (mutexes : ι → Status) (mutex : ι) (rest : List (Op ι))
    (unfree : mutexes mutex ≠ .free) : performs mutexes (.lock mutex :: rest) = none := by
  simp [performs, Op.perform, unfree]

/-- A mutex cannot be locked twice in a row. -/
theorem relocking_fails (mutexes : ι → Status) (mutex : ι) (rest : List (Op ι)) :
    performs mutexes (.lock mutex :: .lock mutex :: rest) = none := by
  by_cases free : mutexes mutex = .free
  · rw [performs_lock mutexes mutex _ free]
    apply locking_fails
    rw [Function.update_self]
    decide
  · exact locking_fails mutexes mutex _ free

/-- A mutex cannot be created anew under its own lock. -/
theorem recreating_fails (mutexes : ι → Status) (mutex : ι) (rest : List (Op ι)) :
    performs mutexes (.lock mutex :: .init mutex :: rest) = none := by
  by_cases free : mutexes mutex = .free
  · rw [performs_lock mutexes mutex _ free]
    simp [performs, Op.perform]
  · exact locking_fails mutexes mutex _ free

/-- A change of one mutex under the lock of another. -/
theorem changed_under_lock (mutexes : ι → Status) (outer mutex : ι) (status : Status)
    (different : mutex ≠ outer) (free : mutexes outer = .free) :
    Function.update (Function.update (Function.update mutexes outer .held) mutex status) outer
      .free = Function.update mutexes mutex status := by
  rw [Function.update_comm different, Function.update_idem, ← free, Function.update_eq_self]

/-! ## Balanced operations -/

/-- Wherever the given mutexes are free the operations succeed and change nothing. -/
def Balanced (available : ι → Prop) (ops : List (Op ι)) : Prop :=
  ∀ mutexes : ι → Status, (∀ mutex, available mutex → mutexes mutex = .free) →
    performs mutexes ops = some mutexes

/-- No operations are balanced. -/
theorem balanced_nil (available : ι → Prop) : Balanced available [] := fun _ _ => rfl

/-- One balanced part after another. -/
theorem balanced_append (available : ι → Prop) (first second : List (Op ι))
    (one : Balanced available first) (two : Balanced available second) :
    Balanced available (first ++ second) := by
  intro mutexes free
  rw [performs_append, one mutexes free]
  exact two mutexes free

/-- A balanced part between a lock and an unlock of another mutex. -/
theorem balanced_section (available : ι → Prop) (mutex : ι) (inner : List (Op ι))
    (lockable : available mutex)
    (balanced : Balanced (fun other => available other ∧ other ≠ mutex) inner) :
    Balanced available (.lock mutex :: inner ++ [.unlock mutex]) := by
  intro mutexes free
  have others : ∀ other, available other ∧ other ≠ mutex →
      Function.update mutexes mutex Status.held other = .free := by
    rintro other ⟨lockableToo, different⟩
    rw [Function.update_of_ne different]
    exact free other lockableToo
  rw [List.cons_append, performs_lock mutexes mutex _ (free mutex lockable), performs_append,
    balanced _ others, Option.bind_some,
    performs_unlock _ mutex _ (Function.update_self mutex _ mutexes), performs_nil,
    Function.update_idem, ← free mutex lockable, Function.update_eq_self]

/-- A lock and an unlock with nothing between them. -/
theorem balanced_alone (available : ι → Prop) (mutex : ι) (lockable : available mutex) :
    Balanced available [.lock mutex, .unlock mutex] :=
  balanced_section available mutex [] lockable (balanced_nil _)

/-- Two mutexes locked one inside the other. -/
theorem balanced_nested (available : ι → Prop) (outer inner : ι) (lockable : available outer)
    (lockableToo : available inner) (different : inner ≠ outer) :
    Balanced available [.lock outer, .lock inner, .unlock inner, .unlock outer] :=
  balanced_section available outer [.lock inner, .unlock inner] lockable
    (balanced_alone _ inner ⟨lockableToo, different⟩)

end Performing

/-! ## Traced computations -/

/-- A value, with the operations performed on the way to it. -/
structure Traced (ι : Type) (α : Type u) where
  ops : List (Op ι)
  value : α

instance : Monad (Traced ι) where
  pure value := ⟨[], value⟩
  bind first next := ⟨first.ops ++ (next first.value).ops, (next first.value).value⟩

/-- Lock a mutex. -/
def lock (mutex : ι) : Traced ι PUnit := ⟨[.lock mutex], .unit⟩

/-- Unlock a mutex. -/
def unlock (mutex : ι) : Traced ι PUnit := ⟨[.unlock mutex], .unit⟩

/-- Initialize a mutex. -/
def init (mutex : ι) : Traced ι PUnit := ⟨[.init mutex], .unit⟩

/-- Destroy a mutex. -/
def destroy (mutex : ι) : Traced ι PUnit := ⟨[.destroy mutex], .unit⟩

/-- A value alone does nothing with a mutex. -/
@[simp] theorem pure_ops (value : α) : (pure value : Traced ι α).ops = [] := rfl

/-- Its value is that value. -/
@[simp] theorem pure_value (value : α) : (pure value : Traced ι α).value = value := rfl

/-- The operations of two programs one after the other. -/
@[simp]
theorem bind_ops (first : Traced ι α) (next : α → Traced ι β) :
    (first >>= next).ops = first.ops ++ (next first.value).ops := rfl

/-- The second program starts with the value of the first. -/
@[simp]
theorem bind_value (first : Traced ι α) (next : α → Traced ι β) :
    (first >>= next).value = (next first.value).value := rfl

/-- Locking is one operation. -/
@[simp] theorem lock_ops (mutex : ι) : (lock mutex).ops = [.lock mutex] := rfl

/-- Unlocking is one operation. -/
@[simp] theorem unlock_ops (mutex : ι) : (unlock mutex).ops = [.unlock mutex] := rfl

/-- Initializing is one operation. -/
@[simp] theorem init_ops (mutex : ι) : (init mutex).ops = [.init mutex] := rfl

/-- Destroying is one operation. -/
@[simp] theorem destroy_ops (mutex : ι) : (destroy mutex).ops = [.destroy mutex] := rfl

/-- A loop has the value of the loop over the values of its turns. -/
theorem fold_value {σ : Type u} {ε : Type} (turn : σ → ε → Traced ι σ)
    (plain : σ → ε → σ) (same : ∀ state entry, (turn state entry).value = plain state entry)
    (entries : List ε) (state : σ) :
    (entries.foldlM turn state).value = entries.foldl plain state := by
  induction entries generalizing state with
  | nil => rfl
  | cons entry rest inductionHypothesis =>
    rw [List.foldlM_cons, bind_value, List.foldl_cons, same]
    exact inductionHypothesis (plain state entry)

/-! ## Disciplined computations -/

section Disciplined

variable [DecidableEq ι] (available : ι → Prop) (before : List (Op ι))

/-- A computation that follows some operations has the value it has untraced, and with
them its operations are balanced. -/
structure Disciplined (computation : Traced ι α) (untraced : α) : Prop where
  value : computation.value = untraced
  balanced : Balanced available (before ++ computation.ops)

/-- A computation that ends here. -/
theorem disciplined_return (value : α) (balanced : Balanced available before) :
    Disciplined available before (pure value) value :=
  ⟨rfl, (List.append_nil before).symm ▸ balanced⟩

/-- A computation that goes on with a lock. -/
theorem disciplined_lock (mutex : ι) (next : PUnit → Traced ι α) (untraced : α)
    (disciplined : Disciplined available (before ++ [.lock mutex]) (next .unit) untraced) :
    Disciplined available before (lock mutex >>= next) untraced := by
  obtain ⟨value, balanced⟩ := disciplined
  rw [List.append_assoc] at balanced
  exact ⟨value, balanced⟩

/-- A computation that goes on with an unlock. -/
theorem disciplined_unlock (mutex : ι) (next : PUnit → Traced ι α) (untraced : α)
    (disciplined : Disciplined available (before ++ [.unlock mutex]) (next .unit) untraced) :
    Disciplined available before (unlock mutex >>= next) untraced := by
  obtain ⟨value, balanced⟩ := disciplined
  rw [List.append_assoc] at balanced
  exact ⟨value, balanced⟩

/-- A computation that ends with the release of the only mutex it holds. -/
theorem disciplined_release (mutex : ι) (value : α) (balanced : Balanced available
      [.lock mutex, .unlock mutex]) :
    Disciplined available [.lock mutex] (unlock mutex >>= fun _ => pure value) value :=
  disciplined_unlock available _ mutex _ value (disciplined_return available _ value balanced)

/-- A computation that ends with the release of two mutexes, the inner one first. -/
theorem disciplined_release_both (outer inner : ι) (value : α) (balanced : Balanced available
      [.lock outer, .lock inner, .unlock inner, .unlock outer]) :
    Disciplined available [.lock outer, .lock inner]
      (unlock inner >>= fun _ => unlock outer >>= fun _ => pure value) value :=
  disciplined_unlock available _ inner _ value
    (disciplined_unlock available _ outer _ value (disciplined_return available _ value balanced))

/-- A computation that branches where the untraced one does. -/
theorem disciplined_branch (condition : Prop) [Decidable condition]
    (first second : Traced ι α) (untraced untraced' : α)
    (one : condition → Disciplined available before first untraced)
    (other : ¬ condition → Disciplined available before second untraced') :
    Disciplined available before (if condition then first else second)
      (if condition then untraced else untraced') := by
  split
  · rename_i holds
    exact one holds
  · rename_i fails
    exact other fails

/-- What is done with the value without further operations. -/
theorem disciplined_answer (computation : Traced ι α) (untraced : α) (next : α → Traced ι β)
    (answer : β) (disciplined : Disciplined available before computation untraced)
    (quiet : (next untraced).ops = []) (answered : (next untraced).value = answer) :
    Disciplined available before (computation >>= next) answer := by
  obtain ⟨rfl, balanced⟩ := disciplined
  exact ⟨answered, by rwa [bind_ops, quiet, List.append_nil]⟩

end Disciplined

end PstHsm.Mutexes
