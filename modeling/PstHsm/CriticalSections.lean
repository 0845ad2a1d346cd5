import Mathlib.Data.Finset.Basic
import Mathlib.Data.List.Forall2
import Mathlib.Data.List.Perm.Subperm
import Mathlib.Logic.Function.Basic

/-!
# Critical sections

Threads run programs over a shared memory. A program locks and unlocks mutexes and accesses the
memory, one access at a time; what it does next can depend on what it found. The threads take
turns in any order, and each may make any number of calls, one after the other.

A call is one critical section when it locks a given mutex first, accesses the memory only while
it holds that mutex, may take further mutexes inside, and returns once it has given the mutex up.
Calls of this kind are served one at a time: whatever the turns, they have the answers and the
effect that they would have one after the other, in the order in which they gave the mutex up.

A call may also look at the memory once before it has the mutex. When it finds what it looks for
it goes on with its section, and otherwise anything can happen. Such calls are served one at a
time in the runs in which they find it, at every turn until they have the mutex.

Nothing is assumed about the memory, the calls, or how many threads there are.
-/

namespace PstHsm.CriticalSections

/-- A program of one thread over a memory `σ`, with mutexes named by `ι`. An access changes the
memory and goes on with what was there before. -/
inductive Program (ι σ ρ : Type) where
  | finished (result : ρ)
  | lock (mutex : ι) (next : Program ι σ ρ)
  | unlock (mutex : ι) (next : Program ι σ ρ)
  | access (change : σ → σ) (next : σ → Program ι σ ρ)

namespace Program

variable {ι σ ρ τ : Type}

/-- One program after another. -/
def bind : Program ι σ ρ → (ρ → Program ι σ τ) → Program ι σ τ
  | .finished result, rest => rest result
  | .lock mutex next, rest => .lock mutex (next.bind rest)
  | .unlock mutex next, rest => .unlock mutex (next.bind rest)
  | .access change next, rest => .access change fun found => (next found).bind rest

instance : Monad (Program ι σ) where
  pure := .finished
  bind := bind

/-- What the program returns and leaves when no other thread runs. -/
def alone : Program ι σ ρ → σ → ρ × σ
  | .finished result, memory => (result, memory)
  | .lock _ next, memory => next.alone memory
  | .unlock _ next, memory => next.alone memory
  | .access change next, memory => (next memory).alone (change memory)

end Program

section Operations

variable {ι σ ρ τ : Type}

/-- Take a mutex. -/
def lock (mutex : ι) : Program ι σ Unit := .lock mutex (.finished ())

/-- Give a mutex up. -/
def unlock (mutex : ι) : Program ι σ Unit := .unlock mutex (.finished ())

/-- Look at the memory. -/
def read (look : σ → τ) : Program ι σ τ := .access id fun found => .finished (look found)

/-- Change the memory without a look at it. -/
def write (change : σ → σ) : Program ι σ Unit := .access change fun _ => .finished ()

/-- A result is returned at once. -/
@[simp]
theorem alone_pure (result : ρ) (memory : σ) :
    (pure result : Program ι σ ρ).alone memory = (result, memory) := rfl

/-- Alone, the second program starts from what the first one left. -/
@[simp]
theorem alone_bind (program : Program ι σ ρ) (rest : ρ → Program ι σ τ) (memory : σ) :
    (program >>= rest).alone memory =
      (rest (program.alone memory).1).alone (program.alone memory).2 := by
  change (program.bind rest).alone memory = _
  induction program generalizing memory with
  | finished result => rfl
  | lock mutex next inductionHypothesis => exact inductionHypothesis memory
  | unlock mutex next inductionHypothesis => exact inductionHypothesis memory
  | access change next inductionHypothesis =>
    exact inductionHypothesis memory (change memory)

/-- Alone, a mutex is always free. -/
@[simp]
theorem alone_lock (mutex : ι) (memory : σ) :
    (lock mutex : Program ι σ Unit).alone memory = ((), memory) := rfl

/-- And nobody waits for it. -/
@[simp]
theorem alone_unlock (mutex : ι) (memory : σ) :
    (unlock mutex : Program ι σ Unit).alone memory = ((), memory) := rfl

/-- A look leaves the memory. -/
@[simp]
theorem alone_read (look : σ → τ) (memory : σ) :
    (read look : Program ι σ τ).alone memory = (look memory, memory) := rfl

/-- A change returns nothing. -/
@[simp]
theorem alone_write (change : σ → σ) (memory : σ) :
    (write change : Program ι σ Unit).alone memory = ((), change memory) := rfl

end Operations

/-! ## Programs with one critical section -/

section Shape

variable {ι σ ρ τ : Type} [DecidableEq ι]

/-- The rest of a section under its mutex, with the further mutexes that are held. The section
ends with the unlock of its mutex, when nothing else is held and nothing is left to do. -/
def Within (outer : ι) : Finset ι → Program ι σ ρ → Prop
  | _, .finished _ => False
  | held, .lock mutex next => mutex ≠ outer ∧ mutex ∉ held ∧ Within outer (insert mutex held) next
  | held, .unlock mutex next =>
    (mutex = outer ∧ held = ∅ ∧ ∃ result, next = .finished result) ∨
      (mutex ≠ outer ∧ mutex ∈ held ∧ Within outer (held.erase mutex) next)
  | held, .access _ next => ∀ found, Within outer held (next found)

/-- A call that is one section. -/
def IsSection (outer : ι) (program : Program ι σ ρ) : Prop :=
  ∃ body, program = .lock outer body ∧ Within outer ∅ body

/-- A call that looks at the memory before its section, and goes astray unless it finds what it
looks for. -/
def guarded (looks : σ → Bool) (astray work : Program ι σ ρ) : Program ι σ ρ := do
  let present ← read looks
  if present then work else astray

/-- A call is its section, or looks first and then is its section. -/
def Enters (looks : σ → Bool) (work program : Program ι σ ρ) : Prop :=
  program = work ∨ ∃ astray, program = guarded looks astray work

/-- A part of a section that leaves the mutexes as it found them. -/
def Part (outer : ι) : Finset ι → Program ι σ ρ → Finset ι → Prop
  | held, .finished _, after => held = after
  | held, .lock mutex next, after =>
    mutex ≠ outer ∧ mutex ∉ held ∧ Part outer (insert mutex held) next after
  | held, .unlock mutex next, after =>
    mutex ≠ outer ∧ mutex ∈ held ∧ Part outer (held.erase mutex) next after
  | held, .access _ next, after => ∀ found, Part outer held (next found) after

variable (outer : ι)

/-- A part of a section, and then the rest of it. -/
theorem within_bind (held after : Finset ι) (program : Program ι σ ρ)
    (rest : ρ → Program ι σ τ) (part : Part outer held program after)
    (closes : ∀ result, Within outer after (rest result)) :
    Within outer held (program >>= rest) := by
  change Within outer held (program.bind rest)
  induction program generalizing held with
  | finished result =>
    obtain rfl := part
    exact closes result
  | lock mutex next inductionHypothesis =>
    exact ⟨part.1, part.2.1, inductionHypothesis _ part.2.2⟩
  | unlock mutex next inductionHypothesis =>
    exact .inr ⟨part.1, part.2.1, inductionHypothesis _ part.2.2⟩
  | access change next inductionHypothesis =>
    exact fun found => inductionHypothesis found held (part found)

/-- Two parts of a section. -/
theorem part_bind (held between after : Finset ι) (program : Program ι σ ρ)
    (rest : ρ → Program ι σ τ) (part : Part outer held program between)
    (later : ∀ result, Part outer between (rest result) after) :
    Part outer held (program >>= rest) after := by
  change Part outer held (program.bind rest) after
  induction program generalizing held with
  | finished result =>
    obtain rfl := part
    exact later result
  | lock mutex next inductionHypothesis =>
    exact ⟨part.1, part.2.1, inductionHypothesis _ part.2.2⟩
  | unlock mutex next inductionHypothesis =>
    exact ⟨part.1, part.2.1, inductionHypothesis _ part.2.2⟩
  | access change next inductionHypothesis =>
    exact fun found => inductionHypothesis found held (part found)

/-- A result touches no mutex. -/
theorem part_pure (held : Finset ι) (result : ρ) :
    Part outer held (pure result : Program ι σ ρ) held := rfl

/-- A look touches no mutex. -/
theorem part_read (held : Finset ι) (look : σ → τ) :
    Part outer held (read look : Program ι σ τ) held := fun _ => rfl

/-- A change touches no mutex. -/
theorem part_write (held : Finset ι) (change : σ → σ) :
    Part outer held (write change : Program ι σ Unit) held := fun _ => rfl

/-- The end of a section. -/
theorem within_unlock (result : ρ) :
    Within outer ∅ (do unlock outer; pure result : Program ι σ ρ) :=
  .inl ⟨rfl, rfl, result, rfl⟩

/-- A section is made of its mutex and what is done under it. -/
theorem is_section_lock (rest : Program ι σ ρ) (within : Within outer ∅ rest) :
    IsSection outer (do lock outer; rest) :=
  ⟨rest, rfl, within⟩

end Shape

/-! ## Threads taking turns -/

/-- The memory, who holds each mutex, and the call that each thread is in. Beside them stand the
calls in the order in which they gave up one chosen mutex, and the answers returned. -/
structure Machine (κ ι σ α ρ : Type) where
  memory : σ
  owner : ι → Option κ
  running : κ → Option (α × Program ι σ ρ)
  served : List (κ × α)
  returned : List (κ × α × ρ)

/-- A thread makes a call, or has a turn in the call that it is in. -/
inductive Happening (κ α : Type) where
  | call (thread : κ) (made : α)
  | turn (thread : κ)

section Turns

variable {κ ι σ α ρ : Type} [DecidableEq κ] [DecidableEq ι]
variable (program work : α → Program ι σ ρ) (outer : ι) (looks : α → σ → Bool)

namespace Machine

/-- No thread is in a call. -/
def idle (memory : σ) : Machine κ ι σ α ρ :=
  ⟨memory, fun _ => none, fun _ => none, [], []⟩

/-- The thread has gone on. -/
def onThread (machine : Machine κ ι σ α ρ) (thread : κ) (now : Option (α × Program ι σ ρ)) :
    Machine κ ι σ α ρ :=
  { machine with running := Function.update machine.running thread now }

/-- One happening. A thread that is in a call makes no other, and a thread that comes to a mutex
held by anyone waits. -/
def next (machine : Machine κ ι σ α ρ) : Happening κ α → Machine κ ι σ α ρ
  | .call thread made =>
    match machine.running thread with
    | some _ => machine
    | none => machine.onThread thread (some (made, program made))
  | .turn thread =>
    match machine.running thread with
    | none => machine
    | some (made, .finished result) =>
      { machine.onThread thread none with
        returned := machine.returned ++ [(thread, made, result)] }
    | some (made, .lock mutex rest) =>
      match machine.owner mutex with
      | some _ => machine
      | none =>
        { machine.onThread thread (some (made, rest)) with
          owner := Function.update machine.owner mutex (some thread) }
    | some (made, .unlock mutex rest) =>
      { machine.onThread thread (some (made, rest)) with
        owner := Function.update machine.owner mutex none
        served := if mutex = outer then machine.served ++ [(thread, made)] else machine.served }
    | some (made, .access change rest) =>
      { machine.onThread thread (some (made, rest machine.memory)) with
        memory := change machine.memory }

/-- The happenings one after the other. -/
def after (machine : Machine κ ι σ α ρ) (happenings : List (Happening κ α)) :
    Machine κ ι σ α ρ :=
  happenings.foldl (next program outer) machine

/-- A thread that has a turn in a call before it has the mutex finds what its call looks for. -/
def finds (machine : Machine κ ι σ α ρ) : Happening κ α → Bool
  | .call _ _ => true
  | .turn thread =>
    match machine.running thread with
    | none => true
    | some (_, .finished _) => true
    | some (made, _) => machine.owner outer = some thread || looks made machine.memory

/-- So it is at every turn of a run. -/
def allFind (machine : Machine κ ι σ α ρ) : List (Happening κ α) → Bool
  | [] => true
  | happening :: rest =>
    machine.finds outer looks happening && (machine.next program outer happening).allFind rest

/-- The thread waits for a mutex that is held. -/
def Blocked (machine : Machine κ ι σ α ρ) (thread : κ) : Prop :=
  ∃ made mutex rest other, machine.running thread = some (made, .lock mutex rest) ∧
    machine.owner mutex = some other

/-- The answer that a thread is about to return. -/
def inFlight (machine : Machine κ ι σ α ρ) (thread : κ) : List (κ × α × ρ) :=
  match machine.running thread with
  | some (made, .finished result) => [(thread, made, result)]
  | _ => []

end Machine

/-! ## One call after another -/

/-- One more call, made alone. -/
def serve (meaning : α → σ → ρ × σ) (state : σ × List (κ × α × ρ)) (entry : κ × α) :
    σ × List (κ × α × ρ) :=
  ((meaning entry.2 state.1).2, state.2 ++ [(entry.1, entry.2, (meaning entry.2 state.1).1)])

/-- The calls one after the other: the memory after them and their answers. -/
def serially (meaning : α → σ → ρ × σ) (memory : σ) (entries : List (κ × α)) :
    σ × List (κ × α × ρ) :=
  entries.foldl (serve meaning) (memory, [])

omit [DecidableEq κ] in
/-- The last call is made where the others ended. -/
theorem serially_snoc (meaning : α → σ → ρ × σ) (memory : σ) (entries : List (κ × α))
    (entry : κ × α) :
    serially meaning memory (entries ++ [entry]) =
      serve meaning (serially meaning memory entries) entry := by
  rw [serially, List.foldl_append]
  rfl

omit [DecidableEq κ] in
/-- Calls that mean the same in two memories, one a view of the other, answer the same and leave
the view of what they leave. -/
theorem serially_view {σ' : Type} (view : σ → σ') (meaning : α → σ → ρ × σ)
    (meaning' : α → σ' → ρ × σ')
    (same : ∀ made memory,
      meaning' made (view memory) = ((meaning made memory).1, view (meaning made memory).2))
    (memory : σ) (entries : List (κ × α)) :
    serially meaning' (view memory) entries =
      (view (serially meaning memory entries).1, (serially meaning memory entries).2) := by
  induction entries using List.reverseRecOn with
  | nil => rfl
  | append_singleton before entry inductionHypothesis =>
    rw [serially_snoc, serially_snoc, inductionHypothesis, serve, same]
    rfl

/-- Two answers to one call of one thread. -/
def Alike {ρ' : Type} (Matching : α → ρ → ρ' → Prop) (left : κ × α × ρ) (right : κ × α × ρ') :
    Prop :=
  left.1 = right.1 ∧ left.2.1 = right.2.1 ∧ Matching left.2.1 left.2.2 right.2.2

omit [DecidableEq κ] in
/-- If one call keeps two memories related and is answered alike in both, then so do and are the
calls one after the other. -/
theorem serially_related {σ' ρ' : Type} (meaning : α → σ → ρ × σ)
    (meaning' : α → σ' → ρ' × σ') (Related : σ → σ' → Prop) (Matching : α → ρ → ρ' → Prop)
    (one : ∀ made memory memory', Related memory memory' →
      Related (meaning made memory).2 (meaning' made memory').2 ∧
        Matching made (meaning made memory).1 (meaning' made memory').1)
    (memory : σ) (memory' : σ') (related : Related memory memory') (entries : List (κ × α)) :
    Related (serially meaning memory entries).1 (serially meaning' memory' entries).1 ∧
      List.Forall₂ (Alike Matching) (serially meaning memory entries).2
        (serially meaning' memory' entries).2 := by
  induction entries using List.reverseRecOn with
  | nil => exact ⟨related, .nil⟩
  | append_singleton before entry inductionHypothesis =>
    obtain ⟨relatedBefore, alikeBefore⟩ := inductionHypothesis
    obtain ⟨relatedNow, matching⟩ := one entry.2 _ _ relatedBefore
    rw [serially_snoc, serially_snoc]
    exact ⟨relatedNow, List.rel_append alikeBefore (.cons ⟨rfl, rfl, matching⟩ .nil)⟩

omit [DecidableEq κ] in
/-- Alike answers are alike among those of some threads. -/
theorem alike_filter {ρ' : Type} (Matching : α → ρ → ρ' → Prop) (lefts : List (κ × α × ρ))
    (rights : List (κ × α × ρ')) (alike : List.Forall₂ (Alike Matching) lefts rights)
    (chosen : κ → Bool) :
    List.Forall₂ (Alike Matching) (lefts.filter fun left => chosen left.1)
      (rights.filter fun right => chosen right.1) := by
  apply List.rel_filter _ alike
  intro left right same
  change chosen left.1 = true ↔ chosen right.1 = true
  rw [same.1]

/-! ## The invariant -/

/-- The state of the serial run of the calls served so far. -/
def Machine.serial (start : σ) (machine : Machine κ ι σ α ρ) : σ × List (κ × α × ρ) :=
  serially (fun made => (work made).alone) start machine.served

/-- A thread without the mutex has not begun with its section or is through with it. A thread that
holds it will, left alone, answer and leave what its section comes to in the serial run. -/
structure Machine.Orderly (start : σ) (machine : Machine κ ι σ α ρ) : Prop where
  outside : ∀ thread made now, machine.owner outer ≠ some thread →
    machine.running thread = some (made, now) →
    now = program made ∨ now = work made ∨ ∃ result, now = .finished result
  inside : ∀ thread, machine.owner outer = some thread →
    ∃ made now held, machine.running thread = some (made, now) ∧ Within outer held now ∧
      (∀ mutex, mutex ≠ outer → machine.owner mutex = if mutex ∈ held then some thread else none) ∧
      now.alone machine.memory = (work made).alone (machine.serial work start).1
  free : machine.owner outer = none →
    (∀ mutex, machine.owner mutex = none) ∧ machine.memory = (machine.serial work start).1
  answers : ∀ thread, (machine.serial work start).2.filter (·.1 = thread) =
    machine.returned.filter (·.1 = thread) ++ machine.inFlight thread

/-- Each call is one section, which it may look for something before. -/
structure Sections : Prop where
  one : ∀ made, IsSection outer (work made)
  enters : ∀ made, Enters (looks made) (work made) (program made)

variable {program work outer looks}

/-- Before anyone makes a call. -/
theorem idle_orderly (start : σ) :
    (Machine.idle start : Machine κ ι σ α ρ).Orderly program work outer start where
  outside := by
    intro thread made now _ running
    cases running
  inside := by
    intro thread held
    cases held
  free := fun _ => ⟨fun _ => rfl, rfl⟩
  answers := fun _ => rfl

omit [DecidableEq ι] in
/-- Where the thread is now. -/
@[simp]
theorem running_self (machine : Machine κ ι σ α ρ) (thread : κ)
    (now : Option (α × Program ι σ ρ)) : (machine.onThread thread now).running thread = now := by
  simp [Machine.onThread]

omit [DecidableEq ι] in
/-- The other threads are where they were. -/
@[simp]
theorem running_other (machine : Machine κ ι σ α ρ) (thread other : κ)
    (now : Option (α × Program ι σ ρ)) (different : other ≠ thread) :
    (machine.onThread thread now).running other = machine.running other := by
  simp [Machine.onThread, different]

section Step

variable (sections : Sections program work outer looks) (start : σ)
variable (machine : Machine κ ι σ α ρ) (orderly : machine.Orderly program work outer start)
variable (thread : κ) (made : α)

include orderly

/-- Only the thread that holds the mutex can be inside its section. -/
theorem holder_of_within (now : Program ι σ ρ) (running : machine.running thread = some (made, now))
    (called : now ≠ program made) (begun : now ≠ work made)
    (unfinished : ∀ result, now ≠ .finished result) : machine.owner outer = some thread := by
  by_contra elsewhere
  rcases orderly.outside thread made now elsewhere running with same | same | ⟨result, same⟩
  · exact called same
  · exact begun same
  · exact unfinished result same

/-- A thread that holds the mutex has begun and not finished. -/
theorem holder_within (now : Program ι σ ρ) (running : machine.running thread = some (made, now))
    (holds : machine.owner outer = some thread) :
    ∃ held, Within outer held now ∧
      (∀ mutex, mutex ≠ outer → machine.owner mutex = if mutex ∈ held then some thread else none) ∧
      now.alone machine.memory = (work made).alone (machine.serial work start).1 := by
  obtain ⟨_, _, held, same, within, owners, alone⟩ := orderly.inside thread holds
  rw [running] at same
  cases same
  exact ⟨held, within, owners, alone⟩

include sections

omit [DecidableEq κ] orderly in
/-- A call begins by taking the mutex or by looking. -/
theorem program_begins (made : α) :
    (∃ body, program made = .lock outer body) ∨
      ∃ astray, program made =
        .access id fun found => if looks made found then work made else astray := by
  rcases sections.enters made with same | ⟨astray, same⟩
  · obtain ⟨body, shape, -⟩ := sections.one made
    exact .inl ⟨body, same.trans shape⟩
  · exact .inr ⟨astray, same⟩

/-- A thread that makes a call is not in its section yet. -/
theorem call_orderly (idle : machine.running thread = none) :
    (machine.onThread thread (some (made, program made))).Orderly program work outer start := by
  have elsewhere (other : κ) (holds : machine.owner outer = some other) : other ≠ thread := by
    rintro rfl
    obtain ⟨_, _, _, running, -⟩ := orderly.inside other holds
    rw [idle] at running
    cases running
  constructor
  · intro other call now notHeld running
    by_cases here : other = thread
    · rw [here, running_self] at running
      cases running
      exact .inl rfl
    · rw [running_other _ _ _ _ here] at running
      exact orderly.outside other call now notHeld running
  · intro other holds
    rw [running_other _ _ _ _ (elsewhere other holds)]
    exact orderly.inside other holds
  · exact orderly.free
  · intro other
    have before := orderly.answers other
    by_cases here : other = thread
    · subst here
      rw [Machine.inFlight, idle] at before
      rw [Machine.inFlight, running_self]
      rcases program_begins sections made with ⟨body, shape⟩ | ⟨astray, shape⟩
      · rw [shape]
        exact before
      · rw [shape]
        exact before
    · rw [Machine.inFlight, running_other _ _ _ _ here]
      exact before

omit sections in
/-- A finished thread does not hold the mutex, so its return changes nothing for the others. -/
theorem return_orderly (result : ρ)
    (running : machine.running thread = some (made, .finished result)) :
    Machine.Orderly program work outer start
      { machine.onThread thread none with
        returned := machine.returned ++ [(thread, made, result)] } := by
  have elsewhere (other : κ) (holds : machine.owner outer = some other) : other ≠ thread := by
    rintro rfl
    obtain ⟨held, within, -⟩ := holder_within start machine orderly other made _ running holds
    exact within
  constructor
  · intro other call now notHeld running
    by_cases here : other = thread
    · rw [here] at running
      change (machine.onThread thread none).running thread = _ at running
      rw [running_self] at running
      cases running
    · change (machine.onThread thread none).running other = _ at running
      rw [running_other _ _ _ _ here] at running
      exact orderly.outside other call now notHeld running
  · intro other holds
    obtain ⟨call, now, held, running, rest⟩ := orderly.inside other holds
    refine ⟨call, now, held, ?_, rest⟩
    exact (running_other machine thread other none (elsewhere other holds)).trans running
  · exact orderly.free
  · intro other
    have before := orderly.answers other
    by_cases here : other = thread
    · subst here
      rw [Machine.inFlight, running] at before
      have nothing : Machine.inFlight { machine.onThread other none with
          returned := machine.returned ++ [(other, made, result)] } other = [] := by
        simp [Machine.inFlight]
      rw [nothing, List.append_nil]
      change (machine.serial work start).2.filter (·.1 = other) = _
      rw [before]
      simp
    · have same : Machine.inFlight { machine.onThread thread none with
          returned := machine.returned ++ [(thread, made, result)] } other =
          machine.inFlight other := by
        simp [Machine.inFlight, here]
      rw [same]
      change (machine.serial work start).2.filter (·.1 = other) = _
      rw [before]
      simp [Ne.symm here]

omit [DecidableEq κ] orderly sections in
/-- A thread inside a section returns nothing at its next turn. -/
theorem in_flight_within (held : Finset ι) (now : Program ι σ ρ) (within : Within outer held now)
    (running : machine.running thread = some (made, now)) : machine.inFlight thread = [] := by
  rw [Machine.inFlight, running]
  cases now with
  | finished result => exact within.elim
  | lock mutex next => rfl
  | unlock mutex next => rfl
  | access change next => rfl

omit [DecidableEq ι] orderly sections in
/-- And so are their answers. -/
theorem in_flight_other (other : κ) (now : Option (α × Program ι σ ρ))
    (different : other ≠ thread) :
    (machine.onThread thread now).inFlight other = machine.inFlight other := by
  simp [Machine.inFlight, different]

omit sections in
/-- A turn inside the section: the holder goes on, and comes to the same in the end. -/
theorem inside_orderly (now now' : Program ι σ ρ) (memory : σ) (owner : ι → Option κ)
    (held held' : Finset ι) (running : machine.running thread = some (made, now))
    (before : Within outer held now) (within : Within outer held' now')
    (holds : machine.owner outer = some thread) (stays : owner outer = some thread)
    (owners : ∀ mutex, mutex ≠ outer → owner mutex = if mutex ∈ held' then some thread else none)
    (same : now'.alone memory = (work made).alone (machine.serial work start).1) :
    Machine.Orderly program work outer start
      { machine.onThread thread (some (made, now')) with memory := memory, owner := owner } := by
  constructor
  · intro other call now notHeld running
    change owner outer ≠ some other at notHeld
    have here : other ≠ thread := by
      rintro rfl
      exact notHeld stays
    change (machine.onThread thread _).running other = _ at running
    rw [running_other _ _ _ _ here] at running
    apply orderly.outside other call now _ running
    rw [holds]
    intro equal
    exact here (Option.some.inj equal).symm
  · intro other holds'
    change owner outer = some other at holds'
    rw [stays] at holds'
    cases holds'
    exact ⟨made, now', held', running_self _ _ _, within, owners, same⟩
  · intro free
    change owner outer = none at free
    rw [stays] at free
    cases free
  · intro other
    have answers := orderly.answers other
    by_cases here : other = thread
    · subst here
      rw [in_flight_within machine other made held now before running] at answers
      have nothing := in_flight_within
        { machine.onThread other (some (made, now')) with memory := memory, owner := owner }
        other made held' now' within (running_self _ _ _)
      rw [nothing]
      exact answers
    · have others := in_flight_other machine thread other (some (made, now')) here
      exact answers.trans (congrArg (_ ++ ·) others.symm)

/-- A thread that takes the free mutex is inside its section. -/
theorem enter_orderly (mutex : ι) (body : Program ι σ ρ)
    (running : machine.running thread = some (made, .lock mutex body))
    (free : machine.owner mutex = none) (outside : machine.owner outer ≠ some thread) :
    Machine.Orderly program work outer start
      { machine.onThread thread (some (made, body)) with
        owner := Function.update machine.owner mutex (some thread) } := by
  obtain ⟨section', shape, within⟩ := sections.one made
  have begun : Program.lock mutex body = work made := by
    rcases orderly.outside thread made _ outside running with same | same | ⟨result, same⟩
    · rcases sections.enters made with direct | ⟨astray, guarded⟩
      · exact same.trans direct
      · rw [guarded] at same
        cases same
    · exact same
    · cases same
  obtain ⟨rfl, rfl⟩ := Program.lock.inj (begun.trans shape)
  obtain ⟨others, memory⟩ := orderly.free free
  constructor
  · intro other call now notHeld running
    have here : other ≠ thread := by
      rintro rfl
      exact notHeld (Function.update_self _ _ _)
    change (machine.onThread thread _).running other = _ at running
    rw [running_other _ _ _ _ here] at running
    apply orderly.outside other call now _ running
    rw [free]
    intro equal
    cases equal
  · intro other holds
    change Function.update machine.owner mutex (some thread) mutex = some other at holds
    rw [Function.update_self] at holds
    cases holds
    refine ⟨made, body, ∅, running_self _ _ _, within, ?_, ?_⟩
    · intro tested different
      change Function.update machine.owner mutex (some thread) tested = _
      rw [Function.update_of_ne different, others, if_neg (Finset.notMem_empty tested)]
    · change body.alone machine.memory = (work made).alone (machine.serial work start).1
      rw [memory, ← begun]
      rfl
  · intro unowned
    change Function.update machine.owner mutex (some thread) mutex = none at unowned
    rw [Function.update_self] at unowned
    cases unowned
  · intro other
    have answers := orderly.answers other
    by_cases here : other = thread
    · subst here
      rw [Machine.inFlight, running] at answers
      have nothing := in_flight_within
        { machine.onThread other (some (made, body)) with
          owner := Function.update machine.owner mutex (some other) }
        other made ∅ body within (running_self _ _ _)
      rw [nothing]
      exact answers
    · have same := in_flight_other machine thread other (some (made, body)) here
      exact answers.trans (congrArg (_ ++ ·) same.symm)

omit sections in
/-- A thread that gives the mutex up has been served. -/
theorem exit_orderly (result : ρ)
    (running : machine.running thread = some (made, .unlock outer (.finished result)))
    (holds : machine.owner outer = some thread) :
    Machine.Orderly program work outer start
      { machine.onThread thread (some (made, .finished result)) with
        owner := Function.update machine.owner outer none
        served := machine.served ++ [(thread, made)] } := by
  obtain ⟨held, within, owners, alone⟩ :=
    holder_within start machine orderly thread made _ running holds
  have empty : held = ∅ := by
    rcases within with ⟨-, empty, -⟩ | ⟨different, -⟩
    · exact empty
    · exact absurd rfl different
  subst empty
  have alone : (work made).alone (machine.serial work start).1 =
      (result, machine.memory) := alone.symm
  have serial (after : Machine κ ι σ α ρ)
      (served : after.served = machine.served ++ [(thread, made)]) :
      after.serial work start =
        (machine.memory, (machine.serial work start).2 ++ [(thread, made, result)]) := by
    rw [Machine.serial, served, serially_snoc]
    change serve _ (machine.serial work start) (thread, made) = _
    rw [serve, alone]
  constructor
  · intro other call now notHeld running
    by_cases here : other = thread
    · rw [here] at running
      change (machine.onThread thread _).running thread = _ at running
      rw [running_self] at running
      cases running
      exact .inr (.inr ⟨result, rfl⟩)
    · change (machine.onThread thread _).running other = _ at running
      rw [running_other _ _ _ _ here] at running
      apply orderly.outside other call now _ running
      rw [holds]
      intro equal
      exact here (Option.some.inj equal).symm
  · intro other holds
    change Function.update machine.owner outer none outer = some other at holds
    rw [Function.update_self] at holds
    cases holds
  · intro _
    refine ⟨?_, ?_⟩
    · intro mutex
      change Function.update machine.owner outer none mutex = none
      by_cases here : mutex = outer
      · rw [here, Function.update_self]
      · rw [Function.update_of_ne here, owners mutex here, if_neg (Finset.notMem_empty mutex)]
    · rw [serial _ rfl]
      rfl
  · intro other
    have answers := orderly.answers other
    rw [serial _ rfl, List.filter_append]
    by_cases here : other = thread
    · subst here
      rw [Machine.inFlight, running] at answers
      rw [answers]
      simp [Machine.inFlight, Machine.onThread]
    · have same := in_flight_other machine thread other (some (made, .finished result)) here
      rw [answers, ← same]
      simp only [Machine.onThread, Machine.inFlight, Ne.symm here, decide_false,
        List.filter_cons_of_neg, Bool.false_eq_true, not_false_eq_true, List.filter_nil,
        List.append_nil]

/-- A thread that finds what its call looks for comes to its section. -/
theorem look_orderly (change : σ → σ) (rest : σ → Program ι σ ρ)
    (running : machine.running thread = some (made, .access change rest))
    (elsewhere : machine.owner outer ≠ some thread) (found : looks made machine.memory = true) :
    Machine.Orderly program work outer start
      { machine.onThread thread (some (made, rest machine.memory)) with
        memory := change machine.memory } := by
  have looking : ∃ astray, program made = guarded (looks made) astray (work made) ∧
      Program.access change rest = program made := by
    obtain ⟨body, shape, -⟩ := sections.one made
    rcases orderly.outside thread made _ elsewhere running with same | same | ⟨result, same⟩
    · rcases sections.enters made with direct | ⟨astray, guarded⟩
      · rw [direct, shape] at same
        cases same
      · exact ⟨astray, guarded, same⟩
    · rw [shape] at same
      cases same
    · cases same
  obtain ⟨astray, guarded, same⟩ := looking
  obtain ⟨rfl, rfl⟩ := Program.access.inj (same.trans guarded)
  have section' : (if looks made machine.memory then work made else astray) = work made :=
    if_pos found
  change Machine.Orderly program work outer start
    (machine.onThread thread (some (made, if looks made machine.memory then work made else astray)))
  rw [section']
  have apart (other : κ) (holds : machine.owner outer = some other) : other ≠ thread := by
    rintro rfl
    exact elsewhere holds
  constructor
  · intro other call now notHeld running
    by_cases here : other = thread
    · rw [here, running_self] at running
      cases running
      exact .inr (.inl rfl)
    · rw [running_other _ _ _ _ here] at running
      exact orderly.outside other call now notHeld running
  · intro other holds
    rw [running_other _ _ _ _ (apart other holds)]
    exact orderly.inside other holds
  · exact orderly.free
  · intro other
    have before := orderly.answers other
    by_cases here : other = thread
    · subst here
      obtain ⟨body, shape, -⟩ := sections.one made
      rw [Machine.inFlight, running] at before
      rw [Machine.inFlight, running_self, shape]
      exact before
    · rw [in_flight_other _ _ _ _ here]
      exact before

/-- One happening, at which a thread that looks finds what it looks for. -/
theorem next_orderly (happening : Happening κ α)
    (found : machine.finds outer looks happening = true) :
    (machine.next program outer happening).Orderly program work outer start := by
  cases happening with
  | call thread made =>
    rw [Machine.next]
    cases running : machine.running thread with
    | some now => exact orderly
    | none => exact call_orderly sections start machine orderly thread made running
  | turn thread =>
    rw [Machine.next]
    cases running : machine.running thread with
    | none => exact orderly
    | some pair =>
      obtain ⟨made, now⟩ := pair
      have begins := program_begins sections made
      obtain ⟨body, shape, -⟩ := sections.one made
      cases now with
      | finished result => exact return_orderly start machine orderly thread made result running
      | lock mutex rest =>
        dsimp only
        cases free : machine.owner mutex with
        | some other => exact orderly
        | none =>
          by_cases holds : machine.owner outer = some thread
          · obtain ⟨held, within, owners, alone⟩ :=
              holder_within start machine orderly thread made _ running holds
            obtain ⟨different, fresh, inner⟩ := within
            refine inside_orderly start machine orderly thread made _ rest machine.memory _ held
              (insert mutex held) running ⟨different, fresh, inner⟩ inner holds ?_ ?_ alone
            · rw [Function.update_of_ne (Ne.symm different)]
              exact holds
            · intro tested away
              by_cases here : tested = mutex
              · rw [here, Function.update_self, if_pos (Finset.mem_insert_self mutex held)]
              · rw [Function.update_of_ne here, owners tested away]
                simp only [Finset.mem_insert, here, false_or]
          · exact enter_orderly sections start machine orderly thread made mutex rest running free
              holds
      | unlock mutex rest =>
        dsimp only
        have holds : machine.owner outer = some thread := by
          apply holder_of_within start machine orderly thread made _ running
          · intro same
            rcases begins with ⟨_, begins⟩ | ⟨_, begins⟩
            · cases same.trans begins
            · cases same.trans begins
          · intro same
            cases same.trans shape
          · intro _ same
            cases same
        obtain ⟨held, within, owners, alone⟩ :=
          holder_within start machine orderly thread made _ running holds
        rcases within with ⟨rfl, rfl, result, rfl⟩ | ⟨different, member, inner⟩
        · rw [if_pos rfl]
          exact exit_orderly start machine orderly thread made result running holds
        · rw [if_neg different]
          refine inside_orderly start machine orderly thread made _ rest machine.memory _ held
            (held.erase mutex) running (.inr ⟨different, member, inner⟩) inner holds ?_ ?_ alone
          · rw [Function.update_of_ne (Ne.symm different)]
            exact holds
          · intro tested away
            by_cases here : tested = mutex
            · rw [here, Function.update_self, if_neg (Finset.notMem_erase mutex held)]
            · rw [Function.update_of_ne here, owners tested away]
              simp only [Finset.mem_erase, ne_eq, here, not_false_eq_true, true_and]
      | access change rest =>
        by_cases holds : machine.owner outer = some thread
        · obtain ⟨held, within, owners, alone⟩ :=
            holder_within start machine orderly thread made _ running holds
          exact inside_orderly start machine orderly thread made _ _ _ machine.owner held held
            running within (within machine.memory) holds holds owners alone
        · apply look_orderly sections start machine orderly thread made change rest running holds
          simpa [Machine.finds, running, holds] using found

end Step

/-- Whatever the turns at which the calls find what they look for, the machine stays orderly. -/
theorem after_orderly (sections : Sections program work outer looks) (start : σ)
    (machine : Machine κ ι σ α ρ) (orderly : machine.Orderly program work outer start)
    (happenings : List (Happening κ α))
    (found : machine.allFind program outer looks happenings = true) :
    (machine.after program outer happenings).Orderly program work outer start := by
  induction happenings generalizing machine with
  | nil => exact orderly
  | cons happening rest inductionHypothesis =>
    obtain ⟨here, later⟩ := (Bool.and_eq_true_iff).mp found
    exact inductionHypothesis _ (next_orderly sections start machine orderly happening here) later

/-- What the threads returned was answered in the serial run, and as often. -/
theorem returned_subperm (start : σ) (machine : Machine κ ι σ α ρ)
    (orderly : machine.Orderly program work outer start) :
    machine.returned.Subperm (machine.serial work start).2 := by
  have : DecidableEq (κ × α × ρ) := Classical.decEq _
  apply List.subperm_iff_count.mpr
  intro entry
  have within (entries : List (κ × α × ρ)) :
      List.count entry entries = List.count entry (entries.filter (·.1 = entry.1)) := by
    rw [List.count_filter (by simp)]
  rw [within machine.returned, within (machine.serial work start).2,
    orderly.answers entry.1, List.count_append]
  exact Nat.le_add_right _ _

/-- A blocked thread waits for the thread in the section, and that one is not blocked. -/
theorem blocked_by_holder (start : σ)
    (machine : Machine κ ι σ α ρ) (orderly : machine.Orderly program work outer start) (thread : κ)
    (blocked : machine.Blocked thread) :
    ∃ holder, machine.owner outer = some holder ∧ holder ≠ thread ∧ ¬ machine.Blocked holder := by
  have unblocked (holder : κ) (holds : machine.owner outer = some holder) :
      ¬ machine.Blocked holder := by
    rintro ⟨made, mutex, rest, other, running, taken⟩
    obtain ⟨held, within, owners, -⟩ :=
      holder_within start machine orderly holder made _ running holds
    rw [owners mutex within.1, if_neg within.2.1] at taken
    cases taken
  obtain ⟨made, mutex, rest, other, running, taken⟩ := id blocked
  cases holds : machine.owner outer with
  | none =>
    rw [(orderly.free holds).1 mutex] at taken
    cases taken
  | some holder =>
    refine ⟨holder, rfl, ?_, unblocked holder holds⟩
    rintro rfl
    exact unblocked holder holds blocked

/-- What is served stays served, in its place. -/
theorem served_stays (machine : Machine κ ι σ α ρ) (happenings : List (Happening κ α)) :
    machine.served <+: (machine.after program outer happenings).served := by
  have one (now : Machine κ ι σ α ρ) (happening : Happening κ α) :
      now.served <+: (now.next program outer happening).served := by
    cases happening with
    | call thread made =>
      rw [Machine.next]
      split
      · exact List.prefix_rfl
      · exact List.prefix_rfl
    | turn thread =>
      rw [Machine.next]
      split
      · exact List.prefix_rfl
      · exact List.prefix_rfl
      · split
        · exact List.prefix_rfl
        · exact List.prefix_rfl
      · dsimp only
        split
        · exact List.prefix_append _ _
        · exact List.prefix_rfl
      · exact List.prefix_rfl
  induction happenings generalizing machine with
  | nil => exact List.prefix_rfl
  | cons happening rest inductionHypothesis =>
    exact (one machine happening).trans (inductionHypothesis _)

end Turns

end PstHsm.CriticalSections
