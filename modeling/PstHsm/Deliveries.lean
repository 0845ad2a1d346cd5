import Mathlib.Tactic.Common

/-!
# Reading a stream that arrives in pieces

A reader asks for some number of elements at a time. It waits until they have arrived or the
stream is closed, and at the end of the stream it gets what is left. The elements arrive in
pieces of any size, between the reader's turns or before them. Whatever the pieces and the
turns, what the reader has yielded is the beginning of what it yields for the stream as a
whole, and all of it once the reader has stopped.
-/

namespace PstHsm.Deliveries

universe u v w
variable {State : Type u} {α : Type v} {Item : Type w}

/-- How many elements a state asks for, if the reader goes on, and what it does with them. -/
structure Reader (State : Type u) (α : Type v) (Item : Type w) where
  demand : State → Option Nat
  accept : State → List α → List Item × State

/-- What has arrived, how much of it is read, and whether nothing more will come. -/
structure Line (α : Type v) where
  arrived : List α
  taken : Nat
  within : taken ≤ arrived.length
  closed : Bool

namespace Line

/-- A line on which nothing has arrived. -/
def fresh : Line α := ⟨[], 0, Nat.le_refl 0, false⟩

/-- What the next read starts with. -/
def unread (line : Line α) : List α := line.arrived.drop line.taken

/-- More elements arrive, unless the line is closed. -/
def arrive (line : Line α) (piece : List α) : Line α :=
  if line.closed then line
  else
    { line with
      arrived := line.arrived ++ piece
      within := by
        rw [List.length_append]
        exact Nat.le_trans line.within (Nat.le_add_right _ _) }

/-- Nothing more will come. -/
def close (line : Line α) : Line α := { line with closed := true }

/-- A read of this size does not wait. -/
def ready (line : Line α) (amount : Nat) : Bool :=
  line.closed || decide (amount ≤ line.unread.length)

/-- The line after a read. -/
def advance (line : Line α) (amount : Nat) : Line α :=
  { line with
    taken := line.taken + min amount line.unread.length
    within := by
      have within := line.within
      simp only [unread, List.length_drop]
      omega }

/-- Taking bytes drops them from those that are not read. -/
theorem advance_unread (line : Line α) (amount : Nat) :
    (line.advance amount).unread = line.unread.drop amount := by
  change line.arrived.drop (line.taken + min amount line.unread.length) = _
  rw [← List.drop_drop]
  change line.unread.drop (min amount line.unread.length) = _
  rcases Nat.le_total amount line.unread.length with enough | short
  · rw [Nat.min_eq_left enough]
  · rw [Nat.min_eq_right short, List.drop_of_length_le (Nat.le_refl _),
      List.drop_of_length_le short]

/-- What arrives follows what is not read yet. -/
theorem arrive_unread (line : Line α) (piece tail : List α) (opened : line.closed = false) :
    (line.arrive piece).unread ++ tail = line.unread ++ (piece ++ tail) := by
  simp only [arrive, opened, Bool.false_eq_true, if_false, unread]
  rw [List.drop_append_of_le_length line.within, List.append_assoc]

/-- And what has arrived before. -/
theorem arrive_arrived (line : Line α) (piece tail : List α) (opened : line.closed = false) :
    (line.arrive piece).arrived ++ tail = line.arrived ++ (piece ++ tail) := by
  simp only [arrive, opened, Bool.false_eq_true, if_false, List.append_assoc]

/-- A read that does not wait gets the same whatever still arrives. -/
theorem ready_take (line : Line α) (amount : Nat) (tail : List α)
    (ready : line.ready amount = true) (last : line.closed = true → tail = []) :
    (line.unread ++ tail).take amount = line.unread.take amount ∧
      (line.unread ++ tail).drop amount = line.unread.drop amount ++ tail := by
  cases closed : line.closed with
  | true =>
    rw [last closed, List.append_nil, List.append_nil]
    exact ⟨rfl, rfl⟩
  | false =>
    rw [Line.ready, closed, Bool.false_or, decide_eq_true_eq] at ready
    exact ⟨List.take_append_of_le_length ready, List.drop_append_of_le_length ready⟩

end Line

namespace Reader

variable (reader : Reader State α Item)

/-- One turn: the read that the state asks for, or nothing where it has to wait. -/
def turn (state : State) (line : Line α) : List Item × State × Line α :=
  match reader.demand state with
  | none => ([], state, line)
  | some amount =>
    if line.ready amount then
      let (items, after) := reader.accept state (line.unread.take amount)
      (items, after, line.advance amount)
    else ([], state, line)

/-- What the reader yields for a whole stream. -/
inductive Reads : State → List α → List Item → Prop
  | stops (state : State) (stream : List α) (stopped : reader.demand state = none) :
      Reads state stream []
  | goes (state : State) (stream : List α) (amount : Nat) (later : List Item)
      (wanted : reader.demand state = some amount)
      (rest : Reads (reader.accept state (stream.take amount)).2 (stream.drop amount) later) :
      Reads state stream ((reader.accept state (stream.take amount)).1 ++ later)

/-- A reader that asks for nothing more reads nothing more. -/
theorem reads_stopped {state : State} {stream : List α} {items : List Item}
    (whole : reader.Reads state stream items) (stopped : reader.demand state = none) :
    items = [] := by
  cases whole with
  | stops => rfl
  | goes _ _ amount later wanted => cases stopped.symm.trans wanted

/-- One that asks for something takes it and goes on. -/
theorem reads_goes {state : State} {stream : List α} {items : List Item} {amount : Nat}
    (whole : reader.Reads state stream items) (wanted : reader.demand state = some amount) :
    ∃ later, items = (reader.accept state (stream.take amount)).1 ++ later ∧
      reader.Reads (reader.accept state (stream.take amount)).2 (stream.drop amount) later := by
  cases whole with
  | stops _ _ stopped => cases stopped.symm.trans wanted
  | goes _ _ asked later wants rest =>
    cases Option.some.inj (wants.symm.trans wanted)
    exact ⟨later, rfl, rest⟩

/-- After what has been yielded, the reader is where it would be with the whole stream: what
it yields from here is the rest, whatever still arrives. -/
def Follows (start state : State) (line : Line α) (yielded : List Item) : Prop :=
  ∀ tail items, (line.closed = true → tail = []) →
    reader.Reads start (line.arrived ++ tail) items →
      ∃ later, items = yielded ++ later ∧ reader.Reads state (line.unread ++ tail) later

/-- At the start nothing has been read. -/
theorem follows_start (start : State) : reader.Follows start start Line.fresh [] :=
  fun _ items _ whole => ⟨items, rfl, whole⟩

/-- What arrives does not disturb a reader. -/
theorem follows_arrive {start state : State} {line : Line α} {yielded : List Item}
    (follows : reader.Follows start state line yielded) (piece : List α) :
    reader.Follows start state (line.arrive piece) yielded := by
  cases closed : line.closed with
  | true =>
    rw [Line.arrive, if_pos closed]
    exact follows
  | false =>
    intro tail items last whole
    rw [line.arrive_arrived piece tail closed] at whole
    rw [line.arrive_unread piece tail closed]
    apply follows (piece ++ tail) items _ whole
    rw [closed]
    exact fun impossible => absurd impossible Bool.false_ne_true

/-- Nor does the end of the stream. -/
theorem follows_close {start state : State} {line : Line α} {yielded : List Item}
    (follows : reader.Follows start state line yielded) :
    reader.Follows start state line.close yielded := by
  intro tail items last whole
  exact follows tail items (fun _ => last rfl) whole

/-- A turn does what the reader would do next with the whole stream. -/
theorem follows_turn {start state : State} {line : Line α} {yielded : List Item}
    (follows : reader.Follows start state line yielded) :
    reader.Follows start (reader.turn state line).2.1 (reader.turn state line).2.2
      (yielded ++ (reader.turn state line).1) := by
  rw [turn]
  cases wanted : reader.demand state with
  | none =>
    dsimp only
    rw [List.append_nil]
    exact follows
  | some amount =>
    dsimp only
    split
    · rename_i ready
      intro tail items last whole
      obtain ⟨later, split, rest⟩ := follows tail items last whole
      obtain ⟨others, parts, others_read⟩ := reader.reads_goes rest wanted
      obtain ⟨front, back⟩ := line.ready_take amount tail ready last
      rw [front] at parts others_read
      rw [back] at others_read
      refine ⟨others, by rw [split, parts, List.append_assoc], ?_⟩
      rw [line.advance_unread]
      exact others_read
    · rw [List.append_nil]
      exact follows

/-- What has been yielded begins what the reader yields for all that has arrived. -/
theorem follows_begins {start state : State} {line : Line α} {yielded items : List Item}
    (follows : reader.Follows start state line yielded)
    (whole : reader.Reads start line.arrived items) : yielded <+: items := by
  obtain ⟨later, split, -⟩ := follows [] items (fun _ => rfl) (by rwa [List.append_nil])
  exact ⟨later, split.symm⟩

/-- A reader that has stopped has yielded all of it. -/
theorem follows_stopped {start state : State} {line : Line α} {yielded items : List Item}
    (follows : reader.Follows start state line yielded)
    (whole : reader.Reads start line.arrived items) (stopped : reader.demand state = none) :
    yielded = items := by
  obtain ⟨later, split, rest⟩ := follows [] items (fun _ => rfl) (by rwa [List.append_nil])
  rw [split, reader.reads_stopped rest stopped, List.append_nil]

end Reader

end PstHsm.Deliveries
