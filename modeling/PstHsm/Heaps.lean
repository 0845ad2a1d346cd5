import Mathlib.Data.List.Perm.Basic

/-!
# Heaps of numbered blocks

A heap hands out blocks and takes them back. Blocks are numbered in the order of their
allocation and no number comes back, so a block stands for one allocation. Freeing anything but a
live block is a fault, and faults are counted for good: a heap without faults has had no double
free and no free of what it never gave out.

A program holds a list of blocks when the heap is without faults and the list is that of the live
blocks, each once. The rules say how the list changes with each operation; its order is free.
-/

namespace PstHsm.Heaps

/-- A block of memory, by its number. -/
abbrev Block := Nat

/-- The blocks that are allocated, and how often something else was freed. -/
structure Heap where
  next : Block
  live : List Block
  faults : Nat

namespace Heap

/-- The heap of a program that has not allocated anything. -/
def blank : Heap := ⟨0, [], 0⟩

/-- Allocate a block that was never there before. -/
def alloc (heap : Heap) : Block × Heap :=
  (heap.next, { heap with next := heap.next + 1, live := heap.next :: heap.live })

/-- An allocation that may fail, and returns a null pointer then. -/
def tryAlloc (heap : Heap) (succeeds : Bool) : Option Block × Heap :=
  if succeeds then (some heap.alloc.1, heap.alloc.2) else (none, heap)

/-- Several blocks, one after the other. -/
def allocs (heap : Heap) : Nat → List Block × Heap
  | 0 => ([], heap)
  | amount + 1 =>
    let (block, heap) := heap.alloc
    let (blocks, heap) := heap.allocs amount
    (block :: blocks, heap)

/-- Free a block, which must be allocated. -/
def free (heap : Heap) (block : Block) : Heap :=
  if block ∈ heap.live then { heap with live := heap.live.erase block }
  else { heap with faults := heap.faults + 1 }

/-- Freeing a pointer; a null pointer is no fault. -/
def freePointer (heap : Heap) : Option Block → Heap
  | none => heap
  | some block => heap.free block

/-- The heap has had no fault, and its live blocks are the given ones, each once. -/
structure Holds (heap : Heap) (owned : List Block) : Prop where
  sound : heap.faults = 0
  exactly : heap.live.Perm owned
  distinct : owned.Nodup
  numbered : ∀ block ∈ owned, block < heap.next

/-- As many blocks as were asked for. -/
theorem allocs_length (heap : Heap) (amount : Nat) : (heap.allocs amount).1.length = amount := by
  induction amount generalizing heap with
  | zero => rfl
  | succ amount inductionHypothesis =>
    exact congrArg (· + 1) (inductionHypothesis heap.alloc.2)

/-- An empty heap holds nothing. -/
theorem holds_blank : blank.Holds [] := by
  refine ⟨rfl, List.Perm.refl _, List.nodup_nil, ?_⟩
  intro block member
  cases member

section Rules

variable (heap : Heap) (owned : List Block) (holds : heap.Holds owned)

include holds

/-- The order of the blocks does not matter. -/
theorem holds_perm (reordered : List Block) (perm : owned.Perm reordered) :
    heap.Holds reordered where
  sound := holds.sound
  exactly := holds.exactly.trans perm
  distinct := perm.nodup_iff.mp holds.distinct
  numbered := fun block member => holds.numbered block (perm.mem_iff.mpr member)

/-- A block just allocated is held besides. -/
theorem holds_alloc : heap.alloc.2.Holds (heap.alloc.1 :: owned) where
  sound := holds.sound
  exactly := holds.exactly.cons _
  distinct := by
    refine List.nodup_cons.mpr ⟨?_, holds.distinct⟩
    intro member
    exact Nat.lt_irrefl _ (holds.numbered _ member)
  numbered := by
    intro block member
    rcases List.mem_cons.mp member with rfl | before
    · exact Nat.lt_succ_self _
    · exact Nat.lt_succ_of_lt (holds.numbered block before)

/-- New blocks join those that are held. -/
theorem holds_allocs (amount : Nat) :
    (heap.allocs amount).2.Holds ((heap.allocs amount).1 ++ owned) := by
  induction amount generalizing heap owned with
  | zero => exact holds
  | succ amount inductionHypothesis =>
    have one := holds_alloc heap owned holds
    have more := inductionHypothesis heap.alloc.2 _ one
    exact holds_perm _ _ more _ List.perm_middle

end Rules

/-- A block that is held can be freed, and is not held afterwards. -/
theorem holds_free (heap : Heap) (block : Block) (owned : List Block)
    (holds : heap.Holds (block :: owned)) : (heap.free block).Holds owned := by
  obtain ⟨fresh, distinct⟩ := List.nodup_cons.mp holds.distinct
  have lives : block ∈ heap.live := holds.exactly.mem_iff.mpr List.mem_cons_self
  rw [free, if_pos lives]
  refine ⟨holds.sound, ?_, distinct, ?_⟩
  · have erased := holds.exactly.erase block
    rwa [List.erase_cons_head] at erased
  · intro other member
    exact holds.numbered other (List.mem_cons_of_mem _ member)

/-- A null pointer is freed without effect, and any other takes its block away. -/
theorem holds_free_pointer (heap : Heap) (pointer : Option Block) (owned : List Block)
    (holds : heap.Holds (pointer.toList ++ owned)) : (heap.freePointer pointer).Holds owned := by
  cases pointer with
  | none => exact holds
  | some block => exact holds_free heap block owned holds

end Heap

end PstHsm.Heaps
