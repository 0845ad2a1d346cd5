import Mathlib.Data.List.GetD

/-!
# A list handed out in chunks

A reader asks again and again for some number of elements of a fixed list, and each
time receives as many of those not yet handed out, in order. What it has received is
always the first part of the list as long as everything it has asked for, so nothing is
repeated or skipped and the whole list arrives once enough was asked for.
-/

namespace PstHsm.Chunks

universe u
variable {α : Type u}

/-- A list being handed out: what was received so far, and how much was asked for. -/
structure Delivery (α : Type u) where
  recorded : List α
  delivered : List α
  requested : Nat

/-- Nothing handed out yet. -/
def Delivery.start (recorded : List α) : Delivery α := ⟨recorded, [], 0⟩

/-- One more chunk received. -/
def Delivery.next (delivery : Delivery α) (most : Nat) (chunk : List α) : Delivery α :=
  { delivery with
    delivered := delivery.delivered ++ chunk
    requested := delivery.requested + most }

/-- What is due for a request: the elements after those received, as many as asked for. -/
def Delivery.due (delivery : Delivery α) (most : Nat) : List α :=
  (delivery.recorded.drop delivery.delivered.length).take most

/-- Exactly what was asked for has been received, as far as the list goes. -/
def Delivery.Exact (delivery : Delivery α) : Prop :=
  delivery.delivered = delivery.recorded.take delivery.requested

theorem exact_start (recorded : List α) : (Delivery.start recorded).Exact := rfl

/-- Receiving what is due keeps a delivery exact. -/
theorem exact_next (delivery : Delivery α) (most : Nat) (exact : delivery.Exact) :
    (delivery.next most (delivery.due most)).Exact := by
  have received : delivery.delivered = delivery.recorded.take delivery.requested := exact
  change delivery.delivered ++ delivery.due most =
    delivery.recorded.take (delivery.requested + most)
  rcases Nat.le_total delivery.requested delivery.recorded.length with within | beyond
  · have length : delivery.delivered.length = delivery.requested := by
      rw [received, List.length_take, Nat.min_eq_left within]
    rw [Delivery.due, length, received, List.take_add]
  · have whole : delivery.delivered = delivery.recorded := by
      rw [received, List.take_of_length_le beyond]
    rw [Delivery.due, whole, List.drop_length, List.take_nil, List.append_nil,
      List.take_of_length_le (Nat.le_add_right_of_le beyond)]

/-- What was received is the first part of the list. -/
theorem delivered_first (delivery : Delivery α) (exact : delivery.Exact) :
    delivery.delivered <+: delivery.recorded := by
  rw [show delivery.delivered = _ from exact]
  exact List.take_prefix delivery.requested delivery.recorded

/-- Once enough was asked for, the whole list was received. -/
theorem delivered_whole (delivery : Delivery α) (exact : delivery.Exact)
    (enough : delivery.recorded.length ≤ delivery.requested) :
    delivery.delivered = delivery.recorded := by
  rw [show delivery.delivered = _ from exact, List.take_of_length_le enough]

/-- A chunk has the length asked for, or that of the rest. -/
theorem due_length (delivery : Delivery α) (most : Nat) :
    (delivery.due most).length =
      min most (delivery.recorded.length - delivery.delivered.length) := by
  rw [Delivery.due, List.length_take, List.length_drop]

/-- Copying elements one by one from a position on. -/
theorem copied_range (list : List α) (start amount : Nat) (fallback : α)
    (within : start + amount ≤ list.length) :
    ((List.range amount).map fun offset => list.getD (start + offset) fallback) =
      (list.drop start).take amount := by
  apply List.ext_getElem
  · rw [List.length_map, List.length_range, List.length_take, List.length_drop]
    omega
  · intro position below _
    have inside : start + position < list.length := by
      rw [List.length_map, List.length_range] at below
      omega
    rw [List.getElem_map, List.getElem_range, List.getElem_take, List.getElem_drop,
      List.getD_eq_getElem list fallback inside]

end PstHsm.Chunks
