import Mathlib.Data.List.FinRange
import Mathlib.Data.Fintype.Card
import Mathlib.Logic.Function.Basic

/-!
# Fixed arrays of pointers

A table is an array of a fixed number of entries, each either empty or holding
one value; an empty entry stands for a null pointer. Searches scan the indices
upward and stop at the first entry they accept. An index is bounded by its type,
so no entry outside the array can be named.

The element type and the capacity are arbitrary. Nothing is said about who owns
an entry or about the order in which entries are filled.
-/

namespace PstHsm.Tables

universe u v
variable {α : Type u} {κ : Type v} {capacity : Nat}

/-- One optional value for each index below the capacity. -/
abbrev Table (capacity : Nat) (α : Type u) := Fin capacity → Option α

/-- Every entry is null. -/
def empty : Table capacity α := fun _ => none

/-- Overwrite one entry, a null value included. -/
def put (table : Table capacity α) (index : Fin capacity) (entry : Option α) :
    Table capacity α :=
  fun tested => if tested = index then entry else table tested

/-- The first entry, in index order, whose value is accepted. -/
def find (table : Table capacity α) (accepts : α → Bool) : Option (Fin capacity × α) :=
  (List.finRange capacity).findSome? fun index =>
    ((table index).filter accepts).map (Prod.mk index)

/-- The null entries in index order. -/
def freeIndices (table : Table capacity α) : List (Fin capacity) :=
  (List.finRange capacity).filter fun index => (table index).isNone

/-- The first null entry. -/
def firstFree (table : Table capacity α) : Option (Fin capacity) :=
  (List.finRange capacity).find? fun index => (table index).isNone

/-- The values present, in index order. -/
def live (table : Table capacity α) : List α :=
  (List.finRange capacity).filterMap table

/-- The indices that hold a value. -/
def occupied (table : Table capacity α) : Finset (Fin capacity) :=
  Finset.univ.filter fun index => (table index).isSome

/-- The number of values present. -/
def count (table : Table capacity α) : Nat := (occupied table).card

/-- Every entry of the empty table is free. -/
@[simp]
theorem empty_entry (index : Fin capacity) : (empty : Table capacity α) index = none := rfl

/-- An entry is what was put there. -/
@[simp]
theorem put_self (table : Table capacity α) (index : Fin capacity) (entry : Option α) :
    put table index entry index = entry := by
  simp [put]

/-- The other entries stay. -/
@[simp]
theorem put_other (table : Table capacity α) (index tested : Fin capacity) (entry : Option α)
    (different : tested ≠ index) : put table index entry tested = table tested := by
  simp [put, different]

/-- Two entries overwritten, one after the other. -/
theorem put_pair (table : Table capacity α) (first second : Fin capacity)
    (entry entry' : Option α) (different : first ≠ second) :
    put (put table first entry) second entry' first = entry ∧
      put (put table first entry) second entry' second = entry' ∧
      ∀ tested, tested ∉ [first, second] →
        put (put table first entry) second entry' tested = table tested := by
  refine ⟨?_, put_self _ _ _, ?_⟩
  · rw [put_other _ _ _ _ different, put_self]
  · intro tested elsewhere
    rw [put_other _ _ _ _ (List.ne_of_not_mem_cons (List.not_mem_of_not_mem_cons elsewhere)),
      put_other _ _ _ _ (List.ne_of_not_mem_cons elsewhere)]

/-- What holds of every value present holds after an entry is overwritten by a value
of which it holds. -/
theorem entries_put (property : α → Prop) (table : Table capacity α) (index : Fin capacity)
    (entry : Option α) (before : ∀ tested value, table tested = some value → property value)
    (here : ∀ value, entry = some value → property value) (tested : Fin capacity) (value : α)
    (present : put table index entry tested = some value) : property value := by
  by_cases same : tested = index
  · rw [same, put_self] at present
    exact here value present
  · rw [put_other _ _ _ _ same] at present
    exact before tested value present

/-- Putting back what an entry holds changes nothing. -/
theorem put_kept (table : Table capacity α) (index : Fin capacity) :
    put table index (table index) = table := by
  funext tested
  by_cases same : tested = index
  · rw [same, put_self]
  · rw [put_other _ _ _ _ same]

/-- The values of one kind stay the same exactly when the entry holds the same one of them. -/
theorem kind_put_iff (kind : α → Bool) (table : Table capacity α) (index : Fin capacity)
    (entry : Option α) :
    ((fun tested => (put table index entry tested).filter kind) =
        fun tested => (table tested).filter kind) ↔
      entry.filter kind = (table index).filter kind := by
  constructor
  · intro same
    have here := congrFun same index
    rwa [put_self] at here
  · intro here
    funext tested
    by_cases same : tested = index
    · rw [same, put_self, here]
    · rw [put_other _ _ _ _ same]

/-- Emptying an entry again that was null before. -/
theorem put_restored (table : Table capacity α) (index : Fin capacity) (entry : Option α)
    (free : table index = none) : put (put table index entry) index none = table := by
  funext tested
  by_cases same : tested = index
  · rw [same, put_self, free]
  · rw [put_other _ _ _ _ same, put_other _ _ _ _ same]

/-- A value found is stored at the returned index and is accepted. -/
theorem find_sound (table : Table capacity α) (accepts : α → Bool)
    (index : Fin capacity) (value : α) (found : find table accepts = some (index, value)) :
    table index = some value ∧ accepts value = true := by
  obtain ⟨tested, _, accepted⟩ := List.exists_of_findSome?_eq_some found
  obtain ⟨stored, kept, same⟩ := Option.map_eq_some_iff.mp accepted
  obtain ⟨rfl, rfl⟩ := Prod.mk.inj same
  exact Option.filter_eq_some_iff.mp kept

/-- A search fails exactly when no stored value is accepted. -/
theorem find_none_iff (table : Table capacity α) (accepts : α → Bool) :
    find table accepts = none ↔
      ∀ index value, table index = some value → accepts value = false := by
  simp only [find, List.findSome?_eq_none_iff, List.mem_finRange, forall_const,
    Option.map_eq_none_iff, Option.filter_eq_none_iff, Bool.not_eq_true]

/-- A search ends at an entry exactly when it is accepted and nothing stored below it is. -/
theorem find_some_iff (table : Table capacity α) (accepts : α → Bool) (index : Fin capacity)
    (value : α) :
    find table accepts = some (index, value) ↔
      table index = some value ∧ accepts value = true ∧
        ∀ earlier, earlier < index → ∀ stored, table earlier = some stored →
          accepts stored = false := by
  obtain ⟨before, after, split⟩ := List.append_of_mem (List.mem_finRange index)
  have ordered : (before ++ index :: after).Pairwise (· < ·) :=
    split ▸ List.pairwise_lt_finRange capacity
  constructor
  · intro found
    obtain ⟨present, accepted⟩ := find_sound table accepts index value found
    refine ⟨present, accepted, ?_⟩
    rw [find, List.findSome?_eq_some_iff] at found
    obtain ⟨passed, here, rest, split', stopped, refused⟩ := found
    obtain ⟨_, -, pair⟩ := Option.map_eq_some_iff.mp stopped
    obtain rfl : here = index := (Prod.mk.inj pair).1
    intro earlier lower stored entry
    have member : earlier ∈ passed := by
      rcases List.mem_append.mp (split' ▸ List.mem_finRange earlier) with before | later
      · exact before
      · have ordered' : (passed ++ here :: rest).Pairwise (· < ·) :=
          split' ▸ List.pairwise_lt_finRange capacity
        rcases List.mem_cons.mp later with same | after
        · exact absurd same (ne_of_lt lower)
        · have upper := List.rel_of_pairwise_cons (List.pairwise_append.mp ordered').2.1 after
          exact absurd upper (not_lt_of_gt lower)
    have nothing := refused earlier member
    cases decided : accepts stored with
    | false => rfl
    | true => simp [entry, Option.filter, decided] at nothing
  · rintro ⟨present, accepted, below⟩
    rw [find, List.findSome?_eq_some_iff]
    refine ⟨before, index, after, split, ?_, ?_⟩
    · simp [present, Option.filter, accepted]
    · intro earlier member
      have lower : earlier < index :=
        (List.pairwise_append.mp ordered).2.2 earlier member index List.mem_cons_self
      cases entry : table earlier with
      | none => rfl
      | some stored => simp [Option.filter, below earlier lower stored entry]

/-- With nothing stored below an accepted entry, the search stops there. -/
theorem find_first (table : Table capacity α) (accepts : α → Bool) (index : Fin capacity)
    (value : α) (present : table index = some value) (accepted : accepts value = true)
    (below : ∀ earlier, earlier < index → table earlier = none) :
    find table accepts = some (index, value) := by
  refine (find_some_iff table accepts index value).mpr ⟨present, accepted, ?_⟩
  intro earlier lower stored entry
  cases (below earlier lower).symm.trans entry

/-- When one entry only is accepted, the search stops there. -/
theorem find_only (table : Table capacity α) (accepts : α → Bool) (index : Fin capacity)
    (value : α) (present : table index = some value) (accepted : accepts value = true)
    (only : ∀ tested stored, table tested = some stored → accepts stored = true →
      tested = index) :
    find table accepts = some (index, value) := by
  cases found : find table accepts with
  | none =>
    have refused := (find_none_iff table accepts).mp found index value present
    cases refused.symm.trans accepted
  | some result =>
    obtain ⟨place, stored⟩ := result
    obtain ⟨atPlace, acceptedThere⟩ := find_sound table accepts place stored found
    obtain rfl := only place stored atPlace acceptedThere
    obtain rfl := Option.some.inj (present.symm.trans atPlace)
    rfl

/-- A search ends at the same entry after its value is replaced by another it accepts. -/
theorem find_replaced (table : Table capacity α) (accepts : α → Bool) (index : Fin capacity)
    (old value : α) (found : find table accepts = some (index, old))
    (accepted : accepts value = true) :
    find (put table index (some value)) accepts = some (index, value) := by
  rw [find, List.findSome?_eq_some_iff] at found ⊢
  obtain ⟨before, here, after, split, stored, refused⟩ := found
  obtain ⟨_, -, pair⟩ := Option.map_eq_some_iff.mp stored
  obtain rfl : here = index := (Prod.mk.inj pair).1
  refine ⟨before, here, after, split, by simp [Option.filter, accepted], ?_⟩
  intro earlier member
  have ordered : (before ++ here :: after).Pairwise (· < ·) :=
    split ▸ List.pairwise_lt_finRange capacity
  have lower : earlier < here :=
    (List.pairwise_append.mp ordered).2.2 earlier member here List.mem_cons_self
  rw [put_other _ _ _ _ (ne_of_lt lower)]
  exact refused earlier member

/-- The entry at which a search ends comes no later in index order than any other value it
accepts. -/
theorem find_within_first (table : Table capacity α) (accepts : α → Bool) (index : Fin capacity)
    (value stored : α) (amount : Nat) (found : find table accepts = some (index, value))
    (member : stored ∈ (live table).take amount) (accepted : accepts stored = true) :
    value ∈ (live table).take amount := by
  obtain ⟨present, -⟩ := find_sound table accepts index value found
  rw [find, List.findSome?_eq_some_iff] at found
  obtain ⟨before, here, after, split, stopped, refused⟩ := found
  obtain ⟨_, -, pair⟩ := Option.map_eq_some_iff.mp stopped
  obtain rfl : here = index := (Prod.mk.inj pair).1
  have values : live table = before.filterMap table ++ value :: after.filterMap table := by
    rw [live, split, List.filterMap_append, List.filterMap_cons_some present]
  rw [values] at member ⊢
  rcases Nat.lt_or_ge (before.filterMap table).length amount with room | full
  · obtain ⟨more, rest⟩ := Nat.exists_eq_add_of_lt room
    have left : amount - (before.filterMap table).length = more + 1 := by omega
    rw [List.take_append, left, List.take_succ_cons]
    exact List.mem_append_right _ List.mem_cons_self
  · rw [List.take_append_of_le_length full] at member
    obtain ⟨earlier, passed, entry⟩ := List.mem_filterMap.mp (List.mem_of_mem_take member)
    have nothing := refused earlier passed
    simp [entry, Option.filter, accepted] at nothing

/-- The result depends only on the entries the search accepts. -/
theorem find_congr (left right : Table capacity α) (accepts : α → Bool)
    (same : ∀ index, (left index).filter accepts = (right index).filter accepts) :
    find left accepts = find right accepts := by
  simp only [find, same]

/-- The first null entry is null. -/
theorem first_free_sound (table : Table capacity α) (index : Fin capacity)
    (found : firstFree table = some index) : table index = none := by
  have accepted := List.find?_some found
  simpa using accepted

/-- There is no null entry exactly when every entry holds a value. -/
theorem first_free_none_iff (table : Table capacity α) :
    firstFree table = none ↔ ∀ index, (table index).isSome = true := by
  simp [firstFree, List.find?_eq_none, Option.isSome_iff_ne_none]

/-- The first two null entries are null and distinct. -/
theorem free_indices_sound (table : Table capacity α) (first second : Fin capacity)
    (rest : List (Fin capacity)) (found : freeIndices table = first :: second :: rest) :
    table first = none ∧ table second = none ∧ first ≠ second := by
  have firstMember : first ∈ freeIndices table := by simp [found]
  have secondMember : second ∈ freeIndices table := by simp [found]
  have distinct : (freeIndices table).Nodup := (List.nodup_finRange capacity).filter _
  rw [found] at distinct
  refine ⟨?_, ?_, ?_⟩
  · simpa [freeIndices] using firstMember
  · simpa [freeIndices] using secondMember
  · intro same
    exact (List.nodup_cons.mp distinct).1 (by simp [same])

/-- A value is live exactly when some index holds it. -/
theorem mem_live_iff (table : Table capacity α) (value : α) :
    value ∈ live table ↔ ∃ index, table index = some value := by
  simp [live, List.mem_filterMap]

/-- No value is in the empty table. -/
@[simp]
theorem live_empty : live (empty : Table capacity α) = [] := by
  simp [live, empty]

/-- A null entry filled adds its value to those present. -/
theorem live_fill (table : Table capacity α) (index : Fin capacity) (value : α)
    (free : table index = none) :
    (live (put table index (some value))).Perm (value :: live table) := by
  have first := List.perm_cons_erase (List.mem_finRange index)
  have others : ∀ tested ∈ (List.finRange capacity).erase index,
      put table index (some value) tested = table tested := by
    intro tested member
    exact put_other _ _ _ _ ((List.nodup_finRange capacity).mem_erase_iff.mp member).1
  have filled := first.filterMap (put table index (some value))
  have before := first.filterMap table
  rw [List.filterMap_cons_some (put_self _ _ _), List.filterMap_congr others] at filled
  rw [List.filterMap_cons_none free] at before
  exact filled.trans (before.symm.cons value)

/-- An entry emptied takes its value from those present. -/
theorem live_remove (table : Table capacity α) (index : Fin capacity) (value : α)
    (present : table index = some value) :
    (live table).Perm (value :: live (put table index none)) := by
  have refilled : put (put table index none) index (some value) = table := by
    funext tested
    by_cases here : tested = index
    · rw [here, put_self, present]
    · rw [put_other _ _ _ _ here, put_other _ _ _ _ here]
  have filled := live_fill (put table index none) index value (put_self _ _ _)
  rwa [refilled] at filled

/-- The occupied entries are those with a value. -/
theorem mem_occupied_iff (table : Table capacity α) (index : Fin capacity) :
    index ∈ occupied table ↔ (table index).isSome = true := by
  simp [occupied]

/-- An empty array holds nothing. -/
@[simp]
theorem count_empty : count (empty : Table capacity α) = 0 := by
  simp [count, occupied]

/-- Only the empty table counts none. -/
theorem count_zero_iff (table : Table capacity α) : count table = 0 ↔ table = empty := by
  constructor
  · intro nothing
    funext index
    have vacant : index ∉ occupied table := by
      rw [Finset.card_eq_zero.mp nothing]
      exact Finset.notMem_empty index
    rw [mem_occupied_iff] at vacant
    simpa using vacant
  · rintro rfl
    exact count_empty

/-- Filling a null entry adds one value. -/
theorem count_fill (table : Table capacity α) (index : Fin capacity) (value : α)
    (free : table index = none) : count (put table index (some value)) = count table + 1 := by
  have absent : index ∉ occupied table := by simp [mem_occupied_iff, free]
  have filled : occupied (put table index (some value)) = insert index (occupied table) := by
    ext tested
    by_cases same : tested = index
    · simp [mem_occupied_iff, same]
    · simp [mem_occupied_iff, same]
  rw [count, filled, Finset.card_insert_of_notMem absent, count]

/-- Replacing a present value keeps their number. -/
theorem count_replace (table : Table capacity α) (index : Fin capacity) (old value : α)
    (present : table index = some old) : count (put table index (some value)) = count table := by
  have same : occupied (put table index (some value)) = occupied table := by
    ext tested
    by_cases here : tested = index
    · simp [mem_occupied_iff, here, present]
    · simp [mem_occupied_iff, here]
  rw [count, same, count]

/-- Emptying a present entry removes one value. -/
theorem count_remove (table : Table capacity α) (index : Fin capacity) (old : α)
    (present : table index = some old) : count (put table index none) + 1 = count table := by
  have member : index ∈ occupied table := by simp [mem_occupied_iff, present]
  have removed : occupied (put table index none) = (occupied table).erase index := by
    ext tested
    by_cases here : tested = index
    · simp [mem_occupied_iff, here]
    · simp [mem_occupied_iff, here]
  rw [count, removed, Finset.card_erase_add_one member, count]

/-- The values listed are those counted. -/
theorem live_length (table : Table capacity α) : (live table).length = count table := by
  have members : occupied table =
      ((List.finRange capacity).filter fun index => (table index).isSome).toFinset := by
    ext index
    simp [mem_occupied_iff]
  rw [count, members, List.toFinset_card_of_nodup ((List.nodup_finRange capacity).filter _), live,
    List.length_filterMap_eq_countP, List.countP_eq_length_filter]

/-- There are at most as many values as entries. -/
theorem count_le_capacity (table : Table capacity α) : count table ≤ capacity :=
  (Finset.card_le_univ (occupied table)).trans_eq (Fintype.card_fin capacity)

/-- Below capacity the scan for a null entry succeeds. -/
theorem first_free_exists (table : Table capacity α) (room : count table < capacity) :
    ∃ index, firstFree table = some index := by
  cases found : firstFree table with
  | some index => exact ⟨index, rfl⟩
  | none =>
    have all : occupied table = Finset.univ := by
      ext index
      simp [mem_occupied_iff, (first_free_none_iff table).mp found index]
    simp [count, all] at room

section Mapped

variable {β : Type v} (f : α → β)

/-- Change every value present. -/
def mapped (table : Table capacity α) : Table capacity β := fun index => (table index).map f

/-- A value can be mapped before it is put. -/
@[simp]
theorem mapped_put (table : Table capacity α) (index : Fin capacity) (entry : Option α) :
    mapped f (put table index entry) = put (mapped f table) index (entry.map f) := by
  funext tested
  by_cases here : tested = index
  · simp [mapped, here]
  · simp [mapped, here]

/-- A search that accepts a changed value as it accepts the value itself. -/
theorem find_mapped (table : Table capacity α) (accepts : α → Bool) (accepts' : β → Bool)
    (agree : ∀ value, accepts' (f value) = accepts value) :
    find (mapped f table) accepts' =
      (find table accepts).map fun found => (found.1, f found.2) := by
  simp only [find, List.map_findSome?]
  congr 1
  funext index
  cases present : table index with
  | none => simp [mapped, present]
  | some value =>
    cases accepted : accepts value with
    | true => simp [mapped, present, Option.filter, agree, accepted]
    | false => simp [mapped, present, Option.filter, agree, accepted]

/-- Mapping leaves the first free entry. -/
@[simp]
theorem first_free_mapped (table : Table capacity α) :
    firstFree (mapped f table) = firstFree table := by
  simp [firstFree, mapped]

/-- And all free entries. -/
@[simp]
theorem free_indices_mapped (table : Table capacity α) :
    freeIndices (mapped f table) = freeIndices table := by
  simp [freeIndices, mapped]

/-- The values are mapped. -/
@[simp]
theorem live_mapped (table : Table capacity α) : live (mapped f table) = (live table).map f := by
  rw [live, live, List.map_filterMap]
  rfl

end Mapped

section Restricted

variable (keep : α → Bool)

/-- Blank every entry whose value is not kept. -/
def restricted (table : Table capacity α) : Table capacity α :=
  fun index => (table index).filter keep

/-- Restricting again changes nothing. -/
@[simp]
theorem restricted_twice (table : Table capacity α) :
    restricted keep (restricted keep table) = restricted keep table := by
  funext index
  simp [restricted, Option.filter_filter]

/-- A value can be tested before it is put. -/
@[simp]
theorem restricted_put (table : Table capacity α) (index : Fin capacity) (entry : Option α) :
    restricted keep (put table index entry) =
      put (restricted keep table) index (entry.filter keep) := by
  funext tested
  by_cases here : tested = index
  · simp [restricted, here]
  · simp [restricted, here]

/-- Emptying an entry that is blanked anyway. -/
theorem restricted_put_blanked (table : Table capacity α) (index : Fin capacity) (value : α)
    (present : table index = some value) (blanked : keep value = false) :
    restricted keep (put table index none) = restricted keep table := by
  funext tested
  by_cases here : tested = index
  · simp [restricted, here, present, Option.filter, blanked]
  · simp [restricted, here]

/-- A search that accepts kept values only ends at the same entry. -/
theorem find_restricted (table : Table capacity α) (accepts : α → Bool)
    (kept : ∀ index value, table index = some value → accepts value = true →
      keep value = true) :
    find (restricted keep table) accepts = find table accepts := by
  apply find_congr
  intro index
  cases present : table index with
  | none => simp [restricted, present]
  | some value =>
    cases accepted : accepts value with
    | false =>
      cases keptHere : keep value with
      | false => simp [restricted, present, Option.filter, accepted, keptHere]
      | true => simp [restricted, present, Option.filter, accepted, keptHere]
    | true =>
      have keptHere := kept index value present accepted
      simp [restricted, present, Option.filter, accepted, keptHere]

/-- The values that pass are left. -/
@[simp]
theorem live_restricted (table : Table capacity α) :
    live (restricted keep table) = (live table).filter keep := by
  rw [live, live, List.filter_filterMap]
  rfl

/-- Blanking changes nothing among the first values when these are kept. -/
theorem take_live_restricted (table : Table capacity α) (amount : Nat)
    (kept : ∀ value ∈ (live table).take amount, keep value = true) :
    (live (restricted keep table)).take amount = (live table).take amount := by
  rw [live_restricted]
  have split := List.take_append_drop amount (live table)
  have first : ((live table).take amount).filter keep = (live table).take amount :=
    List.filter_eq_self.mpr kept
  calc ((live table).filter keep).take amount
      = (((live table).take amount ++ (live table).drop amount).filter keep).take amount := by
        rw [split]
    _ = ((live table).take amount ++ ((live table).drop amount).filter keep).take amount := by
        rw [List.filter_append, first]
    _ = (live table).take amount := by
        rcases Nat.le_total amount (live table).length with enough | short
        · rw [List.take_append_of_le_length (by simp [enough]), List.take_take, Nat.min_self]
        · simp [List.drop_eq_nil_of_le short, List.take_of_length_le short]

end Restricted

section Keys

variable (key : α → κ)

/-- No two indices hold values with the same key. -/
def KeysDistinct (table : Table capacity α) : Prop :=
  ∀ index index' value value', table index = some value → table index' = some value' →
    key value = key value' → index = index'

/-- Listed in index order, distinct keys do not repeat. -/
theorem live_keys_nodup (table : Table capacity α) (distinct : KeysDistinct key table) :
    ((live table).map key).Nodup := by
  rw [live, List.map_filterMap]
  apply List.Nodup.filterMap _ (List.nodup_finRange capacity)
  intro left right shown atLeft atRight
  obtain ⟨a, leftEntry, rfl⟩ := Option.map_eq_some_iff.mp atLeft
  obtain ⟨b, rightEntry, same⟩ := Option.map_eq_some_iff.mp atRight
  exact distinct left right a b leftEntry rightEntry same.symm

/-- In the empty table no key stands twice. -/
theorem keys_distinct_empty : KeysDistinct key (empty : Table capacity α) := by
  intro index index' value value' present
  cases present

/-- A value whose key no stored value carries may be put anywhere. -/
theorem keys_distinct_fill (table : Table capacity α) (index : Fin capacity) (value : α)
    (distinct : KeysDistinct key table)
    (fresh : ∀ tested stored, table tested = some stored → key stored ≠ key value) :
    KeysDistinct key (put table index (some value)) := by
  intro left right a b atLeft atRight same
  by_cases leftHere : left = index
  · by_cases rightHere : right = index
    · exact leftHere.trans rightHere.symm
    · subst left
      rw [put_self] at atLeft
      rw [put_other _ _ _ _ rightHere] at atRight
      cases atLeft
      exact absurd same.symm (fresh right b atRight)
  · rw [put_other _ _ _ _ leftHere] at atLeft
    by_cases rightHere : right = index
    · subst right
      rw [put_self] at atRight
      cases atRight
      exact absurd same (fresh left a atLeft)
    · rw [put_other _ _ _ _ rightHere] at atRight
      exact distinct left right a b atLeft atRight same

/-- Replacing a value by one with the same key keeps keys distinct. -/
theorem keys_distinct_replace (table : Table capacity α) (index : Fin capacity)
    (old value : α) (distinct : KeysDistinct key table) (present : table index = some old)
    (sameKey : key value = key old) : KeysDistinct key (put table index (some value)) := by
  have origin : ∀ tested stored, put table index (some value) tested = some stored →
      ∃ before, table tested = some before ∧ key before = key stored := by
    intro tested stored found
    by_cases here : tested = index
    · subst tested
      rw [put_self] at found
      cases found
      exact ⟨old, present, sameKey.symm⟩
    · rw [put_other _ _ _ _ here] at found
      exact ⟨stored, found, rfl⟩
  intro left right a b atLeft atRight same
  obtain ⟨before, beforeLeft, leftKey⟩ := origin left a atLeft
  obtain ⟨before', beforeRight, rightKey⟩ := origin right b atRight
  exact distinct left right before before' beforeLeft beforeRight
    (leftKey.trans (same.trans rightKey.symm))

/-- Emptying an entry keeps keys distinct. -/
theorem keys_distinct_remove (table : Table capacity α) (index : Fin capacity)
    (distinct : KeysDistinct key table) : KeysDistinct key (put table index none) := by
  intro left right a b atLeft atRight same
  have leftElsewhere : left ≠ index := by
    rintro rfl
    simp at atLeft
  have rightElsewhere : right ≠ index := by
    rintro rfl
    simp at atRight
  rw [put_other _ _ _ _ leftElsewhere] at atLeft
  rw [put_other _ _ _ _ rightElsewhere] at atRight
  exact distinct left right a b atLeft atRight same

/-- Some stored value has the key. -/
def Carries (table : Table capacity α) (wanted : κ) : Prop :=
  ∃ index value, table index = some value ∧ key value = wanted

/-- It carries no key. -/
@[simp]
theorem carries_empty (wanted : κ) : ¬ Carries key (empty : Table capacity α) wanted := by
  rintro ⟨index, value, present, -⟩
  cases present

/-- A value put into a null entry adds its key. -/
theorem carries_fill (table : Table capacity α) (index : Fin capacity) (value : α)
    (free : table index = none) (wanted : κ) :
    Carries key (put table index (some value)) wanted ↔
      wanted = key value ∨ Carries key table wanted := by
  constructor
  · rintro ⟨tested, stored, present, same⟩
    by_cases here : tested = index
    · rw [here, put_self] at present
      cases present
      exact Or.inl same.symm
    · rw [put_other _ _ _ _ here] at present
      exact Or.inr ⟨tested, stored, present, same⟩
  · rintro (rfl | ⟨tested, stored, present, same⟩)
    · exact ⟨index, value, put_self table index (some value), rfl⟩
    · have elsewhere : tested ≠ index := by
        rintro rfl
        cases free.symm.trans present
      exact ⟨tested, stored, (put_other _ _ _ _ elsewhere).trans present, same⟩

/-- A value replaced by one with the same key changes no key. -/
theorem carries_replace (table : Table capacity α) (index : Fin capacity) (old value : α)
    (present : table index = some old) (sameKey : key value = key old) (wanted : κ) :
    Carries key (put table index (some value)) wanted ↔ Carries key table wanted := by
  constructor
  · rintro ⟨tested, stored, found, same⟩
    by_cases here : tested = index
    · rw [here, put_self] at found
      cases found
      exact ⟨index, old, present, sameKey.symm.trans same⟩
    · rw [put_other _ _ _ _ here] at found
      exact ⟨tested, stored, found, same⟩
  · rintro ⟨tested, stored, found, same⟩
    by_cases here : tested = index
    · subst tested
      cases present.symm.trans found
      exact ⟨index, value, put_self table index (some value), sameKey.trans same⟩
    · exact ⟨tested, stored, (put_other _ _ _ _ here).trans found, same⟩

/-- With distinct keys, emptying an entry takes its key away and no other. -/
theorem carries_remove (table : Table capacity α) (index : Fin capacity) (old : α)
    (distinct : KeysDistinct key table) (present : table index = some old) (wanted : κ) :
    Carries key (put table index none) wanted ↔ wanted ≠ key old ∧ Carries key table wanted := by
  constructor
  · rintro ⟨tested, stored, found, same⟩
    have elsewhere : tested ≠ index := by
      rintro rfl
      simp at found
    rw [put_other _ _ _ _ elsewhere] at found
    refine ⟨?_, tested, stored, found, same⟩
    rintro rfl
    exact elsewhere (distinct tested index stored old found present same)
  · rintro ⟨other, tested, stored, found, same⟩
    have elsewhere : tested ≠ index := by
      rintro rfl
      cases present.symm.trans found
      exact other same.symm
    exact ⟨tested, stored, (put_other _ _ _ _ elsewhere).trans found, same⟩

/-- A search by key succeeds exactly when a stored value has it. -/
theorem find_key_iff [DecidableEq κ] (table : Table capacity α) (wanted : κ) :
    (∃ found, find table (fun stored => decide (key stored = wanted)) = some found) ↔
      Carries key table wanted := by
  constructor
  · rintro ⟨⟨index, value⟩, located⟩
    obtain ⟨present, same⟩ := find_sound table _ index value located
    exact ⟨index, value, present, of_decide_eq_true same⟩
  · rintro ⟨index, value, present, same⟩
    cases located : find table (fun stored => decide (key stored = wanted)) with
    | some found => exact ⟨found, rfl⟩
    | none =>
      have refused := (find_none_iff table _).mp located index value present
      exact absurd same (of_decide_eq_false refused)

/-- With distinct keys a search by key returns the very entry that carries it. -/
theorem find_by_key [DecidableEq κ] (table : Table capacity α) (index : Fin capacity)
    (value : α) (distinct : KeysDistinct key table) (present : table index = some value) :
    find table (fun stored => decide (key stored = key value)) = some (index, value) := by
  apply find_only table _ index value present (decide_eq_true rfl)
  intro tested stored atTested accepted
  exact distinct tested index stored value atTested present (of_decide_eq_true accepted)

end Keys

end PstHsm.Tables
