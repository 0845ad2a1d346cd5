import Mathlib.Logic.Function.DependsOn

/-!
# The query of an oracle

A computation that is given an oracle asks it a query when its result depends on the
oracle's answer to that query and on no other answer. A computation whose result does
not depend on the oracle at all asks nothing, so the query asked is unique: what was
asked can be told from the results alone, with no record of the calls.

Nothing is assumed about the queries, the answers or the results.
-/

namespace PstHsm.Queries

universe u v w
variable {Query : Type u} {Answer : Query → Type v} {Result : Type w}
variable {program : (∀ query, Answer query) → Result} {query query' : Query}

/-- The result depends on the answer to this query and on no other answer. -/
structure Asks (program : (∀ query, Answer query) → Result) (query : Query) : Prop where
  only : DependsOn program {query}
  matters : ∃ oracle other, program oracle ≠ program other

/-- A computation that goes on from one answer asks for it, if two answers lead to different
results. -/
theorem asks_answer (query : Query) (rest : Answer query → Result)
    (oracle other : ∀ query, Answer query) (differ : rest (oracle query) ≠ rest (other query)) :
    Asks (fun oracle => rest (oracle query)) query := by
  refine ⟨?_, oracle, other, differ⟩
  intro first second same
  exact congrArg rest (same query rfl)

/-- What depends on two sets of answers depends on those in both. -/
theorem depends_on_inter {first second : Set Query} (one : DependsOn program first)
    (two : DependsOn program second) : DependsOn program (first ∩ second) := by
  classical
  intro oracle other same
  -- the mixed oracle agrees with the one on the first set and with the other on the second
  have left : program oracle =
      program fun query => if query ∈ first then oracle query else other query := by
    apply one
    intro query inside
    rw [if_pos inside]
  have right : (program fun query => if query ∈ first then oracle query else other query) =
      program other := by
    apply two
    intro query inside
    split
    · rename_i both
      exact same query ⟨both, inside⟩
    · rfl
  exact left.trans right

/-- No two queries are asked. -/
theorem asks_unique (asks : Asks program query) (asks' : Asks program query') :
    query' = query := by
  by_contra apart
  obtain ⟨oracle, other, differ⟩ := asks.matters
  have nothing : ({query} ∩ {query'} : Set Query) = ∅ :=
    Set.disjoint_singleton.mpr (Ne.symm apart) |>.inter_eq
  have constant := depends_on_inter asks.only asks'.only
  rw [nothing] at constant
  exact differ (constant.empty oracle other)

theorem asks_iff (asks : Asks program query) : Asks program query' ↔ query' = query := by
  constructor
  · exact asks_unique asks
  · rintro rfl
    exact asks

end PstHsm.Queries
