import Mathlib.Order.Basic

/-!
# A secret behind a limited number of attempts

The machine remembers the digest of a secret, or none, and how many wrong
guesses were evaluated since the last correct guess or the last reset. A guess
against no secret and a guess at the limit are refused without evaluation, so
the number of wrong guesses never passes the limit, which the record carries.

The digest type and the limit are arbitrary. Where the record is stored, and who
may set the secret, are not part of the machine.
-/

namespace PstHsm.AttemptLimit

universe u
variable {Digest : Type u} {limit : Nat}

/-- A secret's digest, if one is set, and the wrong guesses counted against it. -/
structure Record (Digest : Type u) (limit : Nat) where
  secret : Option Digest
  wrong : Nat
  bounded : wrong ≤ limit

/-- What one guess is told. -/
inductive Verdict where
  | unset
  | locked
  | accepted
  | wrong
  | exhausted
  deriving DecidableEq

/-- No secret is set and nothing has been guessed. -/
def Record.vacant : Record Digest limit := ⟨none, 0, Nat.zero_le limit⟩

/-- Setting a secret forgets the wrong guesses. -/
def Record.set (_ : Record Digest limit) (secret : Digest) : Record Digest limit :=
  ⟨some secret, 0, Nat.zero_le limit⟩

/-- Compare a guess with the secret. A wrong guess is counted, and the one that
reaches the limit is told so. -/
def Record.guess [DecidableEq Digest] (record : Record Digest limit) (digest : Digest) :
    Verdict × Record Digest limit :=
  match record.secret with
  | none => (.unset, record)
  | some secret =>
    if full : record.wrong = limit then (.locked, record)
    else if digest = secret then
      (.accepted, ⟨record.secret, 0, Nat.zero_le limit⟩)
    else
      have room : record.wrong + 1 ≤ limit := Nat.lt_of_le_of_ne record.bounded full
      (if record.wrong + 1 < limit then .wrong else .exhausted,
        ⟨record.secret, record.wrong + 1, room⟩)

/-- A guess never replaces the secret. -/
@[simp]
theorem guess_secret [DecidableEq Digest] (record : Record Digest limit) (digest : Digest) :
    (record.guess digest).2.secret = record.secret := by
  rw [Record.guess]
  split
  · rfl
  · split
    · rfl
    · split <;> rfl

/-- A guess is accepted exactly when a secret is set, the limit is not reached,
and the guess is that secret. -/
theorem guess_accepted_iff [DecidableEq Digest] (record : Record Digest limit) (digest : Digest) :
    (record.guess digest).1 = .accepted ↔
      record.secret = some digest ∧ record.wrong ≠ limit := by
  rw [Record.guess]
  cases stored : record.secret with
  | none => simp
  | some secret =>
    by_cases full : record.wrong = limit
    · simp [full]
    · by_cases same : digest = secret
      · simp [full, same]
      · have different : secret ≠ digest := fun equal => same equal.symm
        simp only [full, same, dite_false, if_false, Option.some.injEq, different, false_and,
          iff_false]
        split <;> simp

/-! ## The outcomes of a guess -/

section Outcomes

variable [DecidableEq Digest] (record : Record Digest limit) (digest secret : Digest)

theorem guess_unset (unset : record.secret = none) : record.guess digest = (.unset, record) := by
  simp [Record.guess, unset]

/-- At the limit a guess changes nothing and is told so. -/
theorem guess_locked (stored : record.secret = some secret) (full : record.wrong = limit) :
    record.guess digest = (.locked, record) := by
  simp [Record.guess, stored, full]

/-- The secret itself forgets the wrong guesses. -/
theorem guess_right (stored : record.secret = some digest) (room : record.wrong ≠ limit) :
    record.guess digest = (.accepted, ⟨record.secret, 0, Nat.zero_le limit⟩) := by
  simp [Record.guess, stored, room]

/-- Any other digest is counted. -/
theorem guess_wrong (stored : record.secret = some secret) (room : record.wrong ≠ limit)
    (different : digest ≠ secret) :
    (record.guess digest).1 = (if record.wrong + 1 < limit then .wrong else .exhausted) ∧
      (record.guess digest).2.wrong = record.wrong + 1 := by
  rw [Record.guess]
  simp [stored, room, different]

end Outcomes

/-! ## What a guess spends -/

/-- The guesses told to be wrong since the secret was last guessed or set. -/
def Record.spent (record : Record Digest limit) : Nat := min record.wrong (limit - 1)

/-- One guess less than the limit is told to be wrong, and the next one that it was the last. -/
theorem spent_bounded (record : Record Digest limit) : record.spent ≤ limit - 1 :=
  Nat.min_le_right _ _

/-- A new secret can be guessed at anew. -/
@[simp]
theorem set_spent (record : Record Digest limit) (secret : Digest) :
    (record.set secret).spent = 0 :=
  Nat.zero_min _

/-- A guess told to be wrong is spent, and only an accepted one gives back what was. -/
theorem guess_spends [DecidableEq Digest] (record : Record Digest limit) (digest : Digest) :
    (if (record.guess digest).1 = .wrong then 1 else 0) + record.spent ≤
      (if (record.guess digest).1 = .accepted then limit - 1 else 0) +
        (record.guess digest).2.spent := by
  cases stored : record.secret with
  | none => simp [guess_unset record digest stored]
  | some secret =>
    by_cases full : record.wrong = limit
    · simp [guess_locked record digest secret stored full]
    · by_cases same : digest = secret
      · have right := guess_right record digest (stored.trans (congrArg some same.symm)) full
        have bounded := spent_bounded record
        rw [right]
        simp only [reduceCtorEq, if_false, if_true]
        omega
      · obtain ⟨told, counted⟩ := guess_wrong record digest secret stored full same
        rw [told, Record.spent, Record.spent, counted]
        by_cases room : record.wrong + 1 < limit
        · simp only [room, if_true, reduceCtorEq, if_false]
          omega
        · simp only [room, if_false, reduceCtorEq]
          omega

/-- So it is with a guess that sets a new secret once it is accepted. -/
theorem change_spends [DecidableEq Digest] (record : Record Digest limit) (old new : Digest) :
    (if (record.guess old).1 = .wrong then 1 else 0) + record.spent ≤
      (if (record.guess old).1 = .accepted then limit - 1 else 0) +
        (if (record.guess old).1 = .accepted then (record.guess old).2.set new
          else (record.guess old).2).spent := by
  by_cases accepted : (record.guess old).1 = .accepted
  · have bounded := spent_bounded record
    simp only [accepted, reduceCtorEq, if_false, if_true, set_spent]
    omega
  · have spends := guess_spends record old
    rw [if_neg accepted] at spends ⊢
    rw [if_neg accepted]
    exact spends

end PstHsm.AttemptLimit
