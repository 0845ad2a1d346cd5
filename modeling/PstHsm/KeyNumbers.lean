import PstHsm.KeyFiles
import PstHsm.KeyPairTemplates
import PstHsm.ObjectTable

/-!
# Numbers that name key files

Which numbers the creations of token objects have used is kept beside the process: the class
in whose range a handle was taken and the value of the counter, until the object is destroyed.
The ledger is told what a call is given and finds, never the handle that comes out of it or the
file that is written. A token object of a class takes over the file of an earlier process
exactly when the counter has come back to a number that stands in the ledger under the class.
-/

namespace PstHsm

open Tables

/-! ## The numbers of one event -/

/-- The creation of a token object: the class whose range its handle is taken from, the counter
at that moment, and whether the file can be opened. -/
structure Numbering where
  type : Nat
  serial : Nat
  opened : Bool

/-- The token objects that an event creates if it passes its checks. -/
def System.numberings (system : System) : Event → List Numbering
  | .call (.createObject hSession (some template) true) env =>
    if ∃ found, Creates env system hSession found then
      if (hsmParseTemplate template {}).isToken then
        [⟨(hsmParseTemplate template {}).type, system.handleCounter, (env.objectWrite 0).fopen⟩]
      else []
    else []
  | .call (.generateKeyPair hSession (some mechanism) publicTemplate privateTemplate true true)
      env =>
    if ∃ found, Generates env system hSession mechanism publicTemplate found then
      (if (hsmParseTemplate publicTemplate initialPublicKey).isToken then
        [⟨objTypePublicKey, system.handleCounter, (env.objectWrite 0).fopen⟩] else []) ++
      if (hsmParseTemplate privateTemplate initialPrivateKey).isToken then
        [⟨objTypePrivateKey, advanceCounter system.handleCounter, (env.objectWrite 1).fopen⟩]
      else []
    else []
  | _ => []

/-! ## The ledger -/

/-- The numbers in use for each range of handles: those of token objects that earlier processes
created, and those of this process. -/
structure Ledger where
  inherited : Nat → Nat → Bool
  own : Nat → Nat → Bool

/-- The object with a handle is destroyed. When its file cannot be unlinked, what an earlier
process created under the number is still stored. -/
def Ledger.forget (ledger : Ledger) : Option (HsmObject × Bool) → Ledger
  | none => ledger
  | some (object, unlink) =>
    if object.isToken then
      { inherited := fun range serial =>
          ledger.inherited range serial && !(unlink && range + serial == object.handle)
        own := fun range serial => ledger.own range serial && !(range + serial == object.handle) }
    else ledger

/-- A new token object takes its number over. -/
def Ledger.enter (ledger : Ledger) (numbering : Numbering) : Ledger :=
  if numbering.opened then
    { inherited := fun range serial => ledger.inherited range serial &&
        !(range == handleBase numbering.type && serial == numbering.serial)
      own := fun range serial => ledger.own range serial ||
        (range == handleBase numbering.type && serial == numbering.serial) }
  else ledger

/-- The ledger after an event. -/
def Ledger.next (ledger : Ledger) (system : System) : Event → Ledger
  | .newProcess =>
    ⟨fun range serial => ledger.inherited range serial || ledger.own range serial,
      fun _ _ => false⟩
  | .call call env =>
    (system.numberings (.call call env)).foldl Ledger.enter
      (ledger.forget (system.destroyed (.call call env)))

/-- The process with the ledger of its numbers. -/
def ledgerStep (sha256 : Sha256) : System × Ledger → Event → Response × System × Ledger :=
  Runs.traced (step sha256) fun system ledger event => ledger.next system event

/-- The files found when the first process starts use the numbers in their names. -/
def Storage.ledger (storage : Storage) : Ledger where
  inherited range serial := decide (objectFileName (range + serial) ∈ storage.keyFiles.keys)
  own _ _ := false

/-- No token object is created of a class at a number that an earlier process has used for
one. -/
def NumbersUnused (pair : System × Ledger) (event : Event) : Prop :=
  ∀ numbering ∈ pair.1.numberings event,
    pair.2.inherited (handleBase numbering.type) numbering.serial = false

instance (pair : System × Ledger) (event : Event) : Decidable (NumbersUnused pair event) :=
  inferInstanceAs (Decidable (∀ numbering ∈ _, _))

/-! ## The ledger and the files -/

/-- A save and a creation of one object: its number names the file. -/
structure Names (save : SaveCall) (numbering : Numbering) : Prop where
  path : save.path = objectFileName (handleBase numbering.type + numbering.serial)
  opened : save.outcome.fopen = numbering.opened

/-- An object whose handle has the number is saved, if it is a token object. -/
theorem token_numbered (object : HsmObject) (outcome : WriteOutcome) (type serial : Nat)
    (isToken : Bool) (token : object.isToken = isToken)
    (numbered : object.handle = handleBase type + serial) :
    List.Forall₂ Names ([⟨object, outcome⟩].filter fun save => save.object.isToken)
      (if isToken then [⟨type, serial, outcome.fopen⟩] else []) := by
  subst token
  cases kept : object.isToken with
  | false => simp [kept]
  | true => simpa [kept] using (⟨congrArg objectFileName numbered, rfl⟩ : Names _ _)

section Saves

variable (env : Env) (system : System) (hSession : CkSessionHandle)

/-- `C_CreateObject` saves the object it numbers. -/
theorem created_numbered (template : List CkAttribute) (counted : ObjectsCounted system) :
    List.Forall₂ Names
      (system.saves (.call (.createObject hSession (some template) true) env))
      (system.numberings (.call (.createObject hSession (some template) true) env)) := by
  have accepted := create_object_ok_iff env system counted hSession template
  rw [System.saves, System.creations, System.numberings]
  by_cases checked : ∃ found, Creates env system hSession found
  · rw [if_pos (accepted.mpr checked), if_pos checked]
    exact token_numbered _ _ _ _ _ rfl rfl
  · rw [if_neg (mt accepted.mp checked), if_neg checked]
    exact .nil

/-- `C_GenerateKeyPair` saves the halves it numbers. -/
theorem paired_numbered (mechanism : CkMechanismType)
    (publicTemplate privateTemplate : List CkAttribute) :
    List.Forall₂ Names
      (system.saves (.call (.generateKeyPair hSession (some mechanism) publicTemplate
        privateTemplate true true) env))
      (system.numberings (.call (.generateKeyPair hSession (some mechanism) publicTemplate
        privateTemplate true true) env)) := by
  have accepted := generate_key_pair_ok_iff env system hSession mechanism publicTemplate
    privateTemplate
  rw [System.saves, System.creations, System.numberings]
  by_cases checked : ∃ found, Generates env system hSession mechanism publicTemplate found
  · rw [if_pos (accepted.mpr checked), if_pos checked]
    cases halves : generateHalves env mechanism publicTemplate privateTemplate with
    | error rv =>
      obtain ⟨found, generates⟩ := checked
      have made := (generate_halves_ok_iff env mechanism publicTemplate privateTemplate).mpr
        generates.generated
      rw [halves] at made
      cases made
    | ok pair =>
      obtain ⟨pubObj, privObj⟩ := pair
      -- The generators leave the token flags as the templates have set them.
      obtain ⟨⟨_, _, rfl⟩, _, _, rfl⟩ := generate_halves_parsed env mechanism publicTemplate
        privateTemplate pubObj privObj halves
      dsimp only
      rw [← List.singleton_append, List.filter_append]
      exact List.rel_append (token_numbered _ _ _ _ _ rfl rfl) (token_numbered _ _ _ _ _ rfl rfl)
  · rw [if_neg (mt accepted.mp checked), if_neg checked]
    exact .nil

end Saves

/-- The event's saves are those of the objects it numbers. -/
theorem saves_numbered (system : System) (event : Event) (counted : ObjectsCounted system) :
    List.Forall₂ Names (system.saves event) (system.numberings event) := by
  cases event with
  | newProcess => exact .nil
  | call call env =>
    cases call with
    | createObject hSession pTemplate phObject =>
      cases pTemplate with
      | none => exact .nil
      | some template =>
        cases phObject with
        | true => exact created_numbered env system hSession template counted
        | false => simp [System.saves, System.creations, System.numberings, cCreateObject]
    | generateKeyPair hSession pMechanism publicTemplate privateTemplate phPublicKey
        phPrivateKey =>
      cases pMechanism with
      | none => exact .nil
      | some mechanism =>
        cases phPublicKey with
        | false => simp [System.saves, System.creations, System.numberings, cGenerateKeyPair]
        | true =>
          cases phPrivateKey with
          | false => simp [System.saves, System.creations, System.numberings, cGenerateKeyPair]
          | true =>
            exact paired_numbered env system hSession mechanism publicTemplate privateTemplate
    | _ => exact .nil

/-- Within the range the numbers are serial numbers. -/
theorem numberings_in_range (system : System) (event : Event) (started : 1 ≤ system.handleCounter)
    (within : generatesWithin handleRange system event = true) :
    ∀ numbering ∈ system.numberings event,
      1 ≤ numbering.serial ∧ numbering.serial ≤ handleRange := by
  intro numbering member
  unfold System.numberings at member
  split at member
  · rename_i hSession template env
    have allowed : (∃ found, Creates env system hSession found) →
        system.handleCounter ≤ handleRange := of_decide_eq_true within
    split at member
    · rename_i checked
      split at member
      · obtain rfl := List.mem_singleton.mp member
        exact ⟨started, allowed checked⟩
      · cases member
    · cases member
  · rename_i hSession mechanism publicTemplate privateTemplate env
    have allowed : (∃ found, Generates env system hSession mechanism publicTemplate found) →
        system.handleCounter < handleRange := of_decide_eq_true within
    split at member
    · rename_i checked
      have room := allowed checked
      have next := counter_next system.handleCounter (by omega)
      rcases List.mem_append.mp member with publicHalf | privateHalf
      · split at publicHalf
        · obtain rfl := List.mem_singleton.mp publicHalf
          exact ⟨started, Nat.le_of_lt room⟩
        · cases publicHalf
      · split at privateHalf
        · obtain rfl := List.mem_singleton.mp privateHalf
          change 1 ≤ advanceCounter system.handleCounter ∧
            advanceCounter system.handleCounter ≤ handleRange
          omega
        · cases privateHalf
    · cases member
  · cases member

/-- Under each number of the range the ledger has what the files hold. -/
structure Agree (ledger : Ledger) (records : Records) : Prop where
  inherited : ∀ type serial, 1 ≤ serial → serial ≤ handleRange →
    (ledger.inherited (handleBase type) serial = true ↔
      objectFileName (handleBase type + serial) ∈ records.inherited)
  own : ∀ type serial, 1 ≤ serial → serial ≤ handleRange →
    (ledger.own (handleBase type) serial = true ↔
      objectFileName (handleBase type + serial) ∈ records.own)

/-- Within the range different numbers name different files. -/
theorem same_number_iff (type serial type' serial' : Nat) (low : 1 ≤ serial)
    (high : serial ≤ handleRange) (low' : 1 ≤ serial') (high' : serial' ≤ handleRange) :
    objectFileName (handleBase type + serial) = objectFileName (handleBase type' + serial') ↔
      handleBase type = handleBase type' ∧ serial = serial' := by
  constructor
  · intro same
    have handles := object_file_name_injective _ _ same
    obtain rfl := handle_serial_unique type type' serial serial' low high low' high' handles
    exact ⟨Nat.add_right_cancel handles, rfl⟩
  · rintro ⟨bases, rfl⟩
    rw [bases]

/-- A destruction leaves the ledger in agreement. -/
theorem agree_forget (ledger : Ledger) (records : Records)
    (destroyed : Option (HsmObject × Bool)) (agree : Agree ledger records) :
    Agree (ledger.forget destroyed) (records.forget destroyed) := by
  match destroyed with
  | none => exact agree
  | some (object, unlink) =>
    cases token : object.isToken with
    | false => simpa [Ledger.forget, Records.forget, token] using agree
    | true =>
      have named (handle : CkObjectHandle) :
          objectFileName handle = objectFileName object.handle ↔ handle = object.handle :=
        ⟨object_file_name_injective _ _, congrArg objectFileName⟩
      constructor
      · intro type serial low high
        cases unlink with
        | false => simp [Ledger.forget, Records.forget, token, agree.inherited type serial low high]
        | true =>
          simp [Ledger.forget, Records.forget, token, named,
            ← agree.inherited type serial low high]
      · intro type serial low high
        simp [Ledger.forget, Records.forget, token, named, ← agree.own type serial low high]

/-- So does a save under the number that names its file. -/
theorem agree_enter (ledger : Ledger) (records : Records) (save : SaveCall)
    (numbering : Numbering) (names : Names save numbering) (low : 1 ≤ numbering.serial)
    (high : numbering.serial ≤ handleRange) (agree : Agree ledger records) :
    Agree (ledger.enter numbering) (records.record save) := by
  rw [Ledger.enter, Records.record, names.opened, names.path]
  cases opened : numbering.opened with
  | false => exact agree
  | true =>
    have same (type serial : Nat) (low' : 1 ≤ serial) (high' : serial ≤ handleRange) :=
      same_number_iff type serial numbering.type numbering.serial low' high' low high
    constructor
    · intro type serial low' high'
      simp [same type serial low' high', ← agree.inherited type serial low' high']
    · intro type serial low' high'
      simp [same type serial low' high', ← agree.own type serial low' high', or_comm]

/-- So do all saves of a call. -/
theorem agree_saves (saves : List SaveCall) (numberings : List Numbering)
    (ledger : Ledger) (records : Records) (named : List.Forall₂ Names saves numberings)
    (inRange : ∀ numbering ∈ numberings, 1 ≤ numbering.serial ∧ numbering.serial ≤ handleRange)
    (agree : Agree ledger records) :
    Agree (numberings.foldl Ledger.enter ledger) (saves.foldl Records.record records) := by
  induction named generalizing ledger records with
  | nil => exact agree
  | @cons save numbering saves numberings names rest inductionHypothesis =>
    obtain ⟨low, high⟩ := inRange numbering List.mem_cons_self
    exact inductionHypothesis _ _
      (fun later member => inRange later (List.mem_cons_of_mem _ member))
      (agree_enter ledger records save numbering names low high agree)

/-- An event within the range leaves the ledger in agreement. -/
theorem agree_next (system : System) (event : Event) (ledger : Ledger) (records : Records)
    (counted : ObjectsCounted system) (started : 1 ≤ system.handleCounter)
    (within : generatesWithin handleRange system event = true) (agree : Agree ledger records) :
    Agree (ledger.next system event) (records.next system event) := by
  cases event with
  | newProcess =>
    constructor
    · intro type serial low high
      simp [Ledger.next, Records.next, agree.inherited type serial low high,
        agree.own type serial low high]
    · intro type serial low high
      simp [Ledger.next, Records.next]
  | call call env =>
    exact agree_saves _ _ _ _ (saves_numbered system _ counted)
      (numberings_in_range system _ started within) (agree_forget ledger records _ agree)

/-- Where the two agree, the numbers of an event are unused exactly when its saves go to no file
of an earlier process. -/
theorem numbers_unused_iff (saves : List SaveCall) (numberings : List Numbering)
    (ledger : Ledger) (records : Records) (named : List.Forall₂ Names saves numberings)
    (inRange : ∀ numbering ∈ numberings, 1 ≤ numbering.serial ∧ numbering.serial ≤ handleRange)
    (agree : Agree ledger records) :
    (∀ save ∈ saves, save.path ∉ records.inherited) ↔
      ∀ numbering ∈ numberings,
        ledger.inherited (handleBase numbering.type) numbering.serial = false := by
  induction named with
  | nil => simp
  | @cons save numbering saves numberings names rest inductionHypothesis =>
    obtain ⟨low, high⟩ := inRange numbering List.mem_cons_self
    have here := agree.inherited numbering.type numbering.serial low high
    rw [← names.path] at here
    have first : save.path ∉ records.inherited ↔
        ledger.inherited (handleBase numbering.type) numbering.serial = false := by
      rw [← here, Bool.not_eq_true]
    rw [List.forall_mem_cons, List.forall_mem_cons, first,
      inductionHypothesis fun later member => inRange later (List.mem_cons_of_mem _ member)]

section Runs

variable (sha256 : Sha256)

/-- From files and a ledger in agreement on. -/
theorem saves_fresh_from (system : System) (events : List Event) (records : Records)
    (ledger : Ledger) (issued : RecordsIssued (system, records)) (counted : ObjectsCounted system)
    (agree : Agree ledger records)
    (within : Runs.EveryStep (step sha256)
      (fun system event => generatesWithin handleRange system event = true) system events) :
    Runs.EveryStep (recordedStep sha256) SavesToFreshFiles (system, records) events ↔
      Runs.EveryStep (ledgerStep sha256) NumbersUnused (system, ledger) events := by
  induction events generalizing system records ledger with
  | nil => exact Iff.rfl
  | cons event rest inductionHypothesis =>
    have here : SavesToFreshFiles (system, records) event ↔ NumbersUnused (system, ledger) event :=
      (saves_fresh_here sha256 (system, records) event issued within.1).trans
        (numbers_unused_iff _ _ ledger records (saves_numbered system event counted)
          (numberings_in_range system event issued.started within.1) agree)
    have later := inductionHypothesis (step sha256 system event).2 (records.next system event)
      (ledger.next system event)
      (records_issued_step sha256 (system, records) event issued within.1)
      (objects_counted_step sha256 system event counted)
      (agree_next system event ledger records counted issued.started within.1 agree) within.2
    exact and_congr here later

/-- In a run over any number of processes whose handles stay in the range, every save of a new
token object goes to a file that holds no record exactly when no token object is created at a
number that an earlier process has used for one of the same class. -/
theorem saves_to_fresh_files (system : System) (events : List Event) (booted : Booted system)
    (within : Runs.EveryStep (step sha256)
      (fun system event => generatesWithin handleRange system event = true) system events) :
    Runs.EveryStep (recordedStep sha256) SavesToFreshFiles (system, system.storage.records)
        events ↔
      Runs.EveryStep (ledgerStep sha256) NumbersUnused (system, system.storage.ledger) events := by
  have reached : Reachable sha256 system := ⟨system, [], booted, rfl⟩
  apply saves_fresh_from sha256 system events _ _ _
    (objects_counted_reachable sha256 system reached) _ within
  · rw [booted]
    have bounded : 1 ≤ handleRange + 1 := by decide
    exact ⟨Nat.le_refl 1, bounded, nofun⟩
  · constructor
    · intro type serial _ _
      simp [Storage.ledger, Storage.records]
    · intro type serial _ _
      simp [Storage.ledger, Storage.records]

end Runs

/-- Two processes that create token objects of different classes. -/
def differentClasses : List Event :=
  createToken objTypeData ++ [.newProcess] ++ createToken objTypeCertificate

theorem different_classes_fresh :
    Runs.EveryStep (recordedStep pinSha256) SavesToFreshFiles
      (bootProcess freshStorage, freshStorage.records) differentClasses :=
  (saves_to_fresh_files pinSha256 (bootProcess freshStorage) differentClasses rfl
    (by decide +kernel)).mpr (by decide +kernel)

/-- Two processes that create token objects of the same class. -/
def sameClass : List Event :=
  createToken objTypePrivateKey ++ [.newProcess] ++ createToken objTypePrivateKey

theorem same_class_overwrites :
    Booted (bootProcess freshStorage) ∧
      ¬ Runs.EveryStep (recordedStep pinSha256) SavesToFreshFiles
        (bootProcess freshStorage, freshStorage.records) sameClass :=
  ⟨rfl, by decide +kernel⟩

end PstHsm
