import PstHsm.Views

/-!
# Forgetting part of the objects

Two comparisons below set a process beside one that has forgotten something of
its objects: the private numbers of keys, or whole objects. Both leave the
sessions alone. A call that works on a session and on an object then answers the
same on the two processes, and forgetting afterwards leaves nothing to tell them
apart, provided the object is found in both or in neither.
-/

namespace PstHsm

open Tables

/-- What is left of an object, of the object table and of the object count. Forgetting
twice is forgetting once, also with an entry overwritten in between, and the calls that
look at an object see the same. -/
structure Projection where
  object : HsmObject → HsmObject
  objects : Table hsmMaxObjects HsmObject → Table hsmMaxObjects HsmObject
  objectCount : Nat → Nat
  objects_twice : ∀ table, objects (objects table) = objects table
  objects_put : ∀ table index entry,
    objects (put (objects table) index (entry.map object)) = objects (put table index entry)
  count_twice : ∀ amount, objectCount (objectCount amount) = objectCount amount
  count_less : ∀ amount, objectCount (objectCount amount - 1) = objectCount (amount - 1)
  sameType : ∀ stored, (object stored).type = stored.type
  sameCanSign : ∀ stored, (object stored).canSign = stored.canSign
  sameAttributes : ∀ stored template,
    hsmGetAttributeValue (object stored) template = hsmGetAttributeValue stored template
  sameSetting : ∀ stored template, hsmSetAttributeValue (object stored) template =
    ((hsmSetAttributeValue stored template).1, object (hsmSetAttributeValue stored template).2)

namespace Projection

variable (projection : Projection)

/-- The slot that has forgotten. -/
def slot (stored : HsmSlot) : HsmSlot :=
  { stored with
    objects := projection.objects stored.objects
    objectCount := projection.objectCount stored.objectCount }

/-- The library that has forgotten. -/
def context (stored : HsmContext) : HsmContext :=
  { stored with slot := projection.slot stored.slot }

/-- The process that has forgotten. Its key files are gone too. -/
def system (process : System) : System :=
  { process with
    gHsmContext := process.gHsmContext.map projection.context
    storage := { process.storage with keyFiles := ∅ } }

/-- The two results answer alike and leave states that agree after forgetting. -/
def Alike (plain projected : Response × System) : Prop :=
  projected.1 = plain.1 ∧ projection.system projected.2 = projection.system plain.2

/-- Both slots give the same object under the handle, or the same error. -/
def SameLookup (stored : HsmSlot) (hObject : CkObjectHandle) : Prop :=
  hsmGetObject (projection.slot stored) hObject =
    (hsmGetObject stored hObject).map fun pair => (pair.1, projection.object pair.2)

/-- A slot forgets once. -/
theorem slot_twice (stored : HsmSlot) :
    projection.slot (projection.slot stored) = projection.slot stored := by
  simp [slot, projection.objects_twice, projection.count_twice]

/-- And so does a process. -/
theorem system_twice (process : System) :
    projection.system (projection.system process) = projection.system process := by
  cases present : process.gHsmContext with
  | none => simp [system, present]
  | some stored => simp [system, context, present, projection.slot_twice]

/-- A session is found in both processes or in neither, with the same error. -/
theorem get_session (process : System) (hSession : CkSessionHandle) :
    (∃ rv, hsmGetSession process hSession = .error rv ∧
        hsmGetSession (projection.system process) hSession = .error rv) ∨
      ∃ found, hsmGetSession process hSession = .ok found ∧
        hsmGetSession (projection.system process) hSession =
          .ok ⟨projection.context found.context, found.index, found.session⟩ :=
  get_session_projected process (projection.system process) projection.context rfl
    (fun _ => rfl) hSession

/-- The slot of a session found in the process that has forgotten. -/
theorem locatedslot (found : FoundSession) :
    FoundSession.slot ⟨projection.context found.context, found.index, found.session⟩ =
      projection.slot found.slot := rfl

/-- An answer that leaves both processes alone. -/
theorem alike_unchanged (process : System) (response : Response) :
    projection.Alike (response, process) (response, projection.system process) :=
  ⟨rfl, projection.system_twice process⟩

/-- An answer that leaves both with slots that agree after forgetting. -/
theorem alike_slot (process : System) (stored : HsmContext) (after after' : HsmSlot)
    (response : Response) (same : projection.slot after' = projection.slot after) :
    projection.Alike (response, process.withSlot stored after)
      (response, (projection.system process).withSlot (projection.context stored) after') := by
  refine ⟨rfl, ?_⟩
  simp [System.withSlot, system, context, same]

/-- An answer that writes the same session back in both. -/
theorem alike_session (process : System) (found : FoundSession) (session : HsmSession)
    (response : Response) :
    projection.Alike (response, process.withSession found session)
      (response, (projection.system process).withSession
        ⟨projection.context found.context, found.index, found.session⟩ session) := by
  apply alike_slot
  simp [FoundSession.slotWith, FoundSession.slot, context, slot, projection.objects_twice,
    projection.count_twice]

section Calls

variable (sha256 : Sha256) (env env' : Env) (process : System) (hSession : CkSessionHandle)

/-- Attributes read the same if the object is found in both or in neither. -/
theorem get_attribute_value (hObject : CkObjectHandle) (pTemplate : Option (List CkAttribute))
    (lookup : ∀ found, hsmGetSession process hSession = .ok found → pTemplate ≠ none →
      projection.SameLookup found.slot hObject) :
    projection.Alike (callStep sha256 env process (.getAttributeValue hSession hObject pTemplate))
      (callStep sha256 env' (projection.system process)
        (.getAttributeValue hSession hObject pTemplate)) := by
  cases pTemplate with
  | none => exact projection.alike_unchanged process _
  | some template =>
    rcases projection.get_session process hSession with
      ⟨rv, session, session'⟩ | ⟨found, session, session'⟩
    · simp only [callStep, cGetAttributeValue, session, session']
      exact projection.alike_unchanged process _
    · have same : hsmGetObject (projection.slot found.slot) hObject = _ :=
        lookup found session (Option.some_ne_none template)
      simp only [callStep, cGetAttributeValue, session, session']
      rw [projection.locatedslot found, same]
      cases hsmGetObject found.slot hObject with
      | error rv => exact projection.alike_unchanged process _
      | ok pair =>
        simp only [Except.map, projection.sameAttributes]
        exact projection.alike_unchanged process _

/-- So are they set. -/
theorem set_attribute_value (hObject : CkObjectHandle) (pTemplate : Option (List CkAttribute))
    (lookup : ∀ found, hsmGetSession process hSession = .ok found → pTemplate ≠ none →
      projection.SameLookup found.slot hObject) :
    projection.Alike (callStep sha256 env process (.setAttributeValue hSession hObject pTemplate))
      (callStep sha256 env' (projection.system process)
        (.setAttributeValue hSession hObject pTemplate)) := by
  cases pTemplate with
  | none => exact projection.alike_unchanged process _
  | some template =>
    rcases projection.get_session process hSession with
      ⟨rv, session, session'⟩ | ⟨found, session, session'⟩
    · simp only [callStep, cSetAttributeValue, session, session']
      exact projection.alike_unchanged process _
    · have same : hsmGetObject (projection.slot found.slot) hObject = _ :=
        lookup found session (Option.some_ne_none template)
      simp only [callStep, cSetAttributeValue, session, session']
      rw [projection.locatedslot found, same]
      cases hsmGetObject found.slot hObject with
      | error rv => exact projection.alike_unchanged process _
      | ok pair =>
        simp only [Except.map, projection.sameSetting]
        apply alike_slot
        have overwritten := projection.objects_put found.slot.objects pair.1
          (some (hsmSetAttributeValue pair.2 template).2)
        simpa [slot, projection.count_twice] using overwritten

/-- An object is destroyed in both or in neither. -/
theorem destroy_object (hObject : CkObjectHandle)
    (lookup : ∀ found, hsmGetSession process hSession = .ok found →
      projection.SameLookup found.slot hObject) :
    projection.Alike (callStep sha256 env process (.destroyObject hSession hObject))
      (callStep sha256 env' (projection.system process) (.destroyObject hSession hObject)) := by
  rcases projection.get_session process hSession with
    ⟨rv, session, session'⟩ | ⟨found, session, session'⟩
  · simp only [callStep, cDestroyObject, session, session']
    exact projection.alike_unchanged process _
  · have same := lookup found session
    rw [SameLookup, ← projection.locatedslot found] at same
    cases located : hsmGetObject found.slot hObject with
    | error rv =>
      rw [located] at same
      simp only [callStep,
        destroy_object_missing env process hSession hObject found rv session located,
        destroy_object_missing env' (projection.system process) hSession hObject _ rv session' same]
      exact projection.alike_unchanged process _
    | ok pair =>
      obtain ⟨index, object⟩ := pair
      rw [located] at same
      simp only [callStep,
        destroy_object_succeeds env process hSession hObject found index object session located,
        destroy_object_succeeds env' (projection.system process) hSession hObject _ index
          (projection.object object) session' same]
      refine ⟨rfl, ?_⟩
      have emptied := projection.objects_put found.slot.objects index none
      rw [delete_object_storage process.objectStore object env process.storage rfl,
        delete_object_storage (projection.system process).objectStore (projection.object object)
          env' (projection.system process).storage rfl]
      simpa [system, System.withSlot, context, slot, HsmSlot.withObject, FoundSession.slot,
        projection.count_less] using emptied

/-- A search that records the same in both starts alike. -/
theorem find_objects_init (template : List CkAttribute)
    (search : ∀ found, hsmGetSession process hSession = .ok found →
      found.session.findActive = false →
      hsmFindObjects (projection.slot found.slot) found.session =
        hsmFindObjects found.slot found.session) :
    projection.Alike (callStep sha256 env process (.findObjectsInit hSession template))
      (callStep sha256 env' (projection.system process) (.findObjectsInit hSession template)) := by
  rcases projection.get_session process hSession with
    ⟨rv, session, session'⟩ | ⟨found, session, session'⟩
  · simp only [callStep, cFindObjectsInit, session, session']
    exact projection.alike_unchanged process _
  · simp only [callStep, cFindObjectsInit, session, session']
    by_cases searching : found.session.findActive = true
    · simp only [if_pos searching]
      exact projection.alike_unchanged process _
    · rw [projection.locatedslot found,
        search found session (Bool.eq_false_of_not_eq_true searching)]
      simp only [if_neg searching]
      exact projection.alike_session process found _ _

/-- What a search hands out lies in its session. -/
theorem find_objects (phObject : Bool) (ulMaxObjectCount : CkUlong) (pulObjectCount : Bool) :
    projection.Alike
      (callStep sha256 env process (.findObjects hSession phObject ulMaxObjectCount pulObjectCount))
      (callStep sha256 env' (projection.system process)
        (.findObjects hSession phObject ulMaxObjectCount pulObjectCount)) := by
  rcases projection.get_session process hSession with
    ⟨rv, session, session'⟩ | ⟨found, session, session'⟩
  · simp only [callStep, cFindObjects, session, session']
    split
    · exact projection.alike_unchanged process _
    · exact projection.alike_unchanged process _
  · simp only [callStep, cFindObjects, session, session']
    split
    · exact projection.alike_unchanged process _
    · split
      · exact projection.alike_unchanged process _
      · exact projection.alike_session process found _ _

/-- A key that is found in both or in neither is admitted alike. -/
theorem sign_init (pMechanism : Option CkMechanismType) (hKey : CkObjectHandle)
    (lookup : ∀ found, hsmGetSession process hSession = .ok found → pMechanism ≠ none →
      found.session.operation.active = false → projection.SameLookup found.slot hKey) :
    projection.Alike (callStep sha256 env process (.signInit hSession pMechanism hKey))
      (callStep sha256 env' (projection.system process) (.signInit hSession pMechanism hKey)) := by
  cases pMechanism with
  | none => exact projection.alike_unchanged process _
  | some mechanism =>
    rcases projection.get_session process hSession with
      ⟨rv, session, session'⟩ | ⟨found, session, session'⟩
    · simp only [callStep, cSignInit, session, session']
      exact projection.alike_unchanged process _
    · simp only [callStep, cSignInit, session, session']
      by_cases active : found.session.operation.active = true
      · simp only [if_pos active]
        exact projection.alike_unchanged process _
      · have same : hsmGetObject (projection.slot found.slot) hKey = _ :=
          lookup found session (Option.some_ne_none mechanism)
            (Bool.eq_false_of_not_eq_true active)
        rw [projection.locatedslot found, same]
        simp only [if_neg active]
        cases hsmGetObject found.slot hKey with
        | error rv => exact projection.alike_unchanged process _
        | ok pair =>
          simp only [Except.map, projection.sameType, projection.sameCanSign]
          repeat' split
          all_goals first
            | exact projection.alike_unchanged process _
            | exact projection.alike_session process found _ _

end Calls

end Projection

end PstHsm
