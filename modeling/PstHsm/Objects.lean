import PstHsm.Sessions
import PstHsm.Templates

/-!
# Objects

The functions of `objects.c`: the handle generator, the object table of the slot
and the entry points that create, destroy, read, set and search objects. A
search records the handles of live objects in index order; its template loop has
no effect in the source, and none here.
-/

namespace PstHsm

open Tables

/-! ## Handles -/

/-- The handle base of a class; the switch has no default, so other classes
have base 0. -/
def handleBase (type : Nat) : Nat :=
  if type = objTypePublicKey then objectHandlePublicKeyBase
  else if type = objTypePrivateKey then objectHandlePrivateKeyBase
  else if type = objTypeCertificate then objectHandleCertBase
  else if type = objTypeData then objectHandleDataBase
  else 0

/-- `hsm_generate_object_handle` at a value of its static counter. -/
def hsmGenerateObjectHandle (type counter : Nat) : CkObjectHandle := handleBase type + counter

/-- The counter is a `uint32_t` and wraps. -/
def advanceCounter (counter : Nat) : Nat := (counter + 1) % 2 ^ 32

/-! ## The object table -/

/-- `hsm_get_object`, with the index at which the object lies. -/
def hsmGetObject (slot : HsmSlot) (hObject : CkObjectHandle) :
    Except CkRv (Fin hsmMaxObjects × HsmObject) :=
  match find slot.objects (fun object => decide (object.handle = hObject)) with
  | none => .error .objectHandleInvalid
  | some found => .ok found

/-- `hsm_create_object`. The scan for a null entry has no bound check in the
source; with the count below the maximum it always stops inside the array, so
the branch without a free entry is not taken. -/
def hsmCreateObject (env : Env) (system : System) (found : FoundSession)
    (pTemplate : List CkAttribute) : CkRv × Option CkObjectHandle × System :=
  let slot := found.slot
  if slot.objectCount ≥ hsmMaxObjects then (.hostMemory, none, system)
  else
    match firstFree slot.objects with
    | none => (.hostMemory, none, system)
    | some index =>
      if !env.calloc 0 then (.hostMemory, none, system)
      else
        let object := hsmParseTemplate pTemplate {}
        let object := { object with
          handle := hsmGenerateObjectHandle object.type system.handleCounter }
        let slot := { slot with
          objects := put slot.objects index (some object)
          objectCount := slot.objectCount + 1 }
        (.ok, some object.handle,
          { system.withSlot found.context slot with
            handleCounter := advanceCounter system.handleCounter
            storage := (hsmStorageSaveObject object (env.objectWrite 0) system.storage).2 })

/-- `hsm_destroy_object`. -/
def hsmDestroyObject (env : Env) (system : System) (found : FoundSession)
    (hObject : CkObjectHandle) : CkRv × System :=
  match hsmGetObject found.slot hObject with
  | .error rv => (rv, system)
  | .ok (index, object) =>
    let storage :=
      if object.isToken then (hsmStorageDeleteObject hObject env.unlink system.storage).2
      else system.storage
    let slot := { found.slot with
      objects := put found.slot.objects index none
      objectCount := found.slot.objectCount - 1 }
    (.ok, { system.withSlot found.context slot with storage := storage })

/-- `hsm_find_objects`: the handles of the first live objects. -/
def hsmFindObjects (slot : HsmSlot) (session : HsmSession) : HsmSession :=
  let results := ((live slot.objects).take hsmMaxFindObjects).map HsmObject.handle
  { session with findResults := results, findCount := results.length }

/-- A search records its results and leaves the rest of the session alone. -/
theorem find_objects_frame (slot : HsmSlot) (session : HsmSession) :
    (hsmFindObjects slot session).handle = session.handle ∧
      (hsmFindObjects slot session).operation = session.operation ∧
      (hsmFindObjects slot session).userLoggedIn = session.userLoggedIn ∧
      (hsmFindObjects slot session).soLoggedIn = session.soLoggedIn ∧
      (hsmFindObjects slot session).isReadWrite = session.isReadWrite := by
  simp [hsmFindObjects]

/-! ## Entry points -/

/-- `C_CreateObject`. -/
def cCreateObject (env : Env) (system : System) (hSession : CkSessionHandle)
    (pTemplate : Option (List CkAttribute)) (phObject : Bool) :
    CkRv × Option CkObjectHandle × System :=
  match pTemplate, phObject with
  | some template, true =>
    match hsmGetSession system hSession with
    | .error rv => (rv, none, system)
    | .ok found => hsmCreateObject env system found template
  | _, _ => (.argumentsBad, none, system)

/-- `C_DestroyObject`. -/
def cDestroyObject (env : Env) (system : System) (hSession : CkSessionHandle)
    (hObject : CkObjectHandle) : CkRv × System :=
  match hsmGetSession system hSession with
  | .error rv => (rv, system)
  | .ok found => hsmDestroyObject env system found hObject

/-- `C_GetAttributeValue`. -/
def cGetAttributeValue (system : System) (hSession : CkSessionHandle)
    (hObject : CkObjectHandle) (pTemplate : Option (List CkAttribute)) :
    CkRv × List CkAttribute :=
  match pTemplate with
  | none => (.argumentsBad, [])
  | some template =>
    match hsmGetSession system hSession with
    | .error rv => (rv, template)
    | .ok found =>
      match hsmGetObject found.slot hObject with
      | .error rv => (rv, template)
      | .ok (_, object) => hsmGetAttributeValue object template

/-- `C_SetAttributeValue`. -/
def cSetAttributeValue (system : System) (hSession : CkSessionHandle)
    (hObject : CkObjectHandle) (pTemplate : Option (List CkAttribute)) : CkRv × System :=
  match pTemplate with
  | none => (.argumentsBad, system)
  | some template =>
    match hsmGetSession system hSession with
    | .error rv => (rv, system)
    | .ok found =>
      match hsmGetObject found.slot hObject with
      | .error rv => (rv, system)
      | .ok (index, object) =>
        let (rv, object) := hsmSetAttributeValue object template
        (rv, system.withSlot found.context
          { found.slot with objects := put found.slot.objects index (some object) })

/-- `C_FindObjectsInit`. -/
def cFindObjectsInit (system : System) (hSession : CkSessionHandle) : CkRv × System :=
  match hsmGetSession system hSession with
  | .error rv => (rv, system)
  | .ok found =>
    if found.session.findActive then (.operationActive, system)
    else
      let session := hsmFindObjects found.slot found.session
      (.ok, system.withSession found { session with findActive := true, findIndex := 0 })

/-- `C_FindObjects`. The loop hands out at most the requested number of recorded
handles and moves the cursor past them. -/
def cFindObjects (system : System) (hSession : CkSessionHandle) (phObject : Bool)
    (ulMaxObjectCount : CkUlong) (pulObjectCount : Bool) :
    CkRv × List CkObjectHandle × System :=
  if !phObject || !pulObjectCount then (.argumentsBad, [], system)
  else
    match hsmGetSession system hSession with
    | .error rv => (rv, [], system)
    | .ok found =>
      let session := found.session
      if !session.findActive then (.operationNotInitialized, [], system)
      else
        let count := min ulMaxObjectCount (session.findCount - session.findIndex)
        let chunk := (List.range count).map fun offset =>
          session.findResults.getD (session.findIndex + offset) 0
        (.ok, chunk,
          system.withSession found { session with findIndex := session.findIndex + count })

/-- `C_FindObjectsFinal`. -/
def cFindObjectsFinal (system : System) (hSession : CkSessionHandle) : CkRv × System :=
  match hsmGetSession system hSession with
  | .error rv => (rv, system)
  | .ok found =>
    if !found.session.findActive then (.operationNotInitialized, system)
    else (.ok, system.withSession found
      { found.session with findActive := false, findCount := 0, findIndex := 0 })

end PstHsm
