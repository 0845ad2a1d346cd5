import PstHsm.Handles
import PstHsm.TemplateEntries

/-!
# The templates of a key pair

`C_GenerateKeyPair` sets the flags of each half and then parses the half's template,
and the parser sets four of these flags again before it looks at the first entry. What
a half finally says is compared with what its template names: an entry that names a
flag decides it, and a flag that is not named keeps the value the half started with.
-/

namespace PstHsm

open Tables LastWrites

/-! ## The objects a call adds -/

/-- The objects at the first two of the given entries. -/
def halvesAt (objects : Table hsmMaxObjects HsmObject) :
    List (Fin hsmMaxObjects) → Option (HsmObject × HsmObject)
  | pubIdx :: privIdx :: _ =>
    (objects pubIdx).bind fun pubObj => (objects privIdx).map fun privObj => (pubObj, privObj)
  | _ => none

/-- The entries that were the first two free ones, as they are afterwards. -/
def System.newHalves (before after : System) : Option (HsmObject × HsmObject) :=
  halvesAt after.objects (freeIndices before.objects)

/-- The halves that were stored are the new ones. -/
theorem new_halves_stored (env : Env) (system : System) (hSession : CkSessionHandle)
    (found : FoundSession)
    (pubIdx privIdx : Fin hsmMaxObjects) (rest : List (Fin hsmMaxObjects))
    (pubObj privObj : HsmObject) (session : hsmGetSession system hSession = .ok found)
    (free : freeIndices found.slot.objects = pubIdx :: privIdx :: rest) :
    system.newHalves (system.withKeyPair env found pubIdx privIdx pubObj privObj) =
      some (storedPublicKey pubObj system.handleCounter,
        storedPrivateKey privObj system.handleCounter) := by
  obtain ⟨-, -, different, stored⟩ := key_pair_entries env system hSession found pubIdx privIdx
    rest pubObj privObj session free
  obtain ⟨pubEntry, privEntry, -⟩ := put_pair system.objects pubIdx privIdx
    (some (storedPublicKey pubObj system.handleCounter))
    (some (storedPrivateKey privObj system.handleCounter)) different
  rw [System.newHalves, found_objects system hSession found session, free, stored, halvesAt,
    pubEntry, privEntry]
  rfl

/-- The generators set the key of each half and leave what the template gave it. -/
theorem generate_halves_parsed (env : Env) (mechanism : CkMechanismType)
    (publicTemplate privateTemplate : List CkAttribute) (pubObj privObj : HsmObject)
    (generated : generateHalves env mechanism publicTemplate privateTemplate =
      .ok (pubObj, privObj)) :
    (∃ keyType keyData,
        pubObj = (hsmParseTemplate publicTemplate initialPublicKey).withKey keyType keyData) ∧
      ∃ keyType keyData,
        privObj = (hsmParseTemplate privateTemplate initialPrivateKey).withKey keyType keyData := by
  cases generate_halves_made env mechanism publicTemplate privateTemplate _ _ generated with
  | rsa key isRsa keygen => exact ⟨⟨_, _, rfl⟩, _, _, rfl⟩
  | ec key ecParams isEc keygen known => exact ⟨⟨_, _, rfl⟩, _, _, rfl⟩

section Calls

variable (env : Env) (system : System) (hSession : CkSessionHandle)
  (pMechanism : Option CkMechanismType) (publicTemplate privateTemplate : List CkAttribute)
  (phPublicKey phPrivateKey : Bool)

/-- What a successful call did. -/
theorem generate_key_pair_accepted
    (accepted : (cGenerateKeyPair env system hSession pMechanism publicTemplate privateTemplate
      phPublicKey phPrivateKey).1 = .ok) :
    ∃ mechanism found pubObj privObj pubIdx privIdx rest, pMechanism = some mechanism ∧
      hsmGetSession system hSession = .ok found ∧
      generateHalves env mechanism publicTemplate privateTemplate = .ok (pubObj, privObj) ∧
      freeIndices found.slot.objects = pubIdx :: privIdx :: rest ∧
      cGenerateKeyPair env system hSession pMechanism publicTemplate privateTemplate phPublicKey
        phPrivateKey =
        (.ok, some ((storedPublicKey pubObj system.handleCounter).handle,
          (storedPrivateKey privObj system.handleCounter).handle),
          system.withKeyPair env found pubIdx privIdx pubObj privObj) := by
  rcases generate_key_pair_cases env system hSession pMechanism publicTemplate privateTemplate
      phPublicKey phPrivateKey with
    ⟨rv, failed, same⟩ | ⟨mechanism, found, pubObj, privObj, pubIdx, privIdx, rest, named, -, -,
      session, -, generated, free, same⟩
  · rw [same] at accepted
    exact absurd accepted failed
  · exact ⟨mechanism, found, pubObj, privObj, pubIdx, privIdx, rest, named, session, generated,
      free, same⟩

end Calls

/-! ## Flags -/

/-- Every flag of a half has the value that the last entry naming it gives, or the value
the half started with. -/
structure FlagsNamed (object initial : HsmObject) (pTemplate : List CkAttribute) : Prop where
  isPrivate : object.isPrivate = namedFlag ckaPrivate pTemplate initial.isPrivate
  isSensitive : object.isSensitive = namedFlag ckaSensitive pTemplate initial.isSensitive
  isExtractable : object.isExtractable = namedFlag ckaExtractable pTemplate initial.isExtractable
  canSign : object.canSign = namedFlag ckaSign pTemplate initial.canSign
  canVerify : object.canVerify = namedFlag ckaVerify pTemplate initial.canVerify
  isToken : object.isToken = namedFlag ckaToken pTemplate initial.isToken

/-- The template names, where the half starts otherwise, what the parser sets in any case:
private unless it says more, sensitive, not extractable, and the two uses unchanged. -/
structure FlagsSpelled (initial : HsmObject) (pTemplate : List CkAttribute) : Prop where
  isPrivate : initial.isPrivate = true ∨ lastEntry ckaPrivate pTemplate ≠ none
  isSensitive : namedFlag ckaSensitive pTemplate initial.isSensitive = true
  isExtractable : namedFlag ckaExtractable pTemplate initial.isExtractable = false
  canSign : namedFlag ckaSign pTemplate initial.canSign = initial.canSign
  canVerify : namedFlag ckaVerify pTemplate initial.canVerify = initial.canVerify

/-- Two defaults of a flag come to the same exactly when they are equal or the flag is
named. -/
theorem named_flag_default_iff (type : CkAttributeType) (pTemplate : List CkAttribute)
    (one other : Bool) :
    namedFlag type pTemplate one = namedFlag type pTemplate other ↔
      one = other ∨ lastEntry type pTemplate ≠ none := by
  unfold namedFlag
  cases lastEntry type pTemplate with
  | none => simp
  | some entry => simp

/-- A parsed half keeps to its template exactly when the template spells the flags. -/
theorem flags_named_iff (initial : HsmObject) (pTemplate : List CkAttribute) (keyType : Nat)
    (keyData : HsmKeyData) (handle : CkObjectHandle) (untokened : initial.isToken = false) :
    FlagsNamed { hsmParseTemplate pTemplate initial with
        keyType := keyType, keyData := keyData, handle := handle } initial pTemplate ↔
      FlagsSpelled initial pTemplate := by
  obtain ⟨sensitive, unextractable⟩ := parse_template_secrecy pTemplate initial
  obtain ⟨-, -, -, signs, verifies⟩ := parse_template_key pTemplate initial
  have secret := parse_template_private pTemplate initial
  have default := named_flag_default_iff ckaPrivate pTemplate true initial.isPrivate
  constructor
  · rintro ⟨isPrivate, isSensitive, isExtractable, canSign, canVerify, -⟩
    refine ⟨?_, ?_, ?_, ?_, ?_⟩
    · rcases default.mp (secret.symm.trans isPrivate) with same | named
      · exact Or.inl same.symm
      · exact Or.inr named
    · exact isSensitive.symm.trans sensitive
    · exact isExtractable.symm.trans unextractable
    · exact canSign.symm.trans signs
    · exact canVerify.symm.trans verifies
  · rintro ⟨isPrivate, isSensitive, isExtractable, canSign, canVerify⟩
    refine ⟨?_, ?_, ?_, ?_, ?_, ?_⟩
    · exact secret.trans (default.mpr (isPrivate.imp_left Eq.symm))
    · exact sensitive.trans isSensitive.symm
    · exact unextractable.trans isExtractable.symm
    · exact signs.trans canSign.symm
    · exact verifies.trans canVerify.symm
    · rw [untokened]
      exact parse_template_token pTemplate initial

/-- Both new objects keep to their templates exactly when the templates spell the flags. -/
theorem templates_override_iff (env : Env) (system : System) (hSession : CkSessionHandle)
    (pMechanism : Option CkMechanismType) (publicTemplate privateTemplate : List CkAttribute)
    (phPublicKey phPrivateKey : Bool)
    (accepted : (cGenerateKeyPair env system hSession pMechanism publicTemplate privateTemplate
      phPublicKey phPrivateKey).1 = .ok) :
    ∃ pubObj privObj,
      system.newHalves (cGenerateKeyPair env system hSession pMechanism publicTemplate
        privateTemplate phPublicKey phPrivateKey).2.2 = some (pubObj, privObj) ∧
      (FlagsNamed pubObj initialPublicKey publicTemplate ∧
          FlagsNamed privObj initialPrivateKey privateTemplate ↔
        FlagsSpelled initialPublicKey publicTemplate ∧
          FlagsSpelled initialPrivateKey privateTemplate) := by
  obtain ⟨mechanism, found, pubObj, privObj, pubIdx, privIdx, rest, -, session, generated, free,
    same⟩ := generate_key_pair_accepted env system hSession pMechanism publicTemplate
      privateTemplate phPublicKey phPrivateKey accepted
  obtain ⟨⟨pubType, pubData, rfl⟩, privType, privData, rfl⟩ :=
    generate_halves_parsed env mechanism publicTemplate privateTemplate _ _ generated
  rw [same]
  refine ⟨_, _,
    new_halves_stored env system hSession found pubIdx privIdx rest _ _ session free, ?_⟩
  exact and_congr
    (flags_named_iff initialPublicKey publicTemplate pubType pubData _ rfl)
    (flags_named_iff initialPrivateKey privateTemplate privType privData _ rfl)

/-- A public template that names all that the parser sets. -/
def spelledTemplate : List CkAttribute :=
  [entryOf ckaPrivate [ckFalse], entryOf ckaSensitive [ckTrue], entryOf ckaExtractable [ckFalse]]

theorem spelled_template_overrides :
    ∃ pubObj privObj,
      userReady.newHalves (cGenerateKeyPair (calmEnv 1) userReady 1 (some ckmEcKeyPairGen)
        spelledTemplate [] true true).2.2 = some (pubObj, privObj) ∧
      (FlagsNamed pubObj initialPublicKey spelledTemplate ∧
          FlagsNamed privObj initialPrivateKey [] ↔
        FlagsSpelled initialPublicKey spelledTemplate ∧ FlagsSpelled initialPrivateKey []) :=
  templates_override_iff (calmEnv 1) userReady 1 (some ckmEcKeyPairGen) spelledTemplate [] true
    true (by decide +kernel)

/-- With empty templates the public key ends up private. -/
theorem unnamed_flags_overwritten :
    (cGenerateKeyPair (calmEnv 1) userReady 1 (some ckmEcKeyPairGen) [] [] true true).1 = .ok ∧
      ¬ ∃ pubObj privObj,
        userReady.newHalves (cGenerateKeyPair (calmEnv 1) userReady 1 (some ckmEcKeyPairGen) [] []
          true true).2.2 = some (pubObj, privObj) ∧
        FlagsNamed pubObj initialPublicKey [] ∧ FlagsNamed privObj initialPrivateKey [] := by
  refine ⟨by decide +kernel, ?_⟩
  rintro ⟨pubObj, privObj, stored, named, -⟩
  have secret : (userReady.newHalves (cGenerateKeyPair (calmEnv 1) userReady 1
      (some ckmEcKeyPairGen) [] [] true true).2.2).map (fun halves => halves.1.isPrivate) =
      some true := by decide +kernel
  rw [stored] at secret
  have exposed : pubObj.isPrivate = false := named.isPrivate
  cases (Option.some.inj secret).symm.trans exposed

end PstHsm
