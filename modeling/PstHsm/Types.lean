import PstHsm.Buffers
import PstHsm.Tables
import Mathlib.Data.List.AList

/-!
# Types and constants of the token library

The constants of `pkcs11.h` and `pkcs11_internal.h`, the records of the second
header, and what one call may observe of its surroundings. Unsigned C integers
are natural numbers; where a C operation can wrap or narrow, the modulus is
written at that operation. Enumerations that a caller or a file can fill with
any number stay numbers.

Record fields that no function of the library reads are left out: creation and
modification times, the reference count, the storage path, the load flag and the
capabilities other than signing and verifying. Slot 0 is the only slot that
`C_Initialize` creates, so a session's slot number is not stored.
-/

namespace PstHsm

open Tables

abbrev CkUlong := Nat
abbrev CkSessionHandle := CkUlong
abbrev CkObjectHandle := CkUlong
abbrev CkSlotId := CkUlong
abbrev CkFlags := CkUlong
abbrev CkUserType := CkUlong
abbrev CkAttributeType := CkUlong
abbrev CkMechanismType := CkUlong

/-! ## Return values -/

/-- The return values the library produces. -/
inductive CkRv where
  | ok
  | hostMemory
  | slotIdInvalid
  | functionFailed
  | argumentsBad
  | attributeReadOnly
  | attributeTypeInvalid
  | deviceError
  | functionNotParallel
  | functionNotSupported
  | keySizeRange
  | keyTypeInconsistent
  | keyFunctionNotPermitted
  | mechanismInvalid
  | objectHandleInvalid
  | operationActive
  | operationNotInitialized
  | pinIncorrect
  | pinLenRange
  | pinLocked
  | sessionCount
  | sessionHandleInvalid
  | sessionParallelNotSupported
  | sessionReadOnly
  | tokenNotPresent
  | userAlreadyLoggedIn
  | userNotLoggedIn
  | userPinNotInitialized
  | userTypeInvalid
  | randomNoRng
  | domainParamsInvalid
  | bufferTooSmall
  | cryptokiNotInitialized
  | cryptokiAlreadyInitialized
  deriving DecidableEq, Repr

/-- The number each return value has in `pkcs11.h`. -/
def CkRv.code : CkRv → CkUlong
  | ok => 0x00
  | hostMemory => 0x02
  | slotIdInvalid => 0x03
  | functionFailed => 0x06
  | argumentsBad => 0x07
  | attributeReadOnly => 0x10
  | attributeTypeInvalid => 0x12
  | deviceError => 0x30
  | functionNotParallel => 0x51
  | functionNotSupported => 0x54
  | keySizeRange => 0x62
  | keyTypeInconsistent => 0x63
  | keyFunctionNotPermitted => 0x68
  | mechanismInvalid => 0x70
  | objectHandleInvalid => 0x82
  | operationActive => 0x90
  | operationNotInitialized => 0x91
  | pinIncorrect => 0xA0
  | pinLenRange => 0xA2
  | pinLocked => 0xA4
  | sessionCount => 0xB1
  | sessionHandleInvalid => 0xB3
  | sessionParallelNotSupported => 0xB4
  | sessionReadOnly => 0xB5
  | tokenNotPresent => 0xE0
  | userAlreadyLoggedIn => 0x100
  | userNotLoggedIn => 0x101
  | userPinNotInitialized => 0x102
  | userTypeInvalid => 0x103
  | randomNoRng => 0x121
  | domainParamsInvalid => 0x130
  | bufferTooSmall => 0x150
  | cryptokiNotInitialized => 0x190
  | cryptokiAlreadyInitialized => 0x191

/-! ## Limits and handle bases -/

def hsmMaxSessions : Nat := 64
def hsmMaxObjects : Nat := 1024
def hsmMaxPinLen : Nat := 32
def hsmMinPinLen : Nat := 4
def hsmMaxFindObjects : Nat := 100
def hsmPinRetryCount : Nat := 3
def hsmSessionTimeout : Nat := 300

def objectHandlePublicKeyBase : Nat := 0x10000000
def objectHandlePrivateKeyBase : Nat := 0x20000000
def objectHandleCertBase : Nat := 0x30000000
def objectHandleDataBase : Nat := 0x40000000

/-! ## Constants of the interface -/

def ckTrue : UInt8 := 1
def ckFalse : UInt8 := 0
def ckUnavailableInformation : CkUlong := 2 ^ 64 - 1

def ckuSo : CkUserType := 0
def ckuUser : CkUserType := 1

def ckfRwSession : CkFlags := 0x2
def ckfSerialSession : CkFlags := 0x4

def ckaClass : CkAttributeType := 0x000
def ckaToken : CkAttributeType := 0x001
def ckaPrivate : CkAttributeType := 0x002
def ckaLabel : CkAttributeType := 0x003
def ckaKeyType : CkAttributeType := 0x100
def ckaId : CkAttributeType := 0x102
def ckaSensitive : CkAttributeType := 0x103
def ckaSign : CkAttributeType := 0x108
def ckaVerify : CkAttributeType := 0x10A
def ckaModulusBits : CkAttributeType := 0x121
def ckaPublicExponent : CkAttributeType := 0x122
def ckaExtractable : CkAttributeType := 0x162
def ckaEcParams : CkAttributeType := 0x180

def ckkRsa : CkUlong := 0x0
def ckkEc : CkUlong := 0x3

def ckmRsaPkcsKeyPairGen : CkMechanismType := 0x0000
def ckmRsaPkcs : CkMechanismType := 0x0001
def ckmRsaPkcsPss : CkMechanismType := 0x000D
def ckmSha256RsaPkcs : CkMechanismType := 0x0040
def ckmSha384RsaPkcs : CkMechanismType := 0x0041
def ckmSha512RsaPkcs : CkMechanismType := 0x0042
def ckmSha256RsaPkcsPss : CkMechanismType := 0x0043
def ckmSha384RsaPkcsPss : CkMechanismType := 0x0044
def ckmSha512RsaPkcsPss : CkMechanismType := 0x0045
def ckmSha256 : CkMechanismType := 0x0250
def ckmSha384 : CkMechanismType := 0x0260
def ckmSha512 : CkMechanismType := 0x0270
def ckmEcKeyPairGen : CkMechanismType := 0x1040
def ckmEcdsa : CkMechanismType := 0x1041
def ckmEcdsaSha256 : CkMechanismType := 0x1044
def ckmEcdsaSha384 : CkMechanismType := 0x1045
def ckmEcdsaSha512 : CkMechanismType := 0x1046

/-! ## Objects -/

def objTypeData : Nat := 0
def objTypeCertificate : Nat := 1
def objTypePublicKey : Nat := 2
def objTypePrivateKey : Nat := 3

def keyTypeRsa : Nat := 0
def keyTypeEc : Nat := 1

/-- A component is the bytes behind its pointer; a null pointer is no bytes. -/
structure HsmRsaKey where
  bits : Nat := 0
  modulus : Bytes := []
  publicExponent : Bytes := []
  privateExponent : Bytes := []
  prime1 : Bytes := []
  prime2 : Bytes := []
  exponent1 : Bytes := []
  exponent2 : Bytes := []
  coefficient : Bytes := []
  deriving DecidableEq

structure HsmEcKey where
  ecParams : Bytes := []
  ecPoint : Bytes := []
  ecPrivate : Bytes := []
  curveNid : Nat := 0
  deriving DecidableEq

/-- The members of the C union side by side. The library reads only the member
that the object's key type selects. -/
structure HsmKeyData where
  rsa : HsmRsaKey := {}
  ec : HsmEcKey := {}
  deriving DecidableEq

/-- The field defaults are what `calloc` leaves. -/
structure HsmObject where
  handle : CkObjectHandle := 0
  type : Nat := objTypeData
  isToken : Bool := false
  isPrivate : Bool := false
  isSensitive : Bool := false
  isExtractable : Bool := false
  label : Buffer 256 := Buffer.filled 256 0
  id : Buffer 64 := Buffer.filled 64 0
  idLen : Nat := 0
  keyType : Nat := keyTypeRsa
  keyData : HsmKeyData := {}
  canSign : Bool := false
  canVerify : Bool := false
  deriving DecidableEq

/-! ## Sessions -/

inductive HsmSessionState where
  | invalid
  | roPublic
  | roUser
  | rwPublic
  | rwUser
  | rwSo
  deriving DecidableEq

inductive HsmOperationType where
  | none
  | sign
  | verify
  deriving DecidableEq

/-- The OpenSSL context pointer is null in every operation the library starts. -/
structure HsmOperation where
  type : HsmOperationType := .none
  mechanism : CkMechanismType := 0
  keyHandle : CkObjectHandle := 0
  active : Bool := false
  deriving DecidableEq

structure HsmSession where
  handle : CkSessionHandle
  state : HsmSessionState
  isReadWrite : Bool
  userLoggedIn : Bool := false
  soLoggedIn : Bool := false
  operation : HsmOperation := {}
  findActive : Bool := false
  findResults : List CkObjectHandle := []
  findCount : Nat := 0
  findIndex : Nat := 0
  lastActivity : Nat
  deriving DecidableEq

/-! ## The slot and the process -/

structure HsmSlot where
  tokenPresent : Bool
  tokenLabel : Buffer 32
  tokenInitialized : Bool
  userPinInitialized : Bool
  soPinInitialized : Bool
  userPinHash : Buffer 32
  soPinHash : Buffer 32
  userPinRetryCount : Nat
  soPinRetryCount : Nat
  userPinLocked : Bool
  soPinLocked : Bool
  sessions : Table hsmMaxSessions HsmSession
  sessionCount : Nat
  objects : Table hsmMaxObjects HsmObject
  objectCount : Nat

/-- The context while the library is initialized. -/
structure HsmContext where
  slot : HsmSlot
  maxSessions : Nat
  maxObjects : Nat
  enforceTimeouts : Bool
  sessionTimeout : Nat

/-- A file name inside the key directory. -/
abbrev FileName := List Char

/-- What outlives the process: the two directories, the token file and the files
of the key directory. -/
structure Storage where
  storageDir : Bool
  keyDir : Bool
  tokenFile : Option Bytes
  keyFiles : AList (fun _ : FileName => Bytes)

/-- One process together with its storage. The context is absent before
`C_Initialize` and after `C_Finalize`; the two counters are static variables and
last as long as the process. -/
structure System where
  gHsmContext : Option HsmContext
  gNextSessionHandle : CkSessionHandle
  handleCounter : Nat
  storage : Storage

/-! ## What a call observes -/

/-- How the writing of one file goes. For each item passed to `fwrite`, either
all of it reaches the file or only its first bytes. -/
structure WriteOutcome where
  fopen : Bool
  fwrite : Nat → Option Nat

/-- Every step of the writing succeeds. -/
def WriteOutcome.Complete (outcome : WriteOutcome) : Prop :=
  outcome.fopen = true ∧ ∀ item, outcome.fwrite item = none

/-- The numbers of a generated RSA key as big-endian bytes. -/
structure RsaComponents where
  n : Bytes
  e : Bytes
  d : Bytes
  p : Bytes
  q : Bytes
  dmp1 : Bytes
  dmq1 : Bytes
  iqmp : Bytes

/-- The point and the scalar of a generated EC key. -/
structure EcComponents where
  point : Bytes
  priv : Bytes

inductive EvpMd where
  | sha256
  | sha384
  | sha512
  deriving DecidableEq

/-- The OpenSSL calls of one signature. Lengths of type `int` are integers. -/
structure Signer where
  newKey : HsmKeyData → Bool
  newMdCtx : Bool
  digestSignInit : Bool
  digestSignUpdate : Bool
  digestSignSize : HsmKeyData → Option Nat
  digestSignFinal : HsmKeyData → EvpMd → Bool → Bytes → Option Bytes
  rsaSize : HsmKeyData → Nat
  rsaPrivateEncrypt : HsmKeyData → Int → Bytes → Option Bytes
  ecdsaDoSign : HsmKeyData → Int → Bytes → Option Bytes

/-- The surroundings of one call: the clock, memory, files and OpenSSL. Of the calls of `malloc`
only that for the parameters of a curve is checked, and that one can fail here. -/
structure Env where
  now : Nat
  calloc : Nat → Bool
  malloc : Bool
  mkdirStorage : Bool
  mkdirKeys : Bool
  tokenRead : Bool
  tokenWrite : WriteOutcome
  objectWrite : Nat → WriteOutcome
  unlink : Bool
  keygenRsa : Nat → Option RsaComponents
  keygenEc : Nat → Option EcComponents
  signer : Signer
  randBytes : Int → Option Bytes

/-- SHA-256 as OpenSSL computes it. -/
abbrev Sha256 := Bytes → Buffer 32

/-- An attribute of a template: its type, the memory at its value pointer, and
the length the caller states. -/
structure CkAttribute where
  type : CkAttributeType
  pValue : Option Bytes
  ulValueLen : CkUlong
  deriving DecidableEq

/-- The bytes a read of the given size takes from the value pointer. Reading
through a null pointer is undefined in C and reads zero bytes here. -/
def CkAttribute.read (entry : CkAttribute) (amount : Nat) : Bytes :=
  Bytes.memory (entry.pValue.getD []) amount

/-- The number behind the pointer cast to `CK_ULONG *`. -/
def CkAttribute.readUlong (entry : CkAttribute) : CkUlong :=
  Bytes.ofLittleEndian (entry.read 8)

/-- The byte behind the pointer cast to `CK_BBOOL *`. -/
def CkAttribute.readBbool (entry : CkAttribute) : UInt8 :=
  (entry.read 1).headD 0

end PstHsm
