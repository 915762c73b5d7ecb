import Triangle.Identity.Primitives
import Triangle.Identity.RegistryFile
import Triangle.Std.Outcome
import Triangle.Std.Table

/-!
# The identity registry

The registry maps an instance id to the binding of its profile.
`updateIdentityRegistry` hands a copy to its caller, validates what comes back
against the closed schema, and admits it only where it differs from the old one as
the announced action says.

The lock, the custody of the files and the audit log that is written beside the
registry are left out: where they fail, the registry stays as it was.
-/

namespace Triangle.Identity

open Triangle.Std

/-- A binding. Its schema, trust mode and proof are the same in all of them. -/
structure ProfileBinding where
  bindingId : String
  principalId : String
  profileName : String
  profileInstanceId : String
  authorityOrigin : String
  bindingGeneration : Int
  issuedAt : String
  revokedAt : Option String
  deriving DecidableEq

/-- `bindings`, by instance id. -/
abbrev Bindings :=
  Table ProfileBinding.profileInstanceId

/-- `auditHead`. -/
structure AuditHead where
  sequence : Int
  hash : String

/-- A registry of the schema `identity_registry_v1`. -/
structure Registry where
  sequence : Int
  createdAt : String
  updatedAt : String
  auditHead : AuditHead
  bindings : Bindings

/-- `codedError("invalid_registry", reason)`. -/
def invalidRegistry (reason : String) : RegistryError :=
  ⟨"invalid_registry", reason⟩

/-- `IDENTITY_REGISTRY_SCHEMA`. -/
def identityRegistrySchema : String := "identity_registry_v1"

/-- `LOCAL_PROFILE_BINDING_SCHEMA`. -/
def localProfileBindingSchema : String := "local_profile_binding_v1"

/-- `MAX_REGISTRY_BINDINGS`. -/
def maxRegistryBindings : Nat := 1000

/-- `MAX_REGISTRY_BYTES`. -/
def maxRegistryBytes : Nat := 1024 * 1024

/-! ## The JSON of a registry -/

/-- `proof` of every binding. -/
def bindingProof : Json :=
  .obj [("kind", .str "disk_observation"), ("observed_on_disk", .bool true),
    ("verified_live_authority", .bool false)]

/-- A nullable text as JSON. -/
def textOrNull (text : Option String) : Json :=
  (text.map Json.str).getD .null

/-- The fields of a binding. -/
def ProfileBinding.fields (binding : ProfileBinding) : List (String × Json) :=
  [("schema", .str localProfileBindingSchema),
    ("binding_id", .str binding.bindingId),
    ("trust_mode", .str "mesh-managed"),
    ("principal_id", .str binding.principalId),
    ("profile_name", .str binding.profileName),
    ("profile_instance_id", .str binding.profileInstanceId),
    ("authority_origin", .str binding.authorityOrigin),
    ("binding_generation", .int binding.bindingGeneration),
    ("issued_at", .str binding.issuedAt),
    ("revoked_at", textOrNull binding.revokedAt),
    ("proof", bindingProof)]

/-- A binding as JSON. -/
def ProfileBinding.toJson (binding : ProfileBinding) : Json :=
  .obj binding.fields

/-- `auditHead` as JSON. -/
def AuditHead.toJson (head : AuditHead) : Json :=
  .obj [("sequence", .int head.sequence), ("hash", .str head.hash)]

/-- `bindings` as JSON. -/
def bindingFields (bindings : Bindings) : List (String × Json) :=
  bindings.rows.map fun binding => (binding.profileInstanceId, binding.toJson)

/-- A registry as JSON. -/
def Registry.toJson (registry : Registry) : Json :=
  .obj [("schema", .str identityRegistrySchema),
    ("sequence", .int registry.sequence),
    ("createdAt", .str registry.createdAt),
    ("updatedAt", .str registry.updatedAt),
    ("auditHead", registry.auditHead.toJson),
    ("bindings", .obj (bindingFields registry.bindings))]

/-! ## Validation -/

/-- The object has the allowed keys and no others. -/
def requireKeys (fields : List (String × Json)) (allowed : List String) (unknown missing : String) :
    Except RegistryError Unit := do
  require (∀ key ∈ Json.ownKeys fields, key ∈ allowed) (invalidRegistry unknown)
  require ((Json.ownKeys fields).length = allowed.length) (invalidRegistry missing)

/-- A string that a check accepts. -/
def acceptedText (accepts : String → Bool) : Json → Option String
  | .str text => if accepts text then some text else none
  | _ => none

/-- `Number.isSafeInteger(value) && value >= low`. -/
def safeInteger (low : Int) : Json → Option Int
  | .int value => if Json.isSafe value ∧ low ≤ value then some value else none
  | _ => none

/-- A timestamp with its instant. -/
def instantText : Json → Option (String × Int)
  | .str text => (parseIsoUtc text).map fun instant => (text, instant)
  | _ => none

/-- `value === text`. -/
def isText (text : String) (value : Json) : Bool :=
  (acceptedText (· = text) value).isSome

/-- `value === flag`. -/
def isFlag (flag : Bool) : Json → Bool
  | .bool value => value = flag
  | _ => false

/-- `revoked_at`, which is `null` or no earlier than `issued_at`. -/
def readRevokedAt (issuedMs : Int) : Json → Except RegistryError (Option String)
  | .null => .ok none
  | value => do
      let (text, revokedMs) ← expect (instantText value) (invalidRegistry "invalid_revoked_at")
      require (issuedMs ≤ revokedMs) (invalidRegistry "revoked_before_issued")
      return some text

/-- `proof` of a binding. -/
def validateProof : Json → Except RegistryError Unit
  | .obj fields => do
      requireKeys fields ["kind", "observed_on_disk", "verified_live_authority"]
        "unknown_proof_key" "missing_proof_key"
      require (isText "disk_observation" (Json.property fields "kind") ∧
          isFlag true (Json.property fields "observed_on_disk") ∧
          isFlag false (Json.property fields "verified_live_authority"))
        (invalidRegistry "invalid_proof_values")
  | _ => .error (invalidRegistry "invalid_proof")

/-- `BINDING_KEYS`. -/
def bindingKeys : List String :=
  ["schema", "binding_id", "trust_mode", "principal_id", "profile_name", "profile_instance_id",
    "authority_origin", "binding_generation", "issued_at", "revoked_at", "proof"]

/-- `REGISTRY_TOP_KEYS`. -/
def registryTopKeys : List String :=
  ["schema", "sequence", "createdAt", "updatedAt", "auditHead", "bindings"]

section

variable (platform : Platform)

/-- `validateBindingRecord`; the binding ids seen are those of the records before. -/
def validateBindingRecord (key : String) (binding : Json) (seen : Bindings) :
    Except RegistryError ProfileBinding :=
  match binding with
  | .obj fields => do
      requireKeys fields bindingKeys "unknown_binding_key" "missing_binding_key"
      require (isText localProfileBindingSchema (Json.property fields "schema"))
        (invalidRegistry "invalid_binding_schema")
      let bindingId ← expect (acceptedText isBindingId (Json.property fields "binding_id"))
        (invalidRegistry "invalid_binding_id")
      require (∀ other ∈ seen.rows, other.bindingId ≠ bindingId)
        (invalidRegistry "duplicate_binding_id")
      require (isText "mesh-managed" (Json.property fields "trust_mode"))
        (invalidRegistry "invalid_trust_mode")
      let principalId ← expect (acceptedText isAgentId (Json.property fields "principal_id"))
        (invalidRegistry "invalid_principal_id")
      let profileName ← expect
        (acceptedText isValidProfileName (Json.property fields "profile_name"))
        (invalidRegistry "invalid_profile_name")
      let profileInstanceId ← expect
        (acceptedText Text.isHex64 (Json.property fields "profile_instance_id"))
        (invalidRegistry "invalid_profile_instance_id")
      require (profileInstanceId = deriveClientInstanceId platform profileName)
        (invalidRegistry "profile_instance_id_mismatch")
      require (key = profileInstanceId) (invalidRegistry "binding_key_mismatch")
      let authorityOrigin ← expect
        (acceptedText (isValidBareHttpsOrigin platform) (Json.property fields "authority_origin"))
        (invalidRegistry "invalid_authority_origin")
      let bindingGeneration ← expect
        (safeInteger 1 (Json.property fields "binding_generation"))
        (invalidRegistry "invalid_binding_generation")
      let (issuedAt, issuedMs) ← expect (instantText (Json.property fields "issued_at"))
        (invalidRegistry "invalid_issued_at")
      let revokedAt ← readRevokedAt issuedMs (Json.property fields "revoked_at")
      validateProof (Json.property fields "proof")
      return {
        bindingId := bindingId
        principalId := principalId
        profileName := profileName
        profileInstanceId := profileInstanceId
        authorityOrigin := authorityOrigin
        bindingGeneration := bindingGeneration
        issuedAt := issuedAt
        revokedAt := revokedAt }
  | _ => .error (invalidRegistry "binding_not_object")

/-- One round of the loop over the keys of `bindings`. -/
def addBinding (fields : List (String × Json)) (seen : Bindings) (key : String) :
    Except RegistryError Bindings := do
  require (Text.isHex64 key) (invalidRegistry "invalid_binding_map_key")
  let binding ← validateBindingRecord platform key (Json.property fields key) seen
  return seen.upsert binding

/-- The bindings of a registry. -/
def validateBindings (fields : List (String × Json)) : Except RegistryError Bindings := do
  require ((Json.sortedKeys fields).length ≤ maxRegistryBindings)
    (invalidRegistry "too_many_bindings")
  (Json.sortedKeys fields).foldlM (addBinding platform fields) .empty

end

/-- The audit head of a registry at a sequence. -/
def validateAuditHead (sequence : Int) : Json → Except RegistryError AuditHead
  | .obj fields => do
      requireKeys fields ["sequence", "hash"] "unknown_audit_head_key" "missing_audit_head_key"
      let headSequence ← expect (safeInteger 0 (Json.property fields "sequence"))
        (invalidRegistry "invalid_audit_head_sequence")
      require (headSequence = sequence) (invalidRegistry "invalid_audit_head_sequence")
      let hash ← expect (acceptedText Text.isHex64 (Json.property fields "hash"))
        (invalidRegistry "invalid_audit_head_hash")
      require (sequence = 0 → hash = zeroHash64) (invalidRegistry "invalid_zero_sequence_hash")
      require (0 < sequence → hash ≠ zeroHash64) (invalidRegistry "invalid_nonzero_sequence_hash")
      return ⟨headSequence, hash⟩
  | _ => .error (invalidRegistry "invalid_audit_head")

section

variable (platform : Platform)

/-- `validateIdentityRegistry`. -/
def validateIdentityRegistry : Json → Except RegistryError Registry
  | .obj fields => do
      requireKeys fields registryTopKeys "unknown_registry_key" "missing_registry_key"
      require (isText identityRegistrySchema (Json.property fields "schema"))
        (invalidRegistry "invalid_registry_schema")
      let sequence ← expect (safeInteger 0 (Json.property fields "sequence"))
        (invalidRegistry "invalid_sequence")
      let (createdAt, createdMs) ← expect (instantText (Json.property fields "createdAt"))
        (invalidRegistry "invalid_created_at")
      let (updatedAt, updatedMs) ← expect (instantText (Json.property fields "updatedAt"))
        (invalidRegistry "invalid_updated_at")
      require (createdMs ≤ updatedMs) (invalidRegistry "updated_before_created")
      let auditHead ← validateAuditHead sequence (Json.property fields "auditHead")
      match Json.property fields "bindings" with
      | .obj rawBindings =>
          let bindings ← validateBindings platform rawBindings
          let cleanRegistry : Registry :=
            { sequence := sequence
              createdAt := createdAt
              updatedAt := updatedAt
              auditHead := auditHead
              bindings := bindings }
          require ((Json.canonicalJson cleanRegistry.toJson ++ "\n").utf8ByteSize ≤
              maxRegistryBytes)
            (invalidRegistry "registry_oversized")
          return cleanRegistry
      | _ => .error (invalidRegistry "bindings_not_object")
  | _ => .error (invalidRegistry "registry_not_object")

end

/-! ## Updates -/

/-- `AUDIT_ACTIONS`. -/
inductive AuditAction
  | init
  | bind
  | revoke
  deriving DecidableEq, Repr

/-- The stored text of an action. -/
def AuditAction.name : AuditAction → String
  | .init => "init"
  | .bind => "bind"
  | .revoke => "revoke"

/-- What is read of the registry file. -/
inductive RegistryState
  | absent
  | ok (registry : Registry)

/-- The bindings of what was read. -/
def RegistryState.bindings : RegistryState → Bindings
  | .absent => .empty
  | .ok registry => registry.bindings

/-- Nothing was written yet. -/
def RegistryState.isAbsent : RegistryState → Bool
  | .absent => true
  | .ok _ => false

/-- `canonicalJson(first) === canonicalJson(second)`. -/
def sameBinding (first second : ProfileBinding) : Bool :=
  Json.canonicalJson first.toJson = Json.canonicalJson second.toJson

/-- The bindings of all other subjects stay. -/
def othersUnchanged (oldBindings nextBindings : Bindings) (subject : String) : Bool :=
  (oldBindings.rows.all fun old => old.profileInstanceId = subject ||
    (nextBindings.find? old.profileInstanceId).any fun next => sameBinding next old) &&
  nextBindings.rows.all fun next => next.profileInstanceId = subject ||
    (oldBindings.find? next.profileInstanceId).isSome

/-- A mutation that the action does not cover. -/
def mutationMismatch : RegistryError :=
  invalidRegistry "mutation_does_not_match_action"

/-- What a new binding must keep of the old one. -/
def checkRebind (oldB nextB : ProfileBinding) : Except RegistryError Unit := do
  require (nextB.bindingGeneration = oldB.bindingGeneration + 1 ∧ nextB.revokedAt = none ∧
      nextB.bindingId ≠ oldB.bindingId ∧ nextB.profileName = oldB.profileName ∧
      nextB.profileInstanceId = oldB.profileInstanceId)
    mutationMismatch
  require (nextB.principalId = oldB.principalId ∧ nextB.authorityOrigin = oldB.authorityOrigin)
    ⟨"binding_conflict", "identity_change_requires_move"⟩

/-- `assertMutationMatchesAction`; it returns the id of the binding. -/
def assertMutationMatchesAction (current : RegistryState) (oldBindings nextBindings : Bindings)
    (action : AuditAction) (subject : Option String) : Except RegistryError (Option String) :=
  match action, subject with
  | .init, _ => do
      require (current.isAbsent ∧ nextBindings.rows = []) mutationMismatch
      return none
  | _, none => .error (invalidRegistry "subject_required_for_action")
  | .bind, some subject => do
      require (othersUnchanged oldBindings nextBindings subject) mutationMismatch
      let nextB ← expect (nextBindings.find? subject) mutationMismatch
      match oldBindings.find? subject with
      | none =>
          require (nextB.bindingGeneration = 1 ∧ nextB.revokedAt = none) mutationMismatch
      | some oldB => checkRebind oldB nextB
      require (∀ binding ∈ nextBindings.rows, ¬ (binding.profileInstanceId ≠ subject ∧
          binding.revokedAt = none ∧ binding.principalId = nextB.principalId))
        ⟨"binding_conflict", "principal_already_bound"⟩
      return some nextB.bindingId
  | .revoke, some subject => do
      require (othersUnchanged oldBindings nextBindings subject) mutationMismatch
      let nextB ← expect (nextBindings.find? subject) mutationMismatch
      let oldB ← expect (oldBindings.find? subject) mutationMismatch
      require (oldB.revokedAt = none ∧ nextB.revokedAt ≠ none) mutationMismatch
      require (sameBinding nextB { oldB with revokedAt := nextB.revokedAt }) mutationMismatch
      return some nextB.bindingId

/-- The arguments of `updateIdentityRegistry`, with `now` as its timestamp. -/
structure UpdateArgs where
  expectedSequence : Int
  nowIso : String
  action : AuditAction
  subject : Option String
  mutate : Json → Json

/-- The registry that an update starts from. -/
def baseRegistry (current : RegistryState) (nowIso : String) : Registry :=
  match current with
  | .absent =>
      { sequence := 0
        createdAt := nowIso
        updatedAt := nowIso
        auditHead := ⟨0, zeroHash64⟩
        bindings := .empty }
  | .ok registry => registry

/-- The audit head of what `mutate` returned is the old one. -/
def isAuditHead (head : AuditHead) : Json → Bool
  | .obj fields => safeInteger 0 (Json.property fields "sequence") = some head.sequence &&
      isText head.hash (Json.property fields "hash")
  | _ => false

/-- `mutate` must not touch the sequence, the times or the audit head. -/
def checkProtected (current : RegistryState) (base : Registry) (mutated : List (String × Json)) :
    Except RegistryError Unit := do
  require (safeInteger 0 (Json.property mutated "sequence") = some base.sequence ∧
      isText base.updatedAt (Json.property mutated "updatedAt") ∧
      isAuditHead base.auditHead (Json.property mutated "auditHead"))
    (invalidRegistry "mutate_modified_protected_fields")
  match current with
  | .absent => return ()
  | .ok registry =>
      require (isText registry.createdAt (Json.property mutated "createdAt"))
        (invalidRegistry "mutate_modified_created_at")

/-- `{ ...fields, [key]: value }`. -/
def withField (fields : List (String × Json)) (key : String) (value : Json) :
    List (String × Json) :=
  fields.filter (fun field => field.1 ≠ key) ++ [(key, value)]

/-- `{ ...fields, sequence, updatedAt, auditHead }`. -/
def withProtected (fields : List (String × Json)) (sequence : Int) (updatedAt hash : String) :
    Json :=
  .obj (withField (withField (withField fields "sequence" (.int sequence))
    "updatedAt" (.str updatedAt)) "auditHead" (AuditHead.toJson ⟨sequence, hash⟩))

section

variable (platform : Platform)

/-- The hash of `buildAuditEntry`. -/
def auditEntryHash (sequence : Int) (nowIso : String) (action : AuditAction)
    (subject bindingId : Option String) (prevHash : String) : String :=
  platform.sha256Hex (Json.canonicalJson (.obj [("sequence", .int sequence),
    ("at", .str nowIso), ("action", .str action.name), ("subject", textOrNull subject),
    ("bindingId", textOrNull bindingId), ("prevHash", .str prevHash)]))

/-- `updateIdentityRegistry`, up to the files that it writes. -/
def updateIdentityRegistry (current : RegistryState) (args : UpdateArgs) :
    Except RegistryError Registry := do
  require (Json.isSafe args.expectedSequence ∧ 0 ≤ args.expectedSequence)
    (invalidRegistry "invalid_expected_sequence")
  require (∀ subject ∈ args.subject, Text.isHex64 subject)
    (invalidRegistry "invalid_audit_subject")
  require (args.action = .init → args.subject = none)
    (invalidRegistry "init_subject_must_be_null")
  require (args.action ≠ .init → args.subject ≠ none)
    (invalidRegistry "subject_required_for_action")
  require ((parseIsoUtc args.nowIso).isSome) (invalidRegistry "invalid_timestamp")
  let base := baseRegistry current args.nowIso
  require (base.sequence = args.expectedSequence)
    ⟨"registry_sequence_conflict", "sequence_mismatch"⟩
  require (current.isAbsent → args.action ≠ .revoke) mutationMismatch
  match args.mutate base.toJson with
  | .obj mutated =>
      checkProtected current base mutated
      let nextSeq := base.sequence + 1
      let placeholder ← validateIdentityRegistry platform
        (withProtected mutated nextSeq args.nowIso (String.ofList (List.replicate 64 'a')))
      let bindingId ← assertMutationMatchesAction current base.bindings placeholder.bindings
        args.action args.subject
      let hash := auditEntryHash platform nextSeq args.nowIso args.action args.subject bindingId
        base.auditHead.hash
      validateIdentityRegistry platform
        (Registry.toJson { placeholder with auditHead := ⟨nextSeq, hash⟩ })
  | _ => .error (invalidRegistry "mutate_returned_non_object")

/-- The registry after an update that is called and may be cut off before its commit. -/
def registryStep (current : RegistryState) (call : UpdateArgs × Bool) : RegistryState :=
  match updateIdentityRegistry platform current call.1, call.2 with
  | .ok registry, true => .ok registry
  | _, _ => current

end

end Triangle.Identity
