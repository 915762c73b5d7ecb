import Triangle.Std.Outcome
import Triangle.Std.Text

/-!
# The owner protocol

The signed requests of a device, as `protocol.mjs` builds them: the redemption of
an invite, an owner operation, and a permission update. A challenge is checked
against the request that was meant before anything is signed. Ed25519 and
SHA-256 stay parameters; a signature is of the fields of the message.
-/

namespace Triangle.OwnerCli

open Triangle.Std

/-- Why a command throws; `committed` is the flag that keeps the journal of a join. -/
inductive CliError
  | meshApi (status : Nat) (code message : Option String)
  | outcomeUnknown (committed : Bool)
  | localState (committed : Bool)
  | typeError
  | fileFailed
  deriving DecidableEq

/-- An Ed25519 private key; `x` is its public part. -/
structure PrivateJwk where
  x : String
  d : String
  deriving DecidableEq

/-- What an agent is created with. -/
structure AgentDraft where
  handle : String
  name : String
  description : String
  bounds : List String
  workloadPublicJwk : String
  deriving DecidableEq

/-- What an invite is created with: the hash of its secret, never the secret. -/
structure InviteParams where
  kind : String
  role : Option String
  displayNameHint : Option String
  emailHint : Option String
  expiresInSeconds : Option Nat
  secretSha256 : String
  deriving DecidableEq

/-- The owner operations. -/
inductive Operation
  | agentCreate
  | agentPause
  | agentResume
  | agentDelete
  | inviteCreate
  | inviteRevoke
  | ownerDeviceApprove
  | ownerDeviceRevoke
  | adminAgentPause
  | adminAgentDelete
  | adminOwnerRemove
  deriving DecidableEq

def Operation.name : Operation → String
  | .agentCreate => "agent.create"
  | .agentPause => "agent.pause"
  | .agentResume => "agent.resume"
  | .agentDelete => "agent.delete"
  | .inviteCreate => "invite.create"
  | .inviteRevoke => "invite.revoke"
  | .ownerDeviceApprove => "owner.device.approve"
  | .ownerDeviceRevoke => "owner.device.revoke"
  | .adminAgentPause => "admin.agent.pause"
  | .adminAgentDelete => "admin.agent.delete"
  | .adminOwnerRemove => "admin.owner.remove"

/-- `OPERATION_PATHS`. -/
def Operation.path (operation : Operation) (target : String) : String :=
  match operation with
  | .agentCreate => "/api/v1/agents"
  | .agentPause => "/api/v1/agents/" ++ target ++ "/pause"
  | .agentResume => "/api/v1/agents/" ++ target ++ "/resume"
  | .agentDelete => "/api/v1/agents/" ++ target
  | .inviteCreate => "/api/v1/invites"
  | .inviteRevoke => "/api/v1/invites/" ++ target ++ "/revoke"
  | .ownerDeviceApprove => "/api/v1/owners/me/devices/" ++ target ++ "/approve"
  | .ownerDeviceRevoke => "/api/v1/owners/me/devices/" ++ target ++ "/revoke"
  | .adminAgentPause => "/api/v1/admin/agents/" ++ target ++ "/pause"
  | .adminAgentDelete => "/api/v1/admin/agents/" ++ target
  | .adminOwnerRemove => "/api/v1/admin/owners/" ++ target ++ "/remove"

/-- `OPERATION_METHODS`, `POST` unless listed. -/
def Operation.method : Operation → String
  | .agentDelete => "DELETE"
  | .adminAgentDelete => "DELETE"
  | _ => "POST"

/-- The parameters of an operation. -/
inductive Params
  | empty
  | agent (draft : AgentDraft)
  | invite (params : InviteParams)
  deriving DecidableEq

/-- A challenge as the server returns it; a missing field is `none`. -/
structure Challenge where
  challengeId : String
  nonceSha256 : String
  authority : Option String
  inviteId : Option String
  operation : Option String
  target : Option String
  controllerId : Option String
  agentId : Option String
  deriving DecidableEq

/-- A redemption without its proofs. -/
structure RedemptionEnvelope where
  authority : String
  inviteId : String
  inviteSecret : String
  challengeId : String
  ownerPublicJwk : String
  deviceLabel : String
  displayName : Option String
  agent : Option AgentDraft
  deriving DecidableEq

/-- A signed redemption. -/
structure Redemption extends RedemptionEnvelope where
  ownerProof : String
  workloadProof : Option String
  deriving DecidableEq

/-- An owner operation without its proofs. -/
structure OperationEnvelope where
  authority : String
  controllerId : String
  challengeId : String
  operation : Operation
  target : Option String
  params : Params
  idempotencyKey : String
  deriving DecidableEq

/-- A signed owner operation. -/
structure OperationBody extends OperationEnvelope where
  proof : String
  workloadProof : Option String
  deriving DecidableEq

/-- A permission update without its proof. -/
structure PermissionsEnvelope where
  authority : String
  agentId : String
  controllerId : String
  challengeId : String
  expectedRevision : Int
  permissions : List (String × Bool)
  idempotencyKey : String
  deriving DecidableEq

/-- A signed permission update. -/
structure PermissionsBody extends PermissionsEnvelope where
  proof : String
  deriving DecidableEq

/-- What is signed: an envelope and the nonce of its challenge. -/
inductive Message
  | redemption (envelope : RedemptionEnvelope) (nonceSha256 : String)
  | operation (envelope : OperationEnvelope) (nonceSha256 : String)
  | permissions (envelope : PermissionsEnvelope) (nonceSha256 : String)

/-- The primitives, and which invites of the MESH are device invites. -/
structure Site where
  signBytes : PrivateJwk → Message → String
  sha256Hex : String → String
  deviceInvite : String → Bool

/-! ## Challenges -/

/-- The challenge has a nonce, and an id of its kind. -/
def Challenge.IsShaped (lead : String) (challenge : Challenge) : Prop :=
  Text.isHex64 challenge.nonceSha256 = true ∧
    Text.matchesLedClass (lead ++ "_challenge_") Text.isLowerHex 32 32 challenge.challengeId = true

instance (lead : String) (challenge : Challenge) : Decidable (challenge.IsShaped lead) :=
  inferInstanceAs (Decidable (_ ∧ _))

/-- `assertChallenge` for the redemption of an invite. -/
def Challenge.IsForInvite (authority inviteId : String) (challenge : Challenge) : Prop :=
  challenge.IsShaped "invite" ∧ challenge.inviteId = some inviteId ∧
    challenge.authority = some authority

instance (authority inviteId : String) (challenge : Challenge) :
    Decidable (challenge.IsForInvite authority inviteId) :=
  inferInstanceAs (Decidable (_ ∧ _ ∧ _))

/-- `assertChallenge` for an owner operation. -/
def Challenge.IsForOperation (authority controllerId : String) (operation : Operation)
    (target : Option String) (challenge : Challenge) : Prop :=
  challenge.IsShaped "owner" ∧ challenge.operation = some operation.name ∧
    challenge.target = target ∧ challenge.authority = some authority ∧
    challenge.controllerId = some controllerId

instance (authority controllerId : String) (operation : Operation) (target : Option String)
    (challenge : Challenge) :
    Decidable (challenge.IsForOperation authority controllerId operation target) :=
  inferInstanceAs (Decidable (_ ∧ _ ∧ _ ∧ _ ∧ _))

/-- `assertChallenge` for a permission update. -/
def Challenge.IsForPermissions (authority controllerId agentId : String) (challenge : Challenge) :
    Prop :=
  challenge.IsShaped "owner" ∧ challenge.operation = some "agent.permissions.update" ∧
    challenge.agentId = some agentId ∧ challenge.authority = some authority ∧
    challenge.controllerId = some controllerId

instance (authority controllerId agentId : String) (challenge : Challenge) :
    Decidable (challenge.IsForPermissions authority controllerId agentId) :=
  inferInstanceAs (Decidable (_ ∧ _ ∧ _ ∧ _ ∧ _))

/-! ## Requests -/

section

variable (site : Site)

/-- `agentDraft`, for a handle and a name that it accepts. -/
def agentDraft (handle name description : String) (bounds : List String) (workloadKey : PrivateJwk) :
    AgentDraft where
  handle := handle
  name := name
  description := description
  bounds := ["agent.read", "agent.write"].filter fun bound => bound ∈ bounds
  workloadPublicJwk := workloadKey.x

/-- `buildRedemption`. -/
def buildRedemption (authority inviteId secret : String) (challenge : Challenge)
    (ownerKey : PrivateJwk) (deviceLabel : String) (displayName : Option String)
    (agent : Option AgentDraft) (workloadKey : Option PrivateJwk) : Except CliError Redemption := do
  require (challenge.IsForInvite authority inviteId) .typeError
  require (agent.isNone = workloadKey.isNone) .typeError
  let envelope : RedemptionEnvelope :=
    { authority := authority
      inviteId := inviteId
      inviteSecret := secret
      challengeId := challenge.challengeId
      ownerPublicJwk := ownerKey.x
      deviceLabel := deviceLabel
      displayName := displayName
      agent := agent }
  let message := Message.redemption envelope challenge.nonceSha256
  pure
    { envelope with
      ownerProof := site.signBytes ownerKey message
      workloadProof := workloadKey.map fun key => site.signBytes key message }

/-- `buildOwnerOperation`. -/
def buildOwnerOperation (authority controllerId : String) (ownerKey : PrivateJwk)
    (challenge : Challenge) (operation : Operation) (target : Option String) (params : Params)
    (idempotencyKey : String) (workloadKey : Option PrivateJwk) : Except CliError OperationBody := do
  require (challenge.IsForOperation authority controllerId operation target) .typeError
  let envelope : OperationEnvelope :=
    { authority := authority
      controllerId := controllerId
      challengeId := challenge.challengeId
      operation := operation
      target := target
      params := params
      idempotencyKey := idempotencyKey }
  let message := Message.operation envelope challenge.nonceSha256
  pure
    { envelope with
      proof := site.signBytes ownerKey message
      workloadProof := workloadKey.map fun key => site.signBytes key message }

/-- `buildPermissionsUpdate`. -/
def buildPermissionsUpdate (authority controllerId : String) (ownerKey : PrivateJwk)
    (agentId : String) (challenge : Challenge) (expectedRevision : Int)
    (permissions : List (String × Bool)) (idempotencyKey : String) :
    Except CliError PermissionsBody := do
  require (challenge.IsForPermissions authority controllerId agentId) .typeError
  let envelope : PermissionsEnvelope :=
    { authority := authority
      agentId := agentId
      controllerId := controllerId
      challengeId := challenge.challengeId
      expectedRevision := expectedRevision
      permissions := permissions
      idempotencyKey := idempotencyKey }
  pure
    { envelope with
      proof := site.signBytes ownerKey (.permissions envelope challenge.nonceSha256) }

end

end Triangle.OwnerCli
