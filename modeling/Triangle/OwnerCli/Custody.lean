import Triangle.OwnerCli.Protocol
import Triangle.Semantics.Serial

/-!
# Custody and transport

The files of a home, as calls: each is read whole, and replaced or removed whole.
A request to the MESH is a call as well; `send` is what the transport makes of
the answer. A command is a program over these calls.
-/

namespace Triangle.OwnerCli

open Triangle.Std Triangle.Semantics

/-! ## Answers of the server -/

/-- What comes back for a request: nothing, a status whose body cannot be read, or a status
with a body, of which an error has a code and a message. -/
inductive Response (Body : Type)
  | lost
  | unreadable (status : Nat) (tooLarge : Bool)
  | answered (status : Nat) (error message : Option String) (body : Option Body)
  deriving DecidableEq

/-- `transport.send`: a lost answer, or a server error, leaves the outcome of a mutation unknown. -/
def Response.read {Body : Type} (mutating : Bool) : Response Body → Except CliError (Option Body)
  | .lost =>
      .error (if mutating = true then .outcomeUnknown false
        else .meshApi 0 (some "network_error") (some "Cannot reach the MESH."))
  | .unreadable status tooLarge =>
      if status = 304 then .ok none
      else if mutating = true ∧ ¬ (300 ≤ status ∧ status < 500) then .error (.outcomeUnknown false)
      else .error (.meshApi status
        (some (if tooLarge = true then "response_too_large" else "network_error"))
        (some "Unreadable response from the MESH."))
  | .answered status error message body =>
      if status = 304 then .ok none
      else if 200 ≤ status ∧ status < 300 then .ok body
      else if mutating = true ∧ 500 ≤ status then .error (.outcomeUnknown false)
      else .error (.meshApi status error message)

/-- `controller` of a join result. -/
structure ControllerView where
  controllerId : String
  jkt : String
  fingerprint : String
  deviceLabel : String
  state : String
  deriving DecidableEq

structure WorkloadView where
  workloadId : String
  bounds : List String
  deriving DecidableEq

/-- `agent` of a join result, or the result of `agent.create`. -/
structure AgentView where
  agentId : String
  handle : String
  name : String
  workload : Option WorkloadView
  deriving DecidableEq

/-- `result` of a redemption. -/
structure JoinResult where
  ownerId : String
  ownerRole : Option String
  controller : Option ControllerView
  agent : Option AgentView
  deriving DecidableEq

/-- The body of an accepted redemption. -/
structure JoinAnswer where
  outcome : Option String
  result : Option JoinResult
  deriving DecidableEq

/-- The body of an accepted operation: `agent` and `inviteId` are read of `result`. -/
structure OperationAnswer where
  outcome : Option String
  agent : Option AgentView
  inviteId : Option String
  deriving DecidableEq

/-- A permissions document. -/
structure PermissionsView where
  agentId : String
  revision : Option Int
  permissions : List (String × Bool)
  deriving DecidableEq

/-! ## Files -/

/-- `owner/controller.json`. -/
structure ControllerRecord where
  ownerId : String
  ownerRole : Option String
  controllerId : String
  jkt : String
  fingerprint : String
  deviceLabel : String
  state : String
  displayName : Option String
  deriving DecidableEq

/-- `agents/<agent_id>/agent.json`. -/
structure AgentRecord where
  agentId : String
  handle : String
  name : String
  workloadId : String
  bounds : List String
  authority : String
  deriving DecidableEq

/-- What a join is made of, before it is signed. -/
structure JoinDraft where
  authority : String
  inviteId : String
  inviteSecret : String
  deviceLabel : String
  displayName : Option String
  ownerKey : PrivateJwk
  workloadKey : Option PrivateJwk
  agent : Option AgentDraft
  deriving DecidableEq

/-- The journal of a join, with the redemption as it was signed last. -/
structure JoinJournal extends JoinDraft where
  body : Redemption
  deriving DecidableEq

/-- The journal entry of an owner operation. -/
structure OperationEntry where
  operation : Operation
  target : Option String
  method : String
  path : String
  body : OperationBody
  workloadKey : Option PrivateJwk
  inviteSecret : Option String
  outcomeUnknown : Bool
  deriving DecidableEq

/-- The journal entry of a permission update. -/
structure PermissionsEntry where
  agentId : String
  path : String
  body : PermissionsBody
  outcomeUnknown : Bool
  deriving DecidableEq

/-- An entry of the journal; that of `setup` names choices only. -/
inductive Entry
  | join (journal : JoinJournal)
  | operation (entry : OperationEntry)
  | permissions (entry : PermissionsEntry)
  | setup (agentId : Option String)
  deriving DecidableEq

/-- The workload key that an entry holds. -/
def Entry.workloadKey : Entry → Option PrivateJwk
  | .join journal => journal.workloadKey
  | .operation entry => entry.workloadKey
  | _ => none

/-- The secret of the invite that an entry creates. -/
def Entry.createdSecret : Entry → Option String
  | .operation entry => entry.inviteSecret
  | _ => none

/-! ## Calls -/

/-- The calls of a command. -/
inductive Call
  | readJournal (name : String)
  | writeJournal (name : String) (entry : Entry)
  | removeJournal (name : String)
  | listJournal
  | readAuthority
  | writeAuthority (authority : String)
  | readOwnerKey
  | writeOwnerKey (key : PrivateJwk)
  | readController
  | writeController (record : ControllerRecord)
  | readAgent (agentId : String)
  | writeAgent (agentId : String) (record : AgentRecord)
  | writeWorkloadKey (agentId : String) (key : PrivateJwk)
  | removeAgent (agentId : String)
  | writeCache (agentId : String) (view : PermissionsView)
  | generateEd25519
  | randomToken
  | randomHex
  | inviteChallenge (inviteId : String)
  | operationChallenge (operation : Operation) (target : Option String)
  | permissionsChallenge (agentId : String)
  | readOwner
  | readPermissions (agentId : String)
  | redeem (inviteId : String) (body : Redemption)
  | operate (method path : String) (body : OperationBody)
  | updatePermissions (path : String) (body : PermissionsBody)
  | stdout (link : Option String)

/-- What a call answers. -/
@[reducible] def Answer : Call → Type
  | .readJournal _ => Except CliError (Option Entry)
  | .writeJournal _ _ => Except CliError Unit
  | .removeJournal _ => Except CliError Unit
  | .listJournal => Except CliError (List String)
  | .readAuthority => Except CliError (Option String)
  | .writeAuthority _ => Except CliError Unit
  | .readOwnerKey => Except CliError (Option PrivateJwk)
  | .writeOwnerKey _ => Except CliError Unit
  | .readController => Except CliError (Option ControllerRecord)
  | .writeController _ => Except CliError Unit
  | .readAgent _ => Except CliError (Option AgentRecord)
  | .writeAgent _ _ => Except CliError Unit
  | .writeWorkloadKey _ _ => Except CliError Unit
  | .removeAgent _ => Except CliError Unit
  | .writeCache _ _ => Except CliError Unit
  | .generateEd25519 => PrivateJwk
  | .randomToken => String
  | .randomHex => String
  | .inviteChallenge _ => Response Challenge
  | .operationChallenge _ _ => Response Challenge
  | .permissionsChallenge _ => Response Challenge
  | .readOwner => Response Unit
  | .readPermissions _ => Response PermissionsView
  | .redeem _ _ => Response JoinAnswer
  | .operate _ _ _ => Response OperationAnswer
  | .updatePermissions _ _ => Response PermissionsView
  | .stdout _ => Except CliError Unit

/-- A part of a command. -/
abbrev Task := Program Call Answer CliError

/-- One call. -/
def ask (request : Call) : Task (Answer request) :=
  Program.request request

/-- One call that may throw. -/
def ask! {α : Type} (request : Call) (read : Answer request → Except CliError α) : Task α :=
  Program.attempt request read id

/-- A challenge, that the server must send. -/
def Response.challenge (response : Response Challenge) : Except CliError Challenge := do
  let body ← response.read false
  expect body .typeError

end Triangle.OwnerCli
