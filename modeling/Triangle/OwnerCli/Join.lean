import Mathlib.Data.List.Infix
import Triangle.OwnerCli.Session

/-!
# Joining

`join.mjs`: the keys are made, the redemption is signed, put into the journal
and sent. `resumeJoin` replays it, and signs it again with the same keys when its
challenge is gone.
-/

namespace Triangle.OwnerCli

open Triangle.Std Triangle.Semantics

/-- An invite link, as it is parsed. -/
structure InviteLink where
  authority : String
  inviteId : String
  secret : String

/-- The options of `triangle join`, with the defaults of the host filled in. -/
structure JoinOptions where
  link : InviteLink
  device : Bool
  deviceLabel : String
  displayName : String
  handle : String
  agentName : String

/-- `/device invite/i.test(message)`. -/
def namesDeviceInvite (message : String) : Bool :=
  "device invite".toList <:+: message.toList.map Char.toLower

/-- `isDeviceOnlyRefusal`. -/
def isDeviceOnlyRefusal : CliError → Bool
  | .meshApi 400 (some "invalid_request") (some message) => namesDeviceInvite message
  | _ => false

/-- `persistResult`. -/
def persistResult (journal : JoinJournal) (result : JoinResult) (controller : ControllerView) :
    Task Unit := do
  ask! (.writeAuthority journal.authority) id
  ask! (.writeController
    { ownerId := result.ownerId
      ownerRole := result.ownerRole
      controllerId := controller.controllerId
      jkt := controller.jkt
      fingerprint := controller.fingerprint
      deviceLabel := controller.deviceLabel
      state := controller.state
      displayName := journal.body.displayName }) id
  match result.agent with
  | none => pure ()
  | some agent => do
      writeWorkloadKey agent.agentId journal.workloadKey
      let workload ← Program.ofExcept (expect agent.workload .typeError)
      writeAgent journal.authority agent workload

/-- The controller that a join result must name. -/
def JoinAnswer.joined (answer : Option JoinAnswer) : Option (JoinResult × ControllerView) :=
  match answer.bind JoinAnswer.result with
  | none => none
  | some result =>
      match result.controller with
      | none => none
      | some controller => if controller.controllerId = "" then none else some (result, controller)

/-- `send`: the journal is removed only after the result is installed. -/
def send (journal : JoinJournal) : Task JoinResult := do
  let answer ← ask! (.redeem journal.inviteId journal.body) (Response.read true)
  match JoinAnswer.joined answer with
  | none => Program.fail (.outcomeUnknown true)
  | some (result, controller) => do
      let persisted ← (persistResult journal result controller).outcome
      match persisted with
      | .error _ => Program.fail (.localState true)
      | .ok _ => do
          ask! (.removeJournal "join") id
          pure result

section

variable (site : Site)

/-- `signAndSend`. -/
def signAndSend (draft : JoinDraft) : Task JoinResult := do
  let challenge ← ask! (.inviteChallenge draft.inviteId) Response.challenge
  let body ← Program.ofExcept (buildRedemption site draft.authority draft.inviteId
    draft.inviteSecret challenge draft.ownerKey draft.deviceLabel draft.displayName draft.agent
    draft.workloadKey)
  ask! (.writeJournal "join" (.join { draft with body })) id
  send { draft with body }

/-- The draft without an agent. -/
def JoinDraft.deviceOnly (draft : JoinDraft) : JoinDraft :=
  { draft with workloadKey := none, agent := none, displayName := none }

/-- `attempt`: a device link admits this device without an agent. -/
def attempt (device : Bool) (draft : JoinDraft) : Task JoinResult := do
  let sent ← (signAndSend site draft).outcome
  match sent with
  | .ok result => pure result
  | .error problem =>
      if device = true ∨ isDeviceOnlyRefusal problem = false then Program.fail problem
      else signAndSend site draft.deviceOnly

/-- The errors after which a join takes its journal away. -/
def CliError.freesJoin : CliError → Bool
  | .meshApi status _ _ => 400 ≤ status && status < 500
  | .outcomeUnknown _ => false
  | .localState committed => !committed
  | .typeError => true
  | .fileFailed => true

/-- The owner key of this device: the one that it has, or a new one. -/
def ensureOwnerKey : Task PrivateJwk := do
  let ownerKey? ← ask! .readOwnerKey id
  match ownerKey? with
  | some key => pure key
  | none => do
      let key ← ask .generateEd25519
      ask! (.writeOwnerKey key) id
      pure key

/-- What `join` signs, with a new workload key unless only the device joins. -/
def joinDraft (options : JoinOptions) (ownerKey : PrivateJwk) (workloadKey : Option PrivateJwk) :
    JoinDraft where
  authority := options.link.authority
  inviteId := options.link.inviteId
  inviteSecret := options.link.secret
  deviceLabel := options.deviceLabel
  displayName := if options.device = true then none else some options.displayName
  ownerKey := ownerKey
  workloadKey := workloadKey
  agent := workloadKey.map fun key =>
    agentDraft options.handle options.agentName "" ["agent.read", "agent.write"] key

/-- A new workload key, unless only the device joins. -/
def newWorkloadKey (device : Bool) : Task (Option PrivateJwk) :=
  if device = true then pure none
  else do
    let key ← ask .generateEd25519
    pure (some key)

/-- `join`. -/
def join (options : JoinOptions) : Task Unit := do
  let pending ← ask! (.readJournal "join") id
  Program.ensure (pending = none) (.localState false)
  let controller? ← ask! .readController id
  Program.ensure (controller? = none) (.localState false)
  let ownerKey ← ensureOwnerKey
  let workloadKey ← newWorkloadKey options.device
  let attempted ← (attempt site options.device (joinDraft options ownerKey workloadKey)).outcome
  match attempted with
  | .ok _ => pure ()
  | .error problem => do
      if problem.freesJoin = true then ask! (.removeJournal "join") id else pure ()
      Program.fail problem

/-- The server knows no redemption of this request. -/
def wasNotRedeemed : CliError → Bool
  | .meshApi _ (some code) _ => code = "invite_invalid" || code = "challenge_invalid"
  | _ => false

/-- `resumeJoin`. -/
def resumeJoin : Task Unit := do
  let pending ← ask! (.readJournal "join") id
  match pending with
  | some (.join journal) => do
      let sent ← (send journal).outcome
      match sent with
      | .ok _ => pure ()
      | .error problem =>
          if wasNotRedeemed problem = true then do
            let _ ← signAndSend site journal.toJoinDraft
          else Program.fail problem
  | _ => Program.fail (.localState false)

end

end Triangle.OwnerCli
