import Triangle.OwnerCli.Custody

/-!
# A loaded device

`session.mjs`, with the callers of its journal: an owner operation is signed, put
into the journal, sent, installed here and then taken out of the journal. Only
the definitive refusal of a first send frees an entry whose result is unknown.
-/

namespace Triangle.OwnerCli

open Triangle.Std Triangle.Semantics

/-- `openSession`: a device that has joined. -/
structure Session where
  authority : String
  controller : ControllerRecord
  ownerKey : PrivateJwk

def openSession : Task Session := do
  let authority? ← ask! .readAuthority id
  let authority ← Program.ofExcept (expect authority? (.localState false))
  let controller? ← ask! .readController id
  let ownerKey? ← ask! .readOwnerKey id
  let controller ← Program.ofExcept (expect controller? (.localState false))
  let ownerKey ← Program.ofExcept (expect ownerKey? (.localState false))
  pure ⟨authority, controller, ownerKey⟩

/-- `refreshController`, and the check of `ownerRequest`: only an active controller asks. -/
def ownerGate (session : Session) : Task Unit :=
  if session.controller.state = "pending_approval" then do
    let answer ← ask .readOwner
    match answer.read false with
    | .ok _ => do
        let record? ← ask! .readController id
        ask! (.writeController { record?.getD session.controller with state := "active" }) id
    | .error (.meshApi status code message) =>
        Program.fail (if status = 401 ∨ status = 403 then .localState false
          else .meshApi status code message)
    | .error problem => Program.fail problem
  else Program.ensure (session.controller.state = "active") (.localState false)

/-- `AGENT_ID.test(id)`. -/
def isAgentId (agentId : String) : Bool :=
  Text.matchesLedClass "agent_" Text.isLowerHex 32 32 agentId

/-- `custody.writeWorkloadKey`. -/
def writeWorkloadKey (agentId : String) (key : Option PrivateJwk) : Task Unit := do
  Program.ensure (isAgentId agentId = true) (.localState false)
  let key ← Program.ofExcept (expect key .typeError)
  ask! (.writeWorkloadKey agentId key) id

/-- `custody.writeAgent`, of an agent that the server returned. -/
def writeAgent (authority : String) (agent : AgentView) (workload : WorkloadView) : Task Unit := do
  Program.ensure (isAgentId agent.agentId = true) (.localState false)
  ask! (.writeAgent agent.agentId
    { agentId := agent.agentId
      handle := agent.handle
      name := agent.name
      workloadId := workload.workloadId
      bounds := workload.bounds
      authority := authority }) id

/-! ## Sending what is in the journal -/

/-- `AMBIGUOUS_4XX`: statuses that an intermediary answers although the origin may have accepted. -/
def ambiguous4xx : List Nat :=
  [408, 425, 429]

/-- A 4xx that the origin itself must have answered. -/
def isDefinitive (status : Nat) : Bool :=
  400 ≤ status && status < 500 && status ∉ ambiguous4xx

/-- The entry has been marked: its outcome is unknown. -/
def Entry.isOutcomeUnknown : Entry → Bool
  | .operation entry => entry.outcomeUnknown
  | .permissions entry => entry.outcomeUnknown
  | _ => false

def Entry.marked : Entry → Entry
  | .operation entry => .operation { entry with outcomeUnknown := true }
  | .permissions entry => .permissions { entry with outcomeUnknown := true }
  | entry => entry

/-- What becomes of an entry whose request failed. -/
def keepOrFree (name : String) (entry : Entry) (original : Bool) : CliError → Task Unit
  | .outcomeUnknown _ =>
      if entry.isOutcomeUnknown = true then pure () else ask! (.writeJournal name entry.marked) id
  | .meshApi status _ _ =>
      if original = true ∧ isDefinitive status = true then ask! (.removeJournal name) id else pure ()
  | _ => pure ()

/-- `applyEffect` of an operation: an agent that was created or deleted. -/
def applyOperation (authority : String) (entry : OperationEntry) (answer : Option OperationAnswer) :
    Task Unit :=
  match entry.operation with
  | .agentDelete => do
      let target := entry.target.getD ""
      Program.ensure (isAgentId target = true) (.localState false)
      let agent? ← ask! (.readAgent target) id
      match agent? with
      | none => pure ()
      | some _ => ask! (.removeAgent target) id
  | .agentCreate =>
      match answer.bind OperationAnswer.agent with
      | none => Program.fail (.localState false)
      | some agent =>
          match agent.workload with
          | none => Program.fail (.localState false)
          | some workload => do
              Program.ensure (agent.agentId ≠ "" ∧ workload.workloadId ≠ "") (.localState false)
              writeWorkloadKey agent.agentId entry.workloadKey
              writeAgent authority agent workload
  | _ => pure ()

/-- `sendJournaled` of an operation. -/
def sendOperation (authority name : String) (entry : OperationEntry) (original retain : Bool) :
    Task (Option OperationAnswer) := do
  let answered ← (ask! (.operate entry.method entry.path entry.body) (Response.read true)).outcome
  match answered with
  | .error problem => do
      keepOrFree name (.operation entry) original problem
      Program.fail problem
  | .ok answer => do
      applyOperation authority entry answer
      if retain = true then pure () else ask! (.removeJournal name) id
      pure answer

/-- `sendJournaled` of a permission update. -/
def sendPermissions (name : String) (entry : PermissionsEntry) (original : Bool) :
    Task (Option PermissionsView) := do
  let answered ← (ask! (.updatePermissions entry.path entry.body) (Response.read true)).outcome
  match answered with
  | .error problem => do
      keepOrFree name (.permissions entry) original problem
      Program.fail problem
  | .ok answer => do
      match answer with
      | none => pure ()
      | some view =>
          if view.revision.isSome = true then ask! (.writeCache entry.agentId view) id else pure ()
      ask! (.removeJournal name) id
      pure answer

/-! ## Owner operations -/

section

variable (site : Site)

/-- `ownerOperation`: with `deliver` the entry stays until the result has been delivered. -/
def ownerOperation (session : Session) (operation : Operation) (target : Option String)
    (params : Params) (workloadKey : Option PrivateJwk) (inviteSecret : Option String)
    (deliver : Option (Option OperationAnswer → Task Unit)) : Task (Option OperationAnswer) := do
  ownerGate session
  let challenge ← ask! (.operationChallenge operation target) Response.challenge
  let hex ← ask .randomHex
  let body ← Program.ofExcept (buildOwnerOperation site session.authority
    session.controller.controllerId session.ownerKey challenge operation target params
    ("idem_" ++ hex) workloadKey)
  let name := "op-" ++ body.idempotencyKey
  let entry : OperationEntry :=
    { operation := operation
      target := target
      method := operation.method
      path := operation.path (target.getD "null")
      body := body
      workloadKey := workloadKey
      inviteSecret := inviteSecret
      outcomeUnknown := false }
  ask! (.writeJournal name (.operation entry)) id
  let answer ← sendOperation session.authority name entry true deliver.isSome
  match deliver with
  | none => pure answer
  | some deliver => do
      deliver answer
      ask! (.removeJournal name) id
      pure answer

/-- `addAgent`. -/
def addAgent (handle name description : String) (readOnly : Bool) : Task Unit := do
  let session ← openSession
  let workloadKey ← ask .generateEd25519
  let bounds := if readOnly = true then ["agent.read"] else ["agent.read", "agent.write"]
  let _ ← ownerOperation site session .agentCreate none
    (.agent (agentDraft handle name description bounds workloadKey)) (some workloadKey) none none

/-- `inviteOutcome`: the link of the invite that the server made. -/
def inviteOutcome (authority : String) (answer : Option OperationAnswer) (secret : String) :
    Except CliError String := do
  let answer ← expect answer .typeError
  let inviteId ← expect answer.inviteId .typeError
  require (Text.matchesLedClass "invite_" Text.isLowerHex 32 32 inviteId = true) .typeError
  pure (authority ++ "/join#" ++ inviteId ++ "." ++ secret)

/-- `keepIfUnwritten`: a link that is not written leaves the outcome unknown. -/
def writeLink (link : String) : Task Unit := do
  let written ← (ask! (.stdout (some link)) id).outcome
  match written with
  | .ok _ => pure ()
  | .error _ => Program.fail (.outcomeUnknown false)

/-- `createInvite`, as `triangle invite` calls it. -/
def createInvite (kind : String) (role displayNameHint emailHint : Option String)
    (expiresInSeconds : Option Nat) : Task Unit := do
  let session ← openSession
  let secret ← ask .randomToken
  let params : InviteParams :=
    { kind := kind
      role := if kind = "teammate" then role else none
      displayNameHint := displayNameHint
      emailHint := emailHint
      expiresInSeconds := expiresInSeconds
      secretSha256 := site.sha256Hex secret }
  let _ ← ownerOperation site session .inviteCreate none (.invite params) none (some secret)
    (some fun answer => do
      let link ← Program.ofExcept (inviteOutcome session.authority answer secret)
      writeLink link)

/-- The other operations: those on an agent, a device, an invite or an owner. -/
def operateOn (operation : Operation) (target : String) : Task Unit := do
  let session ← openSession
  let _ ← ownerOperation site session operation (some target) .empty none none none

/-! ## Permissions -/

/-- `readPermissions` with a fresh copy. -/
def readPermissions (session : Session) (agentId : String) : Task PermissionsView := do
  ownerGate session
  let view? ← ask! (.readPermissions agentId) (Response.read false)
  let view ← Program.ofExcept (expect view? (.localState false))
  Program.ensure (view.agentId = agentId ∧ view.revision.isSome = true) (.localState false)
  ask! (.writeCache agentId view) id
  pure view

/-- `setPermissions`. -/
def setPermissions (agentId : String) (changes : List (String × Bool)) : Task Unit := do
  let session ← openSession
  let current ← readPermissions session agentId
  Program.ensure (∀ change ∈ changes, change.1 ∈ current.permissions.map Prod.fst) .typeError
  if ∀ change ∈ changes, change ∈ current.permissions then pure ()
  else do
    let challenge ← ask! (.permissionsChallenge agentId) Response.challenge
    let hex ← ask .randomHex
    let body ← Program.ofExcept (buildPermissionsUpdate site session.authority
      session.controller.controllerId session.ownerKey agentId challenge (current.revision.getD 0)
      (current.permissions.map fun entry => (entry.1, (changes.lookup entry.1).getD entry.2))
      ("idem_" ++ hex))
    let name := "perm-" ++ body.idempotencyKey
    let entry : PermissionsEntry :=
      { agentId := agentId
        path := "/api/v1/agents/" ++ agentId ++ "/permissions"
        body := body
        outcomeUnknown := false }
    ask! (.writeJournal name (.permissions entry)) id
    let sent ← (sendPermissions name entry true).outcome
    match sent with
    | .ok _ => pure ()
    | .error (.meshApi status (some "revision_conflict") message) => do
        let _ ← (readPermissions session agentId).outcome
        Program.fail (.meshApi status (some "revision_conflict") message)
    | .error problem => Program.fail problem

end

/-! ## Replaying -/

/-- What a replay returns: the entry, and the link of an invite that it created. -/
structure Replayed where
  entry : Entry
  answer : Option OperationAnswer

/-- `replayOperation`. -/
def replayOperation (session : Session) (name : String) (retain : Bool) : Task Replayed := do
  let pending ← ask! (.readJournal name) id
  match pending with
  | some (.operation entry) => do
      let answer ← sendOperation session.authority name entry false retain
      pure ⟨.operation entry, answer⟩
  | some (.permissions entry) => do
      let _ ← sendPermissions name entry false
      pure ⟨.permissions entry, none⟩
  | _ => Program.fail (.localState false)

/-- The secret of an invite whose link is still to be printed. -/
def Entry.pendingSecret : Entry → Option String
  | .operation entry =>
      if entry.operation = .inviteCreate then entry.inviteSecret.filter (· ≠ "") else none
  | _ => none

/-- A refused update that was never applied. -/
def isRevisionConflict (pending : Option Entry) (problem : CliError) : Bool :=
  match pending, problem with
  | some (.permissions _), .meshApi _ (some "revision_conflict") _ => true
  | _, _ => false

/-- One entry of `triangle resume`. -/
def resumeEntry (session : Session) (name : String) : Task Unit := do
  let pending ← ask! (.readJournal name) id
  let secret? := pending.bind Entry.pendingSecret
  let replayed ← (replayOperation session name secret?.isSome).outcome
  match replayed with
  | .error problem =>
      if isRevisionConflict pending problem = true then do
        ask! (.removeJournal name) id
        match pending with
        | some (.permissions entry) => do
            let _ ← (readPermissions session entry.agentId).outcome
        | _ => pure ()
        ask! (.stdout none) id
      else Program.fail problem
  | .ok replayed =>
      match secret? with
      | none => ask! (.stdout none) id
      | some secret => do
          let link ← Program.ofExcept (inviteOutcome session.authority replayed.answer secret)
          writeLink link
          ask! (.removeJournal name) id

/-- The entries of `triangle resume`, in the order of the directory. -/
def resumeEntries (session : Session) : List String → Task Unit
  | [] => pure ()
  | name :: rest => do
      resumeEntry session name
      resumeEntries session rest

/-- The entry is one that `triangle resume` replays. -/
def isReplayable (name : String) : Bool :=
  "op-".toList.isPrefixOf name.toList || "perm-".toList.isPrefixOf name.toList

/-- `triangle resume`. -/
def resume : Task Unit := do
  let session ← openSession
  let names ← ask! .listJournal id
  resumeEntries session (names.filter fun name => isReplayable name)

/-- The agent creations that `triangle setup` replays: those of its handle, and it stops at another. -/
def replayCreations (session : Session) (handle : String) : List String → Task Unit
  | [] => pure ()
  | name :: rest => do
      let pending ← ask! (.readJournal name) id
      match pending with
      | some (.operation entry) =>
          if entry.operation = .agentCreate then
            match entry.body.params with
            | .agent draft =>
                if draft.handle = handle then do
                  let _ ← replayOperation session name false
                  replayCreations session handle rest
                else Program.fail (.localState false)
            | _ => Program.fail (.localState false)
          else replayCreations session handle rest
      | _ => replayCreations session handle rest

/-- The replay of `triangle setup`. -/
def setupReplay (handle : String) : Task Unit := do
  let session ← openSession
  let names ← ask! .listJournal id
  replayCreations session handle (names.filter fun name => "op-".toList.isPrefixOf name.toList)

end Triangle.OwnerCli
