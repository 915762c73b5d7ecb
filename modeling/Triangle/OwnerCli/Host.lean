import Triangle.OwnerCli.Join
import Triangle.Std.Table

/-!
# One home and the origin

Commands run on one home one at a time, as the home lock has it, and can be cut
off between any two calls. A file operation may fail before or after its rename.
The origin keeps what it has accepted: a redemption per invite, an operation and
an update per idempotency key, and it makes no second agent of an id or a
workload key that it knows. Whether it accepts a request, and what the client
sees, are two choices; `IsPossible` says what they may be.

What a command began with, what was sent, written and abandoned is history that
the code does not read.
-/

namespace Triangle.OwnerCli

open Triangle.Std Triangle.Semantics

/-! ## The files -/

/-- The files of a home. -/
structure Home where
  authority : Option String
  controller : Option ControllerRecord
  ownerKey : Option PrivateJwk
  workloadKeys : String → Option PrivateJwk
  agents : String → Option AgentRecord
  cache : String → Option PermissionsView
  journal : Table (Prod.fst : String × Entry → String)

namespace Home

/-- The entry of a name. -/
def entryOf (home : Home) (name : String) : Option Entry :=
  (home.journal.find? name).map Prod.snd

/-- The entry is written. -/
def put (home : Home) (name : String) (entry : Entry) : Home :=
  { home with journal := home.journal.upsert (name, entry) }

/-- The entry is removed. -/
def drop (home : Home) (name : String) : Home :=
  { home with journal := home.journal.delete fun row => row.1 = name }

@[simp] theorem entryOf_put (home : Home) (name key : String) (entry : Entry) :
    (home.put name entry).entryOf key = if key = name then some entry else home.entryOf key := by
  rw [entryOf, put, Table.find?_upsert]
  split
  · rfl
  · rfl

@[simp] theorem entryOf_drop (home : Home) (name key : String) :
    (home.drop name).entryOf key = if key = name then none else home.entryOf key := by
  rw [entryOf, drop, Table.find?_delete, entryOf]
  cases found : home.journal.find? key with
  | none => simp
  | some row =>
      obtain ⟨-, rfl⟩ := Table.find?_some found
      rw [Option.filter_some]
      by_cases same : row.1 = name
      · rw [if_pos same, if_neg (by simp [same])]
        rfl
      · rw [if_neg same, if_pos (by simp [same])]

end Home

/-! ## The origin -/

/-- What the origin has accepted. -/
structure Origin where
  redemptions : List (Redemption × JoinResult)
  operations : List (OperationBody × OperationAnswer)
  updates : List (PermissionsBody × PermissionsView)

/-- The agent that a redemption created, with its workload key. -/
def createdByRedemption (accepted : Redemption × JoinResult) : Option (String × String) :=
  match accepted.1.agent, accepted.2.agent with
  | some draft, some agent => some (agent.agentId, draft.workloadPublicJwk)
  | _, _ => none

/-- The agent that an operation created, with its workload key. -/
def createdByOperation (accepted : OperationBody × OperationAnswer) : Option (String × String) :=
  match accepted.1.operation, accepted.1.params, accepted.2.agent with
  | .agentCreate, .agent draft, some agent => some (agent.agentId, draft.workloadPublicJwk)
  | _, _, _ => none

/-- The hash of the secret of the invite that an operation created. -/
def invitedByOperation (accepted : OperationBody × OperationAnswer) : Option String :=
  match accepted.1.operation, accepted.1.params with
  | .inviteCreate, .invite params => some params.secretSha256
  | _, _ => none

/-- The agent that an operation deleted. -/
def deletedByOperation (accepted : OperationBody × OperationAnswer) : Option String :=
  if accepted.1.operation = .agentDelete then accepted.1.target else none

namespace Origin

/-- The owner keys of the redemptions. -/
def owners (origin : Origin) : List String :=
  origin.redemptions.map fun accepted => accepted.1.ownerPublicJwk

/-- The agents, each with its workload key. -/
def created (origin : Origin) : List (String × String) :=
  origin.redemptions.filterMap createdByRedemption ++ origin.operations.filterMap createdByOperation

/-- The deleted agents. -/
def deleted (origin : Origin) : List String :=
  origin.operations.filterMap deletedByOperation

/-- The hashes of the secrets of the invites. -/
def invites (origin : Origin) : List String :=
  origin.operations.filterMap invitedByOperation

/-- The agent can be made: its id and its workload key are new, and it has a workload. -/
def MayCreate (origin : Origin) (draft : AgentDraft) (agent : AgentView) : Prop :=
  isAgentId agent.agentId = true ∧ (∃ workload ∈ agent.workload, workload.workloadId ≠ "") ∧
    ∀ other ∈ origin.created, other.1 ≠ agent.agentId ∧ other.2 ≠ draft.workloadPublicJwk

/-- The redemption is accepted with this result: the invite is unused, and a device invite
admits no agent. -/
def Admits (site : Site) (origin : Origin) (body : Redemption) (result : JoinResult) : Prop :=
  (∀ accepted ∈ origin.redemptions, accepted.1.inviteId ≠ body.inviteId) ∧
    (site.deviceInvite body.inviteId = true → body.agent = none) ∧
    (∃ controller ∈ result.controller, controller.controllerId ≠ "") ∧
    result.agent.isSome = body.agent.isSome ∧
    ∀ draft ∈ body.agent, ∀ agent ∈ result.agent, origin.MayCreate draft agent

/-- The operation is accepted with this answer: its key is unused. -/
def Grants (origin : Origin) (body : OperationBody) (answer : OperationAnswer) : Prop :=
  (∀ accepted ∈ origin.operations, accepted.1.idempotencyKey ≠ body.idempotencyKey) ∧
    match body.operation, body.params with
    | .agentCreate, .agent draft => ∃ agent ∈ answer.agent, origin.MayCreate draft agent
    | .agentCreate, _ => False
    | .inviteCreate, _ =>
        ∃ inviteId ∈ answer.inviteId,
          Text.matchesLedClass "invite_" Text.isLowerHex 32 32 inviteId = true
    | _, _ => True

end Origin

instance (origin : Origin) (draft : AgentDraft) (agent : AgentView) :
    Decidable (origin.MayCreate draft agent) :=
  inferInstanceAs (Decidable (_ ∧ _ ∧ _))

instance (site : Site) (origin : Origin) (body : Redemption) (result : JoinResult) :
    Decidable (origin.Admits site body result) :=
  inferInstanceAs (Decidable (_ ∧ _ ∧ _ ∧ _ ∧ _))

instance (origin : Origin) (body : OperationBody) (answer : OperationAnswer) :
    Decidable (origin.Grants body answer) := by
  unfold Origin.Grants
  split <;> infer_instance

/-! ## The world -/

/-- What kind of command runs. -/
inductive Mode
  | joining
  | abandoning
  | other
  deriving DecidableEq

structure World where
  home : Home
  origin : Origin
  mode : Mode
  begunJoin : Option Entry
  sentRedemptions : List (Option Entry × Redemption)
  sentOperations : List OperationBody
  written : List String
  abandoned : List Entry

/-- How a file operation ends. -/
inductive Fate
  | success
  | failBefore
  | failAfter
  deriving DecidableEq

/-- What the environment decides about one call: how a file operation ends, random values,
whether the origin accepts a request and with what result, and what the client sees. -/
structure Choice where
  fate : Fate := .success
  order : List String := []
  key : PrivateJwk := ⟨"", ""⟩
  text : String := ""
  challenge : Response Challenge := .lost
  owner : Response Unit := .lost
  commits : Bool := false
  joined : JoinResult := ⟨"", none, none, none⟩
  redeemed : Response JoinAnswer := .lost
  granted : OperationAnswer := ⟨none, none, none⟩
  operated : Response OperationAnswer := .lost
  updated : PermissionsView := ⟨"", none, []⟩
  view : Response PermissionsView := .lost

/-- The status that the client sees. -/
def Response.status? {Body : Type} : Response Body → Option Nat
  | .lost => none
  | .unreadable status _ => some status
  | .answered status _ _ _ => some status

/-- The answer is a refusal by the origin itself. -/
def Response.isRefusal {Body : Type} (response : Response Body) : Bool :=
  response.status?.any isDefinitive

namespace World

/-- A file is replaced or removed. -/
def change {α : Type} (world : World) (choice : Choice) (after : World) (value : α) :
    World × Except CliError α :=
  match choice.fate with
  | .success => (after, .ok value)
  | .failAfter => (after, .error .fileFailed)
  | .failBefore => (world, .error .fileFailed)

/-- A file is read. -/
def look {α : Type} (world : World) (choice : Choice) (value : α) : World × Except CliError α :=
  (world, if choice.fate = .success then .ok value else .error (.localState false))

/-- The names of the journal, in the order of the directory. -/
def names (world : World) (order : List String) : List String :=
  let present := world.home.journal.rows.map Prod.fst
  if order.Perm present then order else present

/-- The redemption arrives, and is accepted or not. -/
def redeem (site : Site) (world : World) (body : Redemption) (choice : Choice) : Origin :=
  if choice.commits = true ∧ world.origin.Admits site body choice.joined then
    { world.origin with redemptions := world.origin.redemptions ++ [(body, choice.joined)] }
  else world.origin

/-- The operation arrives, and is accepted or not. -/
def operate (world : World) (body : OperationBody) (choice : Choice) : Origin :=
  if choice.commits = true ∧ world.origin.Grants body choice.granted then
    { world.origin with operations := world.origin.operations ++ [(body, choice.granted)] }
  else world.origin

/-- The update arrives, and is accepted or not. -/
def update (world : World) (body : PermissionsBody) (choice : Choice) : Origin :=
  if choice.commits = true ∧ ∀ accepted ∈ world.origin.updates,
      accepted.1.idempotencyKey ≠ body.idempotencyKey then
    { world.origin with updates := world.origin.updates ++ [(body, choice.updated)] }
  else world.origin

end World

section

variable (site : Site)

/-- Carry out one call. -/
def perform (world : World) : (request : Call) → Choice → World × Answer request
  | .readJournal name, choice => world.look choice (world.home.entryOf name)
  | .writeJournal name entry, choice =>
      world.change choice { world with home := world.home.put name entry } ()
  | .removeJournal name, choice =>
      world.change choice
        { world with
          home := world.home.drop name
          abandoned := if world.mode = .abandoning then (world.home.entryOf name).toList ++ world.abandoned
            else world.abandoned } ()
  | .listJournal, choice => world.look choice (world.names choice.order)
  | .readAuthority, choice => world.look choice world.home.authority
  | .writeAuthority authority, choice =>
      world.change choice { world with home := { world.home with authority := some authority } } ()
  | .readOwnerKey, choice => world.look choice world.home.ownerKey
  | .writeOwnerKey key, choice =>
      if world.home.ownerKey.isSome = true then (world, .error (.localState false))
      else world.change choice { world with home := { world.home with ownerKey := some key } } ()
  | .readController, choice => world.look choice world.home.controller
  | .writeController record, choice =>
      world.change choice { world with home := { world.home with controller := some record } } ()
  | .readAgent agentId, choice => world.look choice (world.home.agents agentId)
  | .writeAgent agentId record, choice =>
      world.change choice
        { world with home := { world.home with
            agents := Function.update world.home.agents agentId (some record) } } ()
  | .writeWorkloadKey agentId key, choice =>
      world.change choice
        { world with home := { world.home with
            workloadKeys := Function.update world.home.workloadKeys agentId (some key) } } ()
  | .removeAgent agentId, choice =>
      world.change choice
        { world with home := { world.home with
            agents := Function.update world.home.agents agentId none
            workloadKeys := Function.update world.home.workloadKeys agentId none
            cache := Function.update world.home.cache agentId none } } ()
  | .writeCache agentId view, choice =>
      world.change choice
        { world with home := { world.home with
            cache := Function.update world.home.cache agentId (some view) } } ()
  | .generateEd25519, choice => (world, choice.key)
  | .randomToken, choice => (world, choice.text)
  | .randomHex, choice => (world, choice.text)
  | .inviteChallenge _, choice => (world, choice.challenge)
  | .operationChallenge _ _, choice => (world, choice.challenge)
  | .permissionsChallenge _, choice => (world, choice.challenge)
  | .readOwner, choice => (world, choice.owner)
  | .readPermissions _, choice => (world, choice.view)
  | .redeem _ body, choice =>
      ({ world with
          origin := world.redeem site body choice
          sentRedemptions := world.sentRedemptions ++ [(world.begunJoin, body)] }, choice.redeemed)
  | .operate _ _ body, choice =>
      ({ world with
          origin := world.operate body choice
          sentOperations := world.sentOperations ++ [body] }, choice.operated)
  | .updatePermissions _ body, choice =>
      ({ world with origin := world.update body choice }, choice.view)
  | .stdout link, choice =>
      world.change choice { world with written := link.toList ++ world.written } ()

/-- What the environment may choose: random values do not repeat, and the origin does not
refuse what it accepts. -/
def IsPossible (world : World) (request : Call) (choice : Choice) : Prop :=
  match request with
  | .generateEd25519 => ∀ created ∈ world.origin.created, created.2 ≠ choice.key.x
  | .randomToken => choice.text ≠ "" ∧ site.sha256Hex choice.text ∉ world.origin.invites
  | .randomHex =>
      (world.home.entryOf ("op-" ++ ("idem_" ++ choice.text))).isNone = true ∧
        (world.home.entryOf ("perm-" ++ ("idem_" ++ choice.text))).isNone = true ∧
        ∀ body ∈ world.sentOperations, body.idempotencyKey ≠ "idem_" ++ choice.text
  | .redeem _ _ => choice.redeemed.isRefusal = true → choice.commits = false
  | .operate _ _ _ => choice.operated.isRefusal = true → choice.commits = false
  | .updatePermissions _ _ => choice.view.isRefusal = true → choice.commits = false
  | _ => True

instance (world : World) (request : Call) (choice : Choice) :
    Decidable (IsPossible site world request choice) := by
  cases request <;> unfold IsPossible <;> infer_instance

/-! ## The commands -/

/-- What is run on the home. `setup` runs `join`, `resumeJoin`, `setupReplay` and `addAgent`,
with a journal of its own choices around them. -/
inductive Command
  | join (options : JoinOptions)
  | resumeJoin
  | addAgent (handle name description : String) (readOnly : Bool)
  | createInvite (kind : String) (role displayNameHint emailHint : Option String)
      (expiresInSeconds : Option Nat)
  | operateOn (operation : Operation) (target : String)
  | setPermissions (agentId : String) (changes : List (String × Bool))
  | resume
  | setupReplay (handle : String)
  | saveSetup (agentId : Option String)
  | clearSetup
  | abandonJoin
  | abandonOperations

/-- `triangle resume --abandon`, over the names of the journal. -/
def abandonAll : List String → Task Unit
  | [] => pure ()
  | name :: rest => do
      ask! (.removeJournal name) id
      abandonAll rest

/-- The program of a command. -/
def code : Command → Task Unit
  | .join options => join site options
  | .resumeJoin => resumeJoin site
  | .addAgent handle name description readOnly => addAgent site handle name description readOnly
  | .createInvite kind role displayNameHint emailHint expiresInSeconds =>
      createInvite site kind role displayNameHint emailHint expiresInSeconds
  | .operateOn operation target => operateOn site operation target
  | .setPermissions agentId changes => setPermissions site agentId changes
  | .resume => resume
  | .setupReplay handle => setupReplay handle
  | .saveSetup agentId => ask! (.writeJournal "setup" (.setup agentId)) id
  | .clearSetup => ask! (.removeJournal "setup") id
  | .abandonJoin => ask! (.removeJournal "join") id
  | .abandonOperations => do
      let names ← ask! .listJournal id
      abandonAll (names.filter fun name => name ≠ "join")

def Command.mode : Command → Mode
  | .join _ => .joining
  | .abandonJoin => .abandoning
  | .abandonOperations => .abandoning
  | _ => .other

/-- A command begins. -/
def enter (command : Command) (world : World) : World :=
  { world with mode := command.mode, begunJoin := world.home.entryOf "join" }

/-- The home and the origin, with commands one at a time. -/
def device : Serial Command Call Answer CliError Unit World Choice where
  code := code site
  enter := enter
  possible := IsPossible site
  perform := perform site

instance (world : World) (request : Call) (choice : Choice) :
    Decidable ((device site).possible world request choice) :=
  inferInstanceAs (Decidable (IsPossible site world request choice))

/-- An empty home, and an origin that has accepted nothing. -/
def emptyWorld : World where
  home := ⟨none, none, none, fun _ => none, fun _ => none, fun _ => none, Table.empty⟩
  origin := ⟨[], [], []⟩
  mode := .other
  begunJoin := none
  sentRedemptions := []
  sentOperations := []
  written := []
  abandoned := []

abbrev deviceMachine := (device site).machine emptyWorld

end

end Triangle.OwnerCli
