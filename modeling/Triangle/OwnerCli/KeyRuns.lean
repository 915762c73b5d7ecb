import Triangle.OwnerCli.Joining

/-!
# Keys over whole runs

Every command keeps the invariant of the home, so each run whose calls are
`Accountable` keeps every key and secret that the origin knows of. A join that is
answered 408, 425 or 429 takes its journal away, although the origin may have
accepted it; `sendJournaled` does not.
-/

namespace Triangle.OwnerCli

open Triangle.Std Triangle.Semantics

section

variable {site : Site} {world : World}

section

variable (kept : Kept site world)
include kept

/-- Only a join and an operation hold keys, and neither is under the name of the choices. -/
theorem Kept.setupKeyless : world.IsKeyless "setup" := by
  intro entry isEntry
  cases entry with
  | join journal =>
      have isJoin := (kept.joining "setup" journal isEntry).1
      exact absurd isJoin (by decide)
  | operation entry =>
      have isName := (kept.operation "setup" entry isEntry).1.name
      have chars := congrArg String.toList isName
      simp at chars
  | permissions | setup => exact ⟨rfl, rfl⟩

theorem setup_isWritable (agentId : Option String) :
    IsWritable site world "setup" (.setup agentId) := by
  constructor
  · intro old key isOld isKey
    rw [(kept.setupKeyless old isOld).1] at isKey
    cases isKey
  · intro old secret isOld isSecret
    rw [(kept.setupKeyless old isOld).2] at isSecret
    cases isSecret
  · exact fun isJoin => absurd isJoin (by decide)
  · exact nofun
  · exact fun filed isOperation => nomatch isOperation

/-- What the user abandons may go. -/
theorem abandonAll_guarded (abandoning : world.mode = .abandoning) (names : List String) :
    Guarded site world (abandonAll names) fun _ _ => True := by
  induction names generalizing world with
  | nil => exact ⟨kept, trivial⟩
  | cons name rest ih =>
      refine .bind ((guarded_removeJournal kept fun notAbandoning =>
        absurd abandoning notAbandoning).imp ?_)
      intro after result keptAfter removed
      cases result with
      | error problem => trivial
      | ok _ => exact ih keptAfter (removed.mode.trans abandoning)

end

/-- The beginning of a command is not about the keys. -/
theorem enter_kept (command : Command) (kept : Kept site world) :
    Kept site (enter command world) :=
  kept.congr rfl rfl rfl rfl rfl rfl (fun _ isWritten => isWritten) rfl

/-- Every command keeps the invariant, whatever happens at its calls. -/
theorem code_guarded (command : Command) (kept : Kept site world) :
    Guarded site (enter command world) (code site command) fun _ _ => True := by
  have entered := enter_kept command kept
  cases command with
  | join options => exact join_guarded entered options rfl rfl
  | resumeJoin => exact resumeJoin_guarded entered rfl
  | addAgent handle name description readOnly =>
      exact addAgent_guarded entered handle name description readOnly
  | createInvite kind role displayNameHint emailHint expiresInSeconds =>
      exact createInvite_guarded entered kind role displayNameHint emailHint expiresInSeconds
  | operateOn operation target => exact operateOn_guarded entered operation target
  | setPermissions agentId changes => exact setPermissions_guarded entered agentId changes
  | resume => exact resume_guarded entered
  | setupReplay handle => exact setupReplay_guarded entered handle
  | saveSetup agentId =>
      exact guarded_writeJournal entered (setup_isWritable entered agentId) trivial trivial trivial
  | clearSetup =>
      exact (guarded_removeJournal entered fun _ => entered.setupKeyless.isFree).imp
        fun _ _ _ _ => trivial
  | abandonJoin =>
      exact (guarded_removeJournal entered fun notAbandoning => absurd rfl notAbandoning).imp
        fun _ _ _ _ => trivial
  | abandonOperations =>
      refine .bind (guarded_listJournal entered (fun names => ?_) trivial)
      exact abandonAll_guarded entered rfl _

theorem emptyWorld_kept : Kept site emptyWorld := by
  constructor
  · constructor <;> intro _ isMember <;> exact nomatch isMember
  · intro entry isEntry
    cases isEntry
  · intro name journal isEntry
    cases isEntry
  · intro name entry isEntry
    cases isEntry
  · intro first isFirst
    exact nomatch isFirst

end

/-- A run whose calls are all accountable keeps the keys and secrets of everything that the
origin accepted, and sends again only what it signed. -/
theorem keys_kept (site : Site)
    (events : List (Serial.Event Command Choice))
    (along : (deviceMachine site).Along (Serial.Meets (Accountable site))
      (deviceMachine site).initial events) :
    KeysKept site ((deviceMachine site).run events).world := by
  have kept : Kept site ((deviceMachine site).run events).world :=
    Serial.invariant_run (fun command _ kept => enter_kept command kept)
      (fun command _ kept => code_guarded command kept) emptyWorld_kept along
  exact kept.toKeysKept

/-! ## A join that is answered 408 -/

def sampleSite : Site where
  signBytes key _ := key.d
  sha256Hex := id
  deviceInvite _ := false

def sampleInvite : InviteLink :=
  ⟨"https://mesh.example", "invite_0", "secret"⟩

def sampleChallenge : Challenge where
  challengeId := "invite_challenge_0123456789abcdef0123456789abcdef"
  nonceSha256 := "0123456789abcdef0123456789abcdef0123456789abcdef0123456789abcdef"
  authority := some "https://mesh.example"
  inviteId := some "invite_0"
  operation := none
  target := none
  controllerId := none
  agentId := none

def sampleJoined : JoinResult where
  ownerId := "owner"
  ownerRole := none
  controller := some ⟨"controller", "jkt", "fingerprint", "laptop", "active"⟩
  agent := some
    ⟨"agent_0123456789abcdef0123456789abcdef", "helper", "Helper", some ⟨"workload", []⟩⟩

/-- A join up to the answer to its redemption, which the origin accepts. -/
def joinUntil (answer : Response JoinAnswer) : List (Serial.Event Command Choice) :=
  [.start (.join ⟨sampleInvite, false, "laptop", "Owner", "helper", "Helper"⟩),
    .resume {}, .resume {}, .resume {}, .resume { key := ⟨"owner-public", "owner"⟩ }, .resume {},
    .resume { key := ⟨"agent-public", "agent"⟩ },
    .resume { challenge := .answered 200 none none (some sampleChallenge) }, .resume {},
    .resume { commits := true, joined := sampleJoined, redeemed := answer }]

instance (site : Site) (world : World) (request : Call) (choice : Choice) :
    Decidable (Accountable site world request choice) :=
  match request with
  | .redeem _ body => inferInstanceAs (Decidable (∀ _ ∈ body.agent, _ ∧ _))
  | .operate _ _ ⟨⟨_, _, _, operation, _, params, _⟩, _, _⟩ =>
      match operation, params with
      | .agentCreate, .agent _ => inferInstanceAs (Decidable (∀ _ ∈ operatedAgent _, _ → _ → _))
      | .agentDelete, _ =>
          inferInstanceAs (Decidable (_ → ∀ _ ∈ (World.operate ..).created, _ → _ → _))
      | .agentCreate, .empty | .agentCreate, .invite _ | .agentPause, _ | .agentResume, _
      | .inviteCreate, _ | .inviteRevoke, _ | .ownerDeviceApprove, _ | .ownerDeviceRevoke, _
      | .adminAgentPause, _ | .adminAgentDelete, _ | .adminOwnerRemove, _ =>
          isTrue trivial
  | .readJournal _ | .writeJournal _ _ | .removeJournal _ | .listJournal | .readAuthority
  | .writeAuthority _ | .readOwnerKey | .writeOwnerKey _ | .readController | .writeController _
  | .readAgent _ | .writeAgent _ _ | .writeWorkloadKey _ _ | .removeAgent _ | .writeCache _ _
  | .generateEd25519 | .randomToken | .randomHex | .inviteChallenge _ | .operationChallenge _ _
  | .permissionsChallenge _ | .readOwner | .readPermissions _ | .updatePermissions _ _
  | .stdout _ => isTrue trivial

instance (site : Site) (state : Serial.State Call Answer CliError Unit World)
    (event : Serial.Event Command Choice) :
    Decidable (Serial.Meets (Accountable site) state event) := by
  unfold Serial.Meets
  split <;> infer_instance

/-- A lost answer: the keys of the join stay in its journal. -/
theorem keys_kept_lost :
    KeysKept sampleSite ((deviceMachine sampleSite).run (joinUntil .lost)).world :=
  keys_kept sampleSite (joinUntil .lost) (by decide +kernel)

/-- The answer 408, and the removal of the journal. -/
def timedOutJoin : List (Serial.Event Command Choice) :=
  joinUntil (.answered 408 none none none) ++ [.resume {}]

theorem timedOutJoin_loses_key :
    ¬∀ (site : Site) (events : List (Serial.Event Command Choice)),
      KeysKept site ((deviceMachine site).run events).world := by
  intro always
  have kept := always sampleSite timedOutJoin
  have created : ("agent_0123456789abcdef0123456789abcdef", "agent-public") ∈
      ((deviceMachine sampleSite).run timedOutJoin).world.origin.created := by decide +kernel
  have notDeleted : ((deviceMachine sampleSite).run timedOutJoin).world.origin.deleted = [] := by
    decide +kernel
  have noEntries : ((deviceMachine sampleSite).run timedOutJoin).world.home.journal.rows = [] := by
    decide +kernel
  have noKey : ((deviceMachine sampleSite).run timedOutJoin).world.home.workloadKeys
      "agent_0123456789abcdef0123456789abcdef" = none := by decide +kernel
  have noneAbandoned : ((deviceMachine sampleSite).run timedOutJoin).world.abandoned = [] := by
    decide +kernel
  obtain ⟨name, entry, key, isEntry, -⟩ | ⟨key, isKey, -⟩ | ⟨entry, isAbandoned, -⟩ :=
    kept.workload _ created (by rw [notDeleted]; exact List.not_mem_nil)
  · rw [Home.entryOf, Table.find?, noEntries] at isEntry
    cases isEntry
  · rw [noKey] at isKey
    cases isKey
  · rw [noneAbandoned] at isAbandoned
    cases isAbandoned

end Triangle.OwnerCli
