import Triangle.OwnerCli.Effects

/-!
# The rule of each call

A part of a command is `Guarded` when the invariant of the home holds before each
of its calls and at its end. There is one rule for each kind of call: reads and
requests that change nothing leave the world, and a change of the files is
guarded when the invariant holds after it.
-/

namespace Triangle.OwnerCli

open Triangle.Std Triangle.Semantics

/-- The invariant holds throughout, and the postcondition at the end. -/
abbrev Guarded {α : Type} (site : Site) (world : World) (program : Task α)
    (post : World → Except CliError α → Prop) : Prop :=
  Program.Keeps ((device site).environment (Accountable site)) (Kept site) world program post

/-- Everything that the journal is about is as it was. -/
structure Still (world after : World) : Prop where
  journal : after.home.journal = world.home.journal
  origin : after.origin = world.origin
  mode : after.mode = world.mode
  begunJoin : after.begunJoin = world.begunJoin
  operations : after.sentOperations = world.sentOperations

theorem Still.refl (world : World) : Still world world :=
  ⟨rfl, rfl, rfl, rfl, rfl⟩

theorem Still.trans {world between after : World} (first : Still world between)
    (second : Still between after) : Still world after :=
  ⟨second.journal.trans first.journal, second.origin.trans first.origin,
    second.mode.trans first.mode, second.begunJoin.trans first.begunJoin,
    second.operations.trans first.operations⟩

theorem Still.entryOf {world after : World} (still : Still world after) (name : String) :
    after.home.entryOf name = world.home.entryOf name := by
  rw [Home.entryOf, Home.entryOf, still.journal]

section

variable {site : Site} {world : World} {α : Type}

/-- What a change can end with. -/
theorem World.change_cases {holds : World → Except CliError α → Prop} {after : World} {value : α}
    (choice : Choice) (success : holds after (.ok value))
    (failAfter : holds after (.error .fileFailed))
    (failBefore : holds world (.error .fileFailed)) :
    holds (world.change choice after value).1 (world.change choice after value).2 := by
  rw [World.change]
  cases choice.fate with
  | success => exact success
  | failBefore => exact failBefore
  | failAfter => exact failAfter

/-- What a read can end with. -/
theorem World.look_cases {holds : Except CliError α → Prop} {value : α} (choice : Choice)
    (success : holds (.ok value)) (failure : holds (.error (.localState false))) :
    holds (world.look choice value).2 := by
  rw [World.look]
  by_cases succeeds : choice.fate = .success
  · rw [if_pos succeeds]
    exact success
  · rw [if_neg succeeds]
    exact failure

variable {post : World → Except CliError α → Prop} {name agentId : String}
  {read : Response Challenge → Except CliError α}

variable {request : Call} {after : World} {key : PrivateJwk}

section

variable (kept : Kept site world)
include kept

/-- The rule of a call that may throw. -/
theorem guarded_ask! {read : Answer request → Except CliError α}
    (goesOn : ∀ choice, IsPossible site world request choice →
      Accountable site world request choice →
      Kept site (perform site world request choice).1 ∧
        post (perform site world request choice).1 (read (perform site world request choice).2)) :
    Guarded site world (ask! request read) post := by
  refine Program.Keeps.attempt kept ?_ ?_
  · rintro after answer value ⟨choice, isPossible, accountable, same⟩ isRead
    obtain ⟨rfl, rfl⟩ := Prod.mk.inj same
    obtain ⟨keeps, does⟩ := goesOn choice isPossible accountable
    exact ⟨keeps, isRead ▸ does⟩
  · rintro after answer cause ⟨choice, isPossible, accountable, same⟩ isRead
    obtain ⟨rfl, rfl⟩ := Prod.mk.inj same
    obtain ⟨keeps, does⟩ := goesOn choice isPossible accountable
    exact ⟨keeps, isRead ▸ does⟩

/-- The rule of a call whose answer is used as it is. -/
theorem guarded_ask {post : World → Except CliError (Answer request) → Prop}
    (goesOn : ∀ choice, IsPossible site world request choice →
      Accountable site world request choice →
      Kept site (perform site world request choice).1 ∧
        post (perform site world request choice).1 (.ok (perform site world request choice).2)) :
    Guarded site world (ask request) post := by
  refine Program.Keeps.request kept ?_
  rintro after answer ⟨choice, isPossible, accountable, same⟩
  obtain ⟨rfl, rfl⟩ := Prod.mk.inj same
  exact goesOn choice isPossible accountable

/-- A result without calls. -/
theorem guarded_ofExcept {result : Except CliError α} (does : post world result) :
    Guarded site world (Program.ofExcept result) post :=
  ⟨kept, does⟩

/-! ## Reads -/

theorem guarded_readJournal {post : World → Except CliError (Option Entry) → Prop}
    (success : post world (.ok (world.home.entryOf name)))
    (failure : post world (.error (.localState false))) :
    Guarded site world (ask! (.readJournal name) id) post :=
  guarded_ask! kept fun choice _ _ => ⟨kept, World.look_cases choice success failure⟩

theorem guarded_listJournal {post : World → Except CliError (List String) → Prop}
    (success : ∀ names, post world (.ok names))
    (failure : post world (.error (.localState false))) :
    Guarded site world (ask! .listJournal id) post :=
  guarded_ask! kept fun choice _ _ => ⟨kept, World.look_cases choice (success _) failure⟩

theorem guarded_readAuthority {post : World → Except CliError (Option String) → Prop}
    (success : ∀ authority?, post world (.ok authority?))
    (failure : post world (.error (.localState false))) :
    Guarded site world (ask! .readAuthority id) post :=
  guarded_ask! kept fun choice _ _ => ⟨kept, World.look_cases choice (success _) failure⟩

theorem guarded_readController {post : World → Except CliError (Option ControllerRecord) → Prop}
    (success : ∀ record?, post world (.ok record?))
    (failure : post world (.error (.localState false))) :
    Guarded site world (ask! .readController id) post :=
  guarded_ask! kept fun choice _ _ => ⟨kept, World.look_cases choice (success _) failure⟩

theorem guarded_readOwnerKey {post : World → Except CliError (Option PrivateJwk) → Prop}
    (success : post world (.ok world.home.ownerKey))
    (failure : post world (.error (.localState false))) :
    Guarded site world (ask! .readOwnerKey id) post :=
  guarded_ask! kept fun choice _ _ => ⟨kept, World.look_cases choice success failure⟩

theorem guarded_readAgent {post : World → Except CliError (Option AgentRecord) → Prop}
    (success : post world (.ok (world.home.agents agentId)))
    (failure : post world (.error (.localState false))) :
    Guarded site world (ask! (.readAgent agentId) id) post :=
  guarded_ask! kept fun choice _ _ => ⟨kept, World.look_cases choice success failure⟩

end

/-! ## Changes -/

/-- The rule of a change of the files, after which the invariant holds. -/
theorem World.change_kept (post : World → Except CliError α → Prop) {value : α}
    (kept : Kept site world) (keptAfter : Kept site after) (choice : Choice)
    (success : post after (.ok value)) (failAfter : post after (.error .fileFailed))
    (failBefore : post world (.error .fileFailed)) :
    Kept site (world.change choice after value).1 ∧
      post (world.change choice after value).1 (world.change choice after value).2 :=
  @World.change_cases world α (fun final result => Kept site final ∧ post final result) after value
    choice ⟨keptAfter, success⟩ ⟨keptAfter, failAfter⟩ ⟨kept, failBefore⟩

section

variable (kept : Kept site world)
include kept

/-- A file that the journal is not about. -/
theorem guarded_writeAuthority {authority : String} :
    Guarded site world (ask! (.writeAuthority authority) id) fun after _ => Still world after :=
  guarded_ask! kept fun choice _ _ => by
    refine World.change_kept (fun after _ => Still world after) kept ?_ choice
      ⟨rfl, rfl, rfl, rfl, rfl⟩ ⟨rfl, rfl, rfl, rfl, rfl⟩ (.refl world)
    exact kept.congr rfl rfl rfl rfl rfl rfl (fun _ isWritten => isWritten) rfl

theorem guarded_writeController {record : ControllerRecord} :
    Guarded site world (ask! (.writeController record) id) fun after _ => Still world after :=
  guarded_ask! kept fun choice _ _ => by
    refine World.change_kept (fun after _ => Still world after) kept ?_ choice
      ⟨rfl, rfl, rfl, rfl, rfl⟩ ⟨rfl, rfl, rfl, rfl, rfl⟩ (.refl world)
    exact kept.congr rfl rfl rfl rfl rfl rfl (fun _ isWritten => isWritten) rfl

theorem guarded_writeCache {view : PermissionsView} :
    Guarded site world (ask! (.writeCache agentId view) id) fun after _ => Still world after :=
  guarded_ask! kept fun choice _ _ => by
    refine World.change_kept (fun after _ => Still world after) kept ?_ choice
      ⟨rfl, rfl, rfl, rfl, rfl⟩ ⟨rfl, rfl, rfl, rfl, rfl⟩ (.refl world)
    exact kept.congr rfl rfl rfl rfl rfl rfl (fun _ isWritten => isWritten) rfl

/-- The owner key of a device that has none is written. -/
theorem guarded_writeOwnerKeyFile (isNone : world.home.ownerKey = none) :
    Guarded site world (ask! (.writeOwnerKey key) id) fun after result =>
      Still world after ∧ (result = .ok () → after.home.ownerKey = some key) := by
  refine guarded_ask! kept fun choice _ _ => ?_
  have notSome : ¬ world.home.ownerKey.isSome = true := by
    rw [isNone]
    exact Bool.false_ne_true
  simp only [perform, if_neg notSome]
  exact World.change_kept
    (fun after result => Still world after ∧ (result = .ok () → after.home.ownerKey = some key))
    kept (kept.writeOwnerKey isNone key) choice
    ⟨⟨rfl, rfl, rfl, rfl, rfl⟩, fun _ => rfl⟩
    ⟨⟨rfl, rfl, rfl, rfl, rfl⟩, nofun⟩
    ⟨.refl world, nofun⟩

/-- Nothing that the invariant is about changes with the record of an agent. -/
theorem guarded_writeAgentRecord {record : AgentRecord} :
    Guarded site world (ask! (.writeAgent agentId record) id) fun after _ =>
      Still world after ∧ after.home.workloadKeys = world.home.workloadKeys :=
  guarded_ask! kept fun choice _ _ => by
    refine World.change_kept
      (fun after _ => Still world after ∧ after.home.workloadKeys = world.home.workloadKeys) kept
      ?_ choice ⟨⟨rfl, rfl, rfl, rfl, rfl⟩, rfl⟩ ⟨⟨rfl, rfl, rfl, rfl, rfl⟩, rfl⟩ ⟨.refl world, rfl⟩
    exact kept.congr rfl rfl rfl rfl rfl rfl (fun _ isWritten => isWritten) rfl

/-- A workload key is installed under the id that the origin assigned. -/
theorem guarded_writeWorkloadKeyFile (assigns : world.origin.Assigns agentId key.x) :
    Guarded site world (ask! (.writeWorkloadKey agentId key) id) fun after result =>
      Still world after ∧ (result = .ok () → after.home.Installed agentId key.x) :=
  guarded_ask! kept fun choice _ _ =>
    World.change_kept
      (fun after result => Still world after ∧
        (result = .ok () → after.home.Installed agentId key.x))
      kept (kept.install assigns) choice
      ⟨⟨rfl, rfl, rfl, rfl, rfl⟩, fun _ => ⟨key, by simp, rfl⟩⟩
      ⟨⟨rfl, rfl, rfl, rfl, rfl⟩, nofun⟩
      ⟨.refl world, nofun⟩

/-- An agent that the origin deleted is removed. -/
theorem guarded_removeAgent (gone : ∀ created ∈ world.origin.created, created.1 = agentId →
      created.1 ∈ world.origin.deleted) :
    Guarded site world (ask! (.removeAgent agentId) id) fun after _ => Still world after :=
  guarded_ask! kept fun choice _ _ =>
    World.change_kept (fun after _ => Still world after) kept (kept.removeAgent gone) choice
      ⟨rfl, rfl, rfl, rfl, rfl⟩ ⟨rfl, rfl, rfl, rfl, rfl⟩ (.refl world)

/-- A link, or nothing, is written to the output. -/
theorem guarded_stdout {link : Option String} :
    Guarded site world (ask! (.stdout link) id) fun after result =>
      Still world after ∧ (result = .ok () → ∀ text ∈ link, text ∈ after.written) :=
  guarded_ask! kept fun choice _ _ =>
    World.change_kept
      (fun after result => Still world after ∧
        (result = .ok () → ∀ text ∈ link, text ∈ after.written))
      kept (kept.write link) choice
      ⟨⟨rfl, rfl, rfl, rfl, rfl⟩, fun _ text isLink => by
        rw [Option.mem_def.mp isLink]
        exact List.mem_cons_self⟩
      ⟨⟨rfl, rfl, rfl, rfl, rfl⟩, nofun⟩
      ⟨.refl world, nofun⟩

/-- An entry is written. -/
theorem guarded_writeJournal {entry : Entry} {post : World → Except CliError Unit → Prop}
    (writable : IsWritable site world name entry)
    (success : post { world with home := world.home.put name entry } (.ok ()))
    (failAfter : post { world with home := world.home.put name entry } (.error .fileFailed))
    (failBefore : post world (.error .fileFailed)) :
    Guarded site world (ask! (.writeJournal name entry) id) post :=
  guarded_ask! kept fun choice _ _ =>
    World.change_kept post kept (kept.put writable) choice success failAfter failBefore

end

/-- The removal of an entry was tried: it is gone, or all is as it was. -/
structure Removed (name : String) (world after : World) (result : Except CliError Unit) : Prop where
  mode : after.mode = world.mode
  begunJoin : after.begunJoin = world.begunJoin
  entry : after = world ∨ after.home.entryOf name = none
  failure : ∀ problem, result = .error problem → problem = .fileFailed

/-- An entry is removed that can go, or that the user abandons. -/
theorem guarded_removeJournal (kept : Kept site world)
    (free : world.mode ≠ .abandoning → IsFree site world name) :
    Guarded site world (ask! (.removeJournal name) id) fun after result =>
      Removed name world after result := by
  refine guarded_ask! kept fun choice _ _ => ?_
  have gone : ∀ abandoned result, (∀ problem, result = .error problem → problem = .fileFailed) →
      Removed name world { world with home := world.home.drop name, abandoned := abandoned }
        result :=
    fun abandoned result failure => ⟨rfl, rfl, .inr (by simp), failure⟩
  have failed : ∀ problem, (.error .fileFailed : Except CliError Unit) = .error problem →
      problem = .fileFailed :=
    fun problem same => (Except.error.inj same).symm
  by_cases abandons : world.mode = .abandoning
  · simp only [perform, if_pos abandons]
    exact World.change_kept (fun after result => Removed name world after result) kept
      (kept.abandon name) choice (gone _ _ nofun) (gone _ _ failed)
      ⟨rfl, rfl, .inl rfl, failed⟩
  · simp only [perform, if_neg abandons]
    exact World.change_kept (fun after result => Removed name world after result) kept
      (kept.drop (free abandons)) choice (gone _ _ nofun) (gone _ _ failed)
      ⟨rfl, rfl, .inl rfl, failed⟩

/-- What could go can go after its removal was tried. -/
theorem Removed.isFree {result : Except CliError Unit} (removed : Removed name world after result)
    (free : IsFree site world name) : IsFree site after name := by
  obtain rfl | absent := removed.entry
  · exact free
  · constructor
    · intro old key isOld
      rw [absent] at isOld
      cases isOld
    · intro old secret isOld
      rw [absent] at isOld
      cases isOld

/-! ## Requests that change nothing -/

section

variable (kept : Kept site world) (goesOn : ∀ response, post world (read response))
include kept goesOn

theorem guarded_operationChallenge {operation : Operation} {target : Option String} :
    Guarded site world (ask! (.operationChallenge operation target) read) post :=
  guarded_ask! kept fun choice _ _ => ⟨kept, goesOn choice.challenge⟩

theorem guarded_permissionsChallenge :
    Guarded site world (ask! (.permissionsChallenge agentId) read) post :=
  guarded_ask! kept fun choice _ _ => ⟨kept, goesOn choice.challenge⟩

theorem guarded_inviteChallenge {inviteId : String} :
    Guarded site world (ask! (.inviteChallenge inviteId) read) post :=
  guarded_ask! kept fun choice _ _ => ⟨kept, goesOn choice.challenge⟩

end

theorem guarded_readPermissionsView {read : Response PermissionsView → Except CliError α}
    (kept : Kept site world) (goesOn : ∀ response, post world (read response)) :
    Guarded site world (ask! (.readPermissions agentId) read) post :=
  guarded_ask! kept fun choice _ _ => ⟨kept, goesOn choice.view⟩

end

end Triangle.OwnerCli
