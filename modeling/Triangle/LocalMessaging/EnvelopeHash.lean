import Triangle.Identity.RegistryFile
import Triangle.LocalMessaging.AddedRows
import Triangle.LocalMessaging.ExchangeLimit

/-!
# Envelope hashes

`computeEnvelopeHash` hashes the canonical JSON of seven fields. Every row keeps
the hash of what it was stored for, so a send or a reply that is taken for a
repetition agrees with its row in all seven.
-/

namespace Triangle.LocalMessaging

open Triangle.Std Triangle.Semantics

/-- `norm`, what `computeEnvelopeHash` hashes. -/
def Envelope.norm (envelope : Envelope) : Json :=
  .obj [("sender", .str envelope.sender),
    ("recipient", .str envelope.recipient),
    ("messageId", .str envelope.messageId),
    ("requestId", .str envelope.requestId),
    ("inReplyTo", jsonOrNull envelope.inReplyTo),
    ("text", .str envelope.text),
    ("metadata", (envelope.metadata.map Metadata.toJson).getD .null)]

/-- `computeEnvelopeHash`. -/
def computeEnvelopeHash (sha256 : String → String) (envelope : Envelope) : String :=
  sha256 (Json.canonicalJson envelope.norm)

/-- What a message row was stored for. -/
def MessageRow.envelope (row : MessageRow) : Envelope where
  sender := row.sender
  recipient := row.recipient
  messageId := row.messageId
  requestId := row.requestId
  inReplyTo := row.inReplyTo
  text := row.text
  metadata := row.metadataJson

/-- What a reply row was stored for. -/
def ReplyRow.envelope (reply : ReplyRow) : Envelope where
  sender := reply.sender
  recipient := reply.recipient
  messageId := reply.messageId
  requestId := reply.requestId
  inReplyTo := some reply.inReplyTo
  text := reply.text
  metadata := reply.metadataJson

/-- Two envelopes agree in the seven fields, in the metadata up to the order of keys. -/
structure Envelope.Agree (first second : Envelope) : Prop where
  sender : first.sender = second.sender
  recipient : first.recipient = second.recipient
  messageId : first.messageId = second.messageId
  requestId : first.requestId = second.requestId
  inReplyTo : first.inReplyTo = second.inReplyTo
  text : first.text = second.text
  metadata : Json.Same ((first.metadata.map Metadata.toJson).getD .null)
    ((second.metadata.map Metadata.toJson).getD .null)

theorem str_of_same {first second : String} (same : Json.Same (.str first) (.str second)) :
    first = second := by
  cases same
  rfl

/-- Envelopes whose norms are the same agree. -/
theorem agree_of_same {first second : Envelope} (same : first.norm.Same second.norm) :
    first.Agree second := by
  unfold Envelope.norm at same
  cases same with
  | obj sameKeys each =>
      have inReplyTo := each "inReplyTo" _ _ rfl rfl
      refine ⟨str_of_same (each "sender" _ _ rfl rfl), str_of_same (each "recipient" _ _ rfl rfl),
        str_of_same (each "messageId" _ _ rfl rfl), str_of_same (each "requestId" _ _ rfl rfl), ?_,
        str_of_same (each "text" _ _ rfl rfl), each "metadata" _ _ rfl rfl⟩
      cases isFirst : first.inReplyTo with
      | none =>
          cases isSecond : second.inReplyTo with
          | none => rfl
          | some other =>
              rw [isFirst, isSecond] at inReplyTo
              cases inReplyTo
      | some parent =>
          cases isSecond : second.inReplyTo with
          | none =>
              rw [isFirst, isSecond] at inReplyTo
              cases inReplyTo
          | some other =>
              rw [isFirst, isSecond] at inReplyTo
              exact congrArg some (str_of_same inReplyTo)

section

variable {sha256 : String → String} {runtime : JournalRuntime}

/-- In every run a row has the hash of what it was stored for. -/
theorem hashes_run (hashing : runtime.computeEnvelopeHash = computeEnvelopeHash sha256)
    (labels : List HostLabel) :
    ((hostMachine runtime).run labels).journal.AllStored
      (fun row => row.canonicalHash = computeEnvelopeHash sha256 row.envelope)
      (fun reply => reply.canonicalHash = computeEnvelopeHash sha256 reply.envelope) := by
  refine allStored_run (fun label row isNew => ?_) (fun host label reply isNew => ?_) labels
  · cases label with
    | sendMessage answers envelope options =>
        rw [HostLabel.NewMessage] at isNew
        rw [isNew]
        exact congrFun hashing envelope
    | _ => cases isNew
  · cases label with
    | sendReply answers args now =>
        obtain ⟨original, pin, -, rfl⟩ := isNew
        exact congrFun hashing _
    | runnerCompleted messageId replyId text metadata now =>
        obtain ⟨job, -, rfl⟩ := isNew
        exact congrFun hashing _
    | reconcileMessage request now =>
        obtain ⟨row, lateText, -, rfl⟩ := isNew
        exact congrFun hashing _
    | _ => cases isNew

variable {answers : RouteAnswers} {journal after : Journal}

/-- A send taken for a repetition has the hash of its row. -/
theorem recordSend_repeats {envelope : Envelope} {options : SendOptions} {row : MessageRow}
    (succeeded : recordSend runtime answers envelope options journal = .ok (after, row, true)) :
    journal.messages.find? envelope.messageId = some row ∧
      row.canonicalHash = runtime.computeEnvelopeHash envelope := by
  simp only [recordSend, require_bind_ok] at succeeded
  obtain ⟨-, -, rest⟩ := succeeded
  split at rest
  next existing found =>
    simp only [require_bind_ok] at rest
    obtain ⟨-, sameRow⟩ := pair_ok rest.2
    obtain ⟨rfl, -⟩ := Prod.mk.inj sameRow
    exact ⟨found, rest.1.1⟩
  · simp only [require_bind_ok, bind_ok (pinReply _ _ _)] at rest
    obtain ⟨-, pinned, -, -, -, rest⟩ := rest
    cases (Prod.mk.inj (pair_ok rest).2).2

/-- A reply taken for a repetition has the hash of its row. -/
theorem recordInteractiveReply_repeats {args : InteractiveReplyArgs} {now : Int}
    {existing : ReplyRow} (succeeded : recordInteractiveReply runtime answers args now journal =
      .ok (after, .returned (existing, true))) :
    journal.replies.find? existing.messageId = some existing ∧
      ∃ original, journal.messages.find? args.messageId = some original ∧
        existing.canonicalHash =
          runtime.computeEnvelopeHash (interactiveEnvelope args original existing.messageId) := by
  obtain ⟨original, pin, found, -, -, replyEnd⟩ := recordInteractiveReply_ok succeeded
  cases replyEnd with
  | repeated _ completed stored same committed =>
      have isListed := List.mem_of_mem_head? stored
      exact ⟨(Table.mem_select.mp isListed).1, original, found, same.hash⟩
  | known _ executing isLive stored sameHash committed =>
      have isId := (Table.find?_some stored).2
      rw [← isId] at stored sameHash
      exact ⟨stored, original, found, sameHash⟩

/-- Canonical JSON determines its value up to the order of keys; hence a repeated
send or reply agrees with its row, and the registry file reads back. -/
theorem canonicalJson_exact (sha256 : String → String) (runtime : JournalRuntime)
    (collisionFree : ∀ first second : Envelope,
      sha256 (Json.canonicalJson first.norm) = sha256 (Json.canonicalJson second.norm) →
        Json.canonicalJson first.norm = Json.canonicalJson second.norm) :
    (∀ first second : Json, first.Finite → second.Finite →
      (Json.canonicalJson first = Json.canonicalJson second ↔ first.Same second)) ∧
    (∀ value : Json, value.Finite →
      ∃ parsed, Json.parse (Json.canonicalJson value) = some parsed ∧ parsed.Same value) ∧
    (∀ (labels : List HostLabel) (answers : RouteAnswers) (envelope : Envelope)
      (options : SendOptions) (after : Journal) (row : MessageRow),
      recordSend { runtime with computeEnvelopeHash := computeEnvelopeHash sha256 } answers envelope
          options ((hostMachine
            { runtime with computeEnvelopeHash := computeEnvelopeHash sha256 }).run labels).journal =
        .ok (after, row, true) →
      row.envelope.norm.Finite → envelope.norm.Finite → row.envelope.Agree envelope) ∧
    (∀ (labels : List HostLabel) (answers : RouteAnswers) (args : InteractiveReplyArgs) (now : Int)
      (after : Journal) (existing : ReplyRow),
      recordInteractiveReply { runtime with computeEnvelopeHash := computeEnvelopeHash sha256 }
          answers args now ((hostMachine
            { runtime with computeEnvelopeHash := computeEnvelopeHash sha256 }).run labels).journal =
        .ok (after, .returned (existing, true)) →
      ∃ original, ((hostMachine { runtime with
          computeEnvelopeHash := computeEnvelopeHash sha256 }).run labels).journal.messages.find?
            args.messageId = some original ∧
        (existing.envelope.norm.Finite →
          (interactiveEnvelope args original existing.messageId).norm.Finite →
            existing.envelope.Agree (interactiveEnvelope args original existing.messageId))) ∧
    (∀ fields : List (String × Json), (Json.obj fields).Finite →
      ∃ parsed, Identity.parseRegistryBuffer (Identity.registryBuffer (.obj fields)) = .ok parsed ∧
        parsed.Same (.obj fields)) := by
  have agree : ∀ first second : Envelope, first.norm.Finite → second.norm.Finite →
      computeEnvelopeHash sha256 first = computeEnvelopeHash sha256 second →
        first.Agree second := by
    intro first second finite finiteOther sameHash
    exact agree_of_same ((Json.canonicalJson_eq_iff finite finiteOther).mp
      (collisionFree first second sameHash))
  refine ⟨fun first second => Json.canonicalJson_eq_iff, fun value finite => ?_,
    fun labels answers envelope options after row repeated finiteRow finite => ?_,
    fun labels answers args now after existing repeated => ?_,
    fun fields => Identity.parseRegistryBuffer_write⟩
  · obtain ⟨parsed, read, same⟩ := Json.parse_canonicalJson finite "" rfl
    rw [String.append_empty] at read
    exact ⟨parsed, read, same⟩
  · obtain ⟨found, sameHash⟩ := recordSend_repeats repeated
    have ofRow := (@hashes_run sha256 _ rfl labels).messages envelope.messageId row.asSent
      (congrArg (Option.map MessageRow.asSent) found)
    exact agree _ _ finiteRow finite (ofRow.symm.trans sameHash)
  · obtain ⟨found, original, isOriginal, sameHash⟩ := recordInteractiveReply_repeats repeated
    refine ⟨original, isOriginal, fun finiteRow finite => ?_⟩
    have ofReply := (@hashes_run sha256 _ rfl labels).replies existing.messageId
      existing.asStored (congrArg (Option.map ReplyRow.asStored) found)
    exact agree _ _ finiteRow finite (ofReply.symm.trans sameHash)

end

/-- A send with short fields. -/
private def knock : Envelope where
  sender := "a"
  recipient := "b"
  messageId := "m"
  requestId := "r"
  inReplyTo := none
  text := ""
  metadata := none

private def textHashes : JournalRuntime where
  computeEnvelopeHash := computeEnvelopeHash id
  sha256Hex := id
  hashVersion := VersionFields.messageId

private def unpinnedRoutes : RouteAnswers where
  available := false
  attached _ _ _ := false
  pinInTransaction route := .ok route.key
  verifyInTransaction := .error ⟨.bindingChanged, ""⟩
  advanceInTransaction := .ok ()

theorem canonicalJson_exact_knock :
    Json.Same (.obj [("b", .int 1), ("a", .null)]) (.obj [("a", .null), ("b", .int 1)]) ∧
    (queuedRow textHashes knock { now := 0 }).envelope.Agree knock := by
  have exactly := canonicalJson_exact id textHashes fun _ _ same => same
  have finite : knock.norm.Finite := by
    simp [Envelope.norm, knock, jsonOrNull, Json.Finite, Json.FiniteFields, Json.FiniteField]
  constructor
  · have finiteField : ∀ fields : List (String × Json), fields.Perm [("a", .null), ("b", .int 1)] →
        (Json.obj fields).Finite := by
      intro fields perm
      refine ⟨Json.finiteFields_iff.mpr fun field member => ?_, ?_⟩
      · rcases List.mem_pair.mp (perm.mem_iff.mp member) with rfl | rfl
        · trivial
        · exact rfl
      · rw [(perm.map Prod.fst).nodup_iff]
        decide
    exact (exactly.1 _ _ (finiteField _ (.swap ..)) (finiteField _ (.refl _))).mp rfl
  · have found : ((hostMachine textHashes).run [.openService 0,
        .sendMessage unpinnedRoutes knock { now := 0 }]).journal.messages.find? "m" =
          some (queuedRow textHashes knock { now := 0 }) := by
      rfl
    exact exactly.2.2.1 [.openService 0, .sendMessage unpinnedRoutes knock { now := 0 }] unpinnedRoutes knock
      { now := 1 } _ _ (recordSend_repeated ⟨by decide, by intros; contradiction⟩ found ⟨rfl, rfl, rfl, rfl⟩)
      finite finite

end Triangle.LocalMessaging
