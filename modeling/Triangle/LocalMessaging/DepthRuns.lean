import Triangle.LocalMessaging.DepthHost
import Triangle.LocalMessaging.Growth

/-!
# Loop depths over runs

`DepthInvariant` carries the depths through a run: the records rise along the
chains of answers, the memory agrees with them, and a job knows the depth of its
message. A step of the host that is no send adds at most the reply that its label
names (`hostStep_node`), a hop below the message that it answers.
-/

namespace Triangle.LocalMessaging

open Triangle.Std Triangle.Semantics

/-- The metadata has a depth from 1 on. -/
def HasDepth (metadata : Option Metadata) : Prop :=
  ∃ fields, metadata = some fields ∧ 1 ≤ fields.loopDepth

section

variable {journal : Journal} {id : String}

theorem node?_message {row : MessageRow} (found : journal.messages.find? id = some row) :
    journal.node? id = some ⟨loopDepthOf row.metadataJson, row.inReplyTo⟩ := by
  unfold Journal.node? Journal.getRecord
  rw [found]
  rfl

theorem node?_reply {reply : ReplyRow} (noMessage : journal.messages.find? id = none)
    (found : journal.replies.find? id = some reply) :
    journal.node? id = some ⟨loopDepthOf reply.metadataJson, some reply.inReplyTo⟩ := by
  unfold Journal.node? Journal.getRecord
  rw [noMessage, found]
  rfl

/-- A node is that of a message, or of a reply under an id that no message has. -/
theorem node?_some {node : AncestryNode String} (isNode : journal.node? id = some node) :
    (∃ row, journal.messages.find? id = some row ∧
      node = ⟨loopDepthOf row.metadataJson, row.inReplyTo⟩) ∨
    (journal.messages.find? id = none ∧ ∃ reply, journal.replies.find? id = some reply ∧
      node = ⟨loopDepthOf reply.metadataJson, some reply.inReplyTo⟩) := by
  cases isMessage : journal.messages.find? id with
  | some row =>
      rw [node?_message isMessage] at isNode
      exact Or.inl ⟨row, rfl, (Option.some.inj isNode).symm⟩
  | none =>
      cases isReply : journal.replies.find? id with
      | some reply =>
          rw [node?_reply isMessage isReply] at isNode
          exact Or.inr ⟨rfl, reply, rfl, (Option.some.inj isNode).symm⟩
      | none =>
          unfold Journal.node? Journal.getRecord at isNode
          rw [isMessage, isReply] at isNode
          cases isNode

theorem getRecord_node? {record : StoredRecord} (isRecord : journal.getRecord id = some record) :
    journal.node? id = some ⟨record.loopDepth, record.inReplyTo⟩ := by
  rw [Journal.node?, isRecord, Option.map_some]

/-- Where every record has a depth, that is what the tracker reads. -/
theorem depth?_eq
    (known : journal.AllStored (fun row => HasDepth row.metadataJson)
      fun reply => HasDepth reply.metadataJson) :
    journal.depth? id = (journal.node? id).map AncestryNode.depth := by
  have ofMetadata : ∀ record : StoredRecord, HasDepth record.metadata →
      storedDepth record = record.loopDepth := by
    rintro record ⟨fields, isMetadata, isPositive⟩
    unfold storedDepth StoredRecord.loopDepth
    rw [isMetadata]
    exact if_pos (by omega)
  unfold Journal.depth? Journal.node? Journal.getRecord
  cases isMessage : journal.messages.find? id with
  | some row =>
      have isSent : journal.sent? id = some row.asSent := by rw [Journal.sent?, isMessage]; rfl
      have hasDepth : HasDepth row.asSent.metadataJson := known.messages id row.asSent isSent
      exact congrArg some (ofMetadata (.message row) hasDepth)
  | none =>
      cases isReply : journal.replies.find? id with
      | none => rfl
      | some reply =>
          have isReplied : journal.replied? id = some reply.asStored := by
            rw [Journal.replied?, isReply]
            rfl
          have hasDepth : HasDepth reply.asStored.metadataJson :=
            known.replies id reply.asStored isReplied
          exact congrArg some (ofMetadata (.reply reply) hasDepth)

end

section

variable {runtime : SendRuntime}

/-- What carries the depths through a run. -/
structure DepthInvariant (state : DepthHost runtime) : Prop where
  rising : Rising state.host.journal.node?
  agrees : MemoryAgrees state.tracker.depthByMessageId.held state.host.journal.node?
  distinct : ∀ id reply, state.host.journal.replies.find? id = some reply →
    state.host.journal.messages.find? id = none
  known : state.host.journal.AllStored (fun row => HasDepth row.metadataJson)
    fun reply => HasDepth reply.metadataJson
  jobs : ∀ job ∈ state.host.jobs, ∀ row,
    state.host.journal.messages.find? job.messageId = some row →
      loopDepthOf row.metadataJson = job.loopDepth
  host : HostInvariant state.host

/-- Under the invariant the depths are as they should be. -/
theorem DepthInvariant.kept {state : DepthHost runtime} (invariant : DepthInvariant state) :
    DepthsKept state where
  messages row member parent record isParent isRecord :=
    invariant.rising row.messageId _ parent _ (node?_message (Table.mem_rows_iff.mp member))
      isParent (getRecord_node? isRecord)
  replies reply member record isRecord := by
    have found := Table.mem_rows_iff.mp member
    exact invariant.rising reply.messageId _ reply.inReplyTo _
      (node?_reply (invariant.distinct _ reply found) found) rfl (getRecord_node? isRecord)
  memory parent depth stored isHeld isStored := by
    rw [depth?_eq invariant.known] at isStored
    obtain ⟨node, isNode, rfl⟩ := Option.map_eq_some_iff.mp isStored
    exact invariant.agrees parent depth node isHeld isNode
  distinct reply member := invariant.distinct _ reply (Table.mem_rows_iff.mp member)

end

/-! ## Steps of the host -/

section

variable {runtime : JournalRuntime} {host : Host} {label : HostLabel}

/-- A label names one new reply. -/
theorem addsReply_unique {first second : String} (addsFirst : label.addsReply first)
    (addsSecond : label.addsReply second) : first = second := by
  cases label with
  | sendReply | runnerCompleted => exact addsFirst.trans addsSecond.symm
  | reconcileMessage => exact addsFirst.2.trans addsSecond.2.symm
  | _ => cases addsFirst

variable {reply : ReplyRow} {id : String} {row : MessageRow}

/-- A new reply lies a hop below the message it answers. -/
theorem newReply_depth (invariant : HostInvariant host)
    (jobs : ∀ job ∈ host.jobs, ∀ row, host.journal.messages.find? job.messageId = some row →
      loopDepthOf row.metadataJson = job.loopDepth) (isNew : label.NewReply runtime host reply) :
    ∃ row fields, host.journal.messages.find? reply.inReplyTo = some row ∧
      reply.metadataJson = some fields ∧
      fields.loopDepth = loopDepthOf row.metadataJson + 1 := by
  cases label with
  | sendReply answers args now =>
      obtain ⟨original, pin, found, rfl⟩ := isNew
      exact ⟨original, _, found, rfl, rfl⟩
  | runnerCompleted messageId replyId text metadata now =>
      obtain ⟨job, isJob, rfl⟩ := isNew
      have member := (job?_mem isJob).1
      have isRunner := (invariant.jobsUnfinished job member).1
      obtain ⟨row, found, -⟩ := Option.map_eq_some_iff.mp isRunner
      refine ⟨row, _, found, rfl, ?_⟩
      rw [jobs job member row found]
      rfl
  | reconcileMessage request now =>
      obtain ⟨row, lateText, found, rfl⟩ := isNew
      exact ⟨row, _, found, rfl, rfl⟩
  | _ => cases isNew

/-- A step that is no send. -/
def HostLabel.isSend : HostLabel → Bool
  | .sendMessage _ _ _ => true
  | _ => false

/-- A step that is no send adds no message. -/
theorem hostStep_sent (noSend : label.isSend = false)
    (isSent : (hostStep runtime host label).journal.sent? id = some row) :
    host.journal.sent? id = some row := by
  rcases hostStep_addsFree.messages id row isSent with ⟨isNew, -⟩ | wasSent
  · cases label with
    | sendMessage => cases noSend
    | _ => cases isNew
  · exact wasSent

/-- A message that is there after a step that is no send was there before it, as its send
wrote it. -/
theorem hostStep_message (noSend : label.isSend = false)
    (found : (hostStep runtime host label).journal.messages.find? id = some row) :
    ∃ before, host.journal.messages.find? id = some before ∧
      before.metadataJson = row.metadataJson ∧ before.inReplyTo = row.inReplyTo := by
  have isSent : (hostStep runtime host label).journal.sent? id = some row.asSent := by
    rw [Journal.sent?, found]
    rfl
  obtain ⟨before, wasFound, sameSent⟩ := Option.map_eq_some_iff.mp (hostStep_sent noSend isSent)
  have sameMetadata := congrArg MessageRow.metadataJson sameSent
  have sameParent := congrArg MessageRow.inReplyTo sameSent
  exact ⟨before, wasFound, sameMetadata, sameParent⟩

/-- A reply that is there after a step was there before it, or is new. -/
theorem hostStep_reply
    (found : (hostStep runtime host label).journal.replies.find? id = some reply) :
    (∃ before, host.journal.replies.find? id = some before ∧
      before.metadataJson = reply.metadataJson ∧ before.inReplyTo = reply.inReplyTo) ∨
    (host.journal.replies.find? id = none ∧ label.addsReply id ∧
      label.NewReply runtime host reply.asStored) := by
  have isReplied : (hostStep runtime host label).journal.replied? id = some reply.asStored := by
    rw [Journal.replied?, found]
    rfl
  rcases hostStep_addsFree.replies id _ isReplied with ⟨isNew, isFree⟩ | wasReplied
  · have sameId : reply.asStored.messageId = id := (Table.find?_some found).2
    rw [sameId] at isFree
    rcases hostStep_grows.replies id (by rw [found]; rfl) with isNamed | wasThere
    · exact Or.inr ⟨isFree, isNamed, isNew⟩
    · rw [isFree] at wasThere
      cases wasThere
  · obtain ⟨before, wasFound, sameReply⟩ := Option.map_eq_some_iff.mp wasReplied
    have sameMetadata := congrArg ReplyRow.metadataJson sameReply
    have sameParent := congrArg ReplyRow.inReplyTo sameReply
    exact Or.inl ⟨before, wasFound, sameMetadata, sameParent⟩

/-- A node after a step that is no send was there before it, or is that of a new reply. -/
theorem hostStep_node (noSend : label.isSend = false)
    (distinct : ∀ id reply, host.journal.replies.find? id = some reply →
      host.journal.messages.find? id = none) {node : AncestryNode String}
    (isNode : (hostStep runtime host label).journal.node? id = some node) :
    host.journal.node? id = some node ∨
      (host.journal.replies.find? id = none ∧ label.addsReply id ∧
        ∃ reply, label.NewReply runtime host reply ∧
          node = ⟨loopDepthOf reply.metadataJson, some reply.inReplyTo⟩) := by
  rcases node?_some isNode with ⟨row, found, rfl⟩ | ⟨-, reply, found, rfl⟩
  · obtain ⟨before, wasFound, sameMetadata, sameParent⟩ := hostStep_message noSend found
    refine Or.inl ?_
    rw [node?_message wasFound, sameMetadata, sameParent]
  · rcases hostStep_reply found with ⟨before, wasFound, sameMetadata, sameParent⟩ |
      ⟨isFree, isNamed, isNew⟩
    · refine Or.inl ?_
      rw [node?_reply (distinct id before wasFound) wasFound, sameMetadata, sameParent]
    · exact Or.inr ⟨isFree, isNamed, reply.asStored, isNew, rfl⟩

/-- What a job knows of its message: from before the step, or from the row it was claimed
with. -/
theorem serveStep_job {job : Job} (member : job ∈ (serveStep runtime host label).jobs) :
    (∃ earlier ∈ host.jobs, earlier.messageId = job.messageId ∧
        earlier.loopDepth = job.loopDepth) ∨
      ∃ row, (serveStep runtime host label).journal.messages.find? job.messageId = some row ∧
        loopDepthOf row.metadataJson = job.loopDepth := by
  have keeps : ∀ {jobs : List Job}, jobs = host.jobs → job ∈ jobs →
      ∃ earlier ∈ host.jobs, earlier.messageId = job.messageId ∧
        earlier.loopDepth = job.loopDepth := by
    rintro jobs rfl there
    exact ⟨job, there, rfl, rfl⟩
  cases label with
  | openService | openOwner | stop | reconcileMessage | admissionFailure | listInbox
  | recoverQueued | compact => exact .inl (keeps rfl member)
  | sendMessage | claimInboxMessage | sendReply =>
      refine .inl ?_
      simp only [serveStep, Host.commit] at member
      split at member
      · exact keeps rfl member
      · exact keeps rfl member
  | consumeReply requester replyId now =>
      refine .inl ?_
      simp only [serveStep] at member
      split at member
      · exact keeps rfl member
      · exact keeps rfl member
  | claimExecution claimed now =>
      simp only [serveStep] at member ⊢
      split at member
      next journal row result =>
        rw [List.mem_append, List.mem_singleton] at member
        rcases member with there | rfl
        · exact .inl ⟨job, there, rfl, rfl⟩
        · refine .inr ⟨row, ?_, rfl⟩
          unfold claimExecution at result
          dsimp only at result
          split at result
          · split at result
            · obtain ⟨rfl, isRead⟩ := Prod.mk.inj result
              have sameId := (Table.find?_some isRead).2
              exact (congrArg (Table.find? _) sameId).trans isRead
            · cases (Prod.mk.inj result).2
          · cases (Prod.mk.inj result).2
      · exact .inl (keeps rfl member)
  | runnerCompleted completed replyId text metadata now =>
      refine .inl ?_
      simp only [serveStep] at member
      split at member
      · exact keeps rfl member
      · split at member
        · exact keeps rfl (List.mem_filter.mp member).1
        · obtain ⟨earlier, there, rfl⟩ := List.mem_map.mp member
          refine ⟨earlier, there, ?_⟩
          split
          · exact ⟨rfl, rfl⟩
          · exact ⟨rfl, rfl⟩
  | runnerHeld | runnerFailed | persistFailure =>
      refine .inl ?_
      simp only [serveStep] at member
      split at member
      · exact keeps rfl member
      · exact keeps rfl (List.mem_filter.mp member).1

theorem hostStep_job (invariant : HostInvariant host) {job : Job}
    (member : job ∈ (hostStep runtime host label).jobs) :
    (∃ earlier ∈ host.jobs, earlier.messageId = job.messageId ∧
        earlier.loopDepth = job.loopDepth) ∨
      ∃ row, (hostStep runtime host label).journal.messages.find? job.messageId = some row ∧
        loopDepthOf row.metadataJson = job.loopDepth := by
  by_cases serving : host.mode = .serving
  · by_cases ends : label = .stop
    · subst ends
      cases member
    · rw [hostStep_serving serving ends] at member ⊢
      exact serveStep_job member
  · rw [hostStep_jobs_nil invariant serving] at member
    cases member

end

/-! ## The invariant -/

section

variable {runtime : SendRuntime} {state : DepthHost runtime} {label : HostLabel}

/-- A step that is no send keeps the depths, whatever the memory still knows. -/
theorem DepthInvariant.hostStep (invariant : DepthInvariant state) (noSend : label.isSend = false)
    (newIds : UsesNewIds state (.host label)) {history : SenderHistory}
    {tracker : LoopTracker runtime.maxTrackedMessages}
    (keeps : ∀ id depth, tracker.depthByMessageId.held id = some depth →
      state.tracker.depthByMessageId.held id = some depth) :
    DepthInvariant
      { host := LocalMessaging.hostStep runtime.journal state.host label
        history := history
        tracker := tracker } := by
  have ofNode : ∀ id node, (LocalMessaging.hostStep runtime.journal state.host label).journal.node?
      id = some node → _ := fun id node => hostStep_node noSend invariant.distinct
  have agrees : MemoryAgrees tracker.depthByMessageId.held state.host.journal.node? :=
    invariant.agrees.of_learned (fun id depth isHeld => Or.inl (keeps id depth isHeld))
      fun _ _ isNode => isNode
  have both : Rising (LocalMessaging.hostStep runtime.journal state.host label).journal.node? ∧
      MemoryAgrees tracker.depthByMessageId.held
        (LocalMessaging.hostStep runtime.journal state.host label).journal.node? := by
    by_cases isSubset : ∀ id node,
        (LocalMessaging.hostStep runtime.journal state.host label).journal.node? id = some node →
          state.host.journal.node? id = some node
    · exact ⟨invariant.rising.of_subset isSubset,
        agrees.of_learned (fun id depth isHeld => Or.inl isHeld) isSubset⟩
    · push Not at isSubset
      obtain ⟨id, node, isNode, isNew⟩ := isSubset
      rcases ofNode id node isNode with wasNode | ⟨isFree, isNamed, reply, isReply, isNodeOf⟩
      · exact absurd wasNode isNew
      obtain ⟨noMessage, notHeld, unanswered⟩ := newIds id isNamed isFree
      obtain ⟨row, fields, isParent, isMetadata, isBelow⟩ :=
        newReply_depth invariant.host invariant.jobs isReply
      have grown : ∀ other otherNode,
          (LocalMessaging.hostStep runtime.journal state.host label).journal.node? other =
            some otherNode →
          state.host.journal.node? other = some otherNode ∨ other = id ∧ otherNode = node := by
        intro other otherNode isOther
        rcases ofNode other otherNode isOther with wasNode | ⟨-, otherNamed, -⟩
        · exact Or.inl wasNode
        · have sameId := addsReply_unique otherNamed isNamed
          rw [sameId, isNode] at isOther
          exact Or.inr ⟨sameId, (Option.some.inj isOther).symm⟩
      refine ⟨invariant.rising.add unanswered ?_ ?_ grown, agrees.add ?_ grown⟩
      · rw [isNodeOf]
        intro sameId
        rw [Option.some.inj sameId, noMessage] at isParent
        cases isParent
      · rintro parent above sameParent isAbove
        rw [isNodeOf] at sameParent
        rw [← Option.some.inj sameParent, node?_message isParent] at isAbove
        rw [isNodeOf, ← Option.some.inj isAbove]
        dsimp only
        rw [isMetadata]
        exact Int.le_of_eq isBelow.symm
      · intro depth isHeld
        rw [keeps id depth isHeld] at notHeld
        cases notHeld
  refine
    { rising := both.1
      agrees := both.2
      distinct := ?_
      known := ?_
      jobs := ?_
      host := hostStep_invariant state.host label invariant.host }
  · intro id reply found
    have noMessage : state.host.journal.messages.find? id = none := by
      rcases hostStep_reply found with ⟨before, wasFound, -⟩ | ⟨isFree, isNamed, -⟩
      · exact invariant.distinct id before wasFound
      · exact (newIds id isNamed isFree).1
    cases isMessage :
        (LocalMessaging.hostStep runtime.journal state.host label).journal.messages.find? id with
    | none => rfl
    | some row =>
        obtain ⟨before, wasFound, -⟩ := hostStep_message noSend isMessage
        rw [noMessage] at wasFound
        cases wasFound
  · refine ⟨fun id row isSent => ?_, fun id reply isReplied => ?_⟩
    · exact invariant.known.messages id row (hostStep_sent noSend isSent)
    · rcases hostStep_adds.replies id reply isReplied with isNew | wasReplied
      · obtain ⟨row, fields, isParent, isMetadata, isBelow⟩ :=
          newReply_depth invariant.host invariant.jobs isNew
        have isSent : state.host.journal.sent? reply.inReplyTo = some row.asSent := by
          rw [Journal.sent?, isParent]
          rfl
        obtain ⟨rowFields, rowMetadata, isPositive⟩ :=
          invariant.known.messages _ row.asSent isSent
        have rowDepth : loopDepthOf row.asSent.metadataJson = rowFields.loopDepth := by
          rw [rowMetadata]
          rfl
        refine ⟨fields, isMetadata, ?_⟩
        rw [isBelow]
        have sameDepth : loopDepthOf row.metadataJson = rowFields.loopDepth := rowDepth
        omega
      · exact invariant.known.replies id reply wasReplied
  · intro job member row found
    rcases hostStep_job invariant.host member with ⟨earlier, there, sameId, sameDepth⟩ |
      ⟨claimed, isClaimed, claimedDepth⟩
    · obtain ⟨before, wasFound, sameMetadata, -⟩ := hostStep_message noSend found
      rw [← sameId] at wasFound
      rw [← sameMetadata, invariant.jobs earlier there before wasFound, sameDepth]
    · rw [isClaimed] at found
      rw [← Option.some.inj found, claimedDepth]

end

end Triangle.LocalMessaging
