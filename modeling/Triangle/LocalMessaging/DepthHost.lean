import Triangle.LocalMessaging.AddedRows
import Triangle.LocalMessaging.LifeCycle
import Triangle.LocalMessaging.SendCosts
import Triangle.Std.Ancestry

/-!
# Depths in the running host

The host together with the limits that its server keeps in memory: sends come
through `send_message`, everything else is a step of the host, and a process that
ends forgets its limits.

`getRecord` finds messages and replies under one name space of ids, but each table
only keeps its own ids apart. So the depths are those of the causal chains as long
as the ids of messages and replies differ and none is used again (`UsesNewIds`).
-/

namespace Triangle.LocalMessaging

open Triangle.Std Triangle.Semantics

/-- `_loopDepth` of a record. -/
def StoredRecord.loopDepth (record : StoredRecord) : Int :=
  loopDepthOf record.metadata

/-- The record of an id, as its depth and the id that it answers. -/
def Journal.node? (journal : Journal) (id : String) : Option (AncestryNode String) :=
  (journal.getRecord id).map fun record => ⟨record.loopDepth, record.inReplyTo⟩

/-- The host with the limits that its server keeps in memory. -/
structure DepthHost (runtime : SendRuntime) where
  host : Host
  history : SenderHistory
  tracker : LoopTracker runtime.maxTrackedMessages

/-- A request to send, or another step of the host. -/
inductive DepthLabel
  | send (answers : SendAnswers) (claims : TurnClaims) (senderId : String) (now : Int)
      (params : List (String × Json))
  | host (label : HostLabel)

section

variable {runtime : SendRuntime}

/-- The server of the host. -/
def DepthHost.server (state : DepthHost runtime) : SendServer runtime where
  history := state.history
  tracker := state.tracker
  journal := state.host.journal

end

section

variable (runtime : SendRuntime)

end

section

variable {runtime : SendRuntime}

/-- Every stored record is deeper than the stored record it answers, and the memory says
what the journal says. `getRecord` misses no record, as `distinct` tells. -/
structure DepthsKept (state : DepthHost runtime) : Prop where
  messages : ∀ row ∈ state.host.journal.messages.rows, ∀ parent record,
    row.inReplyTo = some parent → state.host.journal.getRecord parent = some record →
      record.loopDepth + 1 ≤ loopDepthOf row.metadataJson
  replies : ∀ reply ∈ state.host.journal.replies.rows, ∀ record,
    state.host.journal.getRecord reply.inReplyTo = some record →
      record.loopDepth + 1 ≤ loopDepthOf reply.metadataJson
  memory : ∀ parent depth stored, state.tracker.depthByMessageId.held parent = some depth →
    state.host.journal.depth? parent = some stored → depth = stored
  distinct : ∀ reply ∈ state.host.journal.replies.rows,
    state.host.journal.messages.find? reply.messageId = none

/-- A step stores no record under the id of a record of the other kind, nor under an id
that a stored record answers; a reply's id is not remembered either. -/
def UsesNewIds (state : DepthHost runtime) : DepthLabel → Prop
  | .send answers claims _ _ params =>
      ∀ request resolution, acceptSend runtime answers claims params = .ok (request, resolution) →
        state.host.journal.messages.find? request.messageId = none →
          state.host.journal.replies.find? request.messageId = none ∧
            request.inReplyTo ≠ some request.messageId ∧
            ¬ Answered state.host.journal.node? request.messageId
  | .host label =>
      ∀ replyId, label.addsReply replyId → state.host.journal.replies.find? replyId = none →
        state.host.journal.messages.find? replyId = none ∧
          state.tracker.depthByMessageId.held replyId = none ∧
          ¬ Answered state.host.journal.node? replyId

end

end Triangle.LocalMessaging
