import Triangle.LocalMessaging.Admission

/-!
# The rows a step adds

A step keeps what sends and replies wrote, and a row that it adds is one its
label determines: a send's, an accepted interactive reply, the reply of a
finished job, or an accepted late result. `AddsRows` says so, and from it follows
what holds of all rows in every run (`allStored_run`).
-/

namespace Triangle.LocalMessaging

open Triangle.Std Triangle.Semantics

/-- The reply as it was stored. -/
def ReplyRow.asStored (reply : ReplyRow) : ReplyRow :=
  { reply with consumed := false, updatedAt := reply.createdAt }

/-- A stored reply as it was written. -/
def Journal.replied? (journal : Journal) (replyId : String) : Option ReplyRow :=
  (journal.replies.find? replyId).map ReplyRow.asStored

/-- A change whose new rows satisfy a condition. -/
structure AddsRows (newMessage : MessageRow → Prop) (newReply : ReplyRow → Prop)
    (before after : Journal) : Prop where
  messages : ∀ messageId row, after.sent? messageId = some row →
    newMessage row ∨ before.sent? messageId = some row
  replies : ∀ replyId reply, after.replied? replyId = some reply →
    newReply reply ∨ before.replied? replyId = some reply

/-- Every message and every reply as it was written satisfies a condition. -/
structure Journal.AllStored (message : MessageRow → Prop) (reply : ReplyRow → Prop)
    (journal : Journal) : Prop where
  messages : ∀ messageId row, journal.sent? messageId = some row → message row
  replies : ∀ replyId row, journal.replied? replyId = some row → reply row

/-- The message row that a step may add, under an id that no message has. -/
def HostLabel.FreeMessage (runtime : JournalRuntime) (host : Host) (label : HostLabel)
    (row : MessageRow) : Prop :=
  label.NewMessage runtime row ∧ host.journal.messages.find? row.messageId = none

/-- The reply row that a step may add, under an id that no reply has. -/
def HostLabel.FreeReply (runtime : JournalRuntime) (host : Host) (label : HostLabel)
    (reply : ReplyRow) : Prop :=
  label.NewReply runtime host reply ∧ host.journal.replies.find? reply.messageId = none

section

variable {newMessage : MessageRow → Prop} {newReply : ReplyRow → Prop} {journal after : Journal}

variable {message : MessageRow → Prop} {reply : ReplyRow → Prop}

section

variable (adds : AddsRows newMessage newReply journal after)
include adds

/-- New rows of a condition are new rows of a weaker one. -/
theorem AddsRows.mono (ofMessage : ∀ row, newMessage row → message row)
    (ofReply : ∀ row, newReply row → reply row) :
    AddsRows message reply journal after where
  messages messageId row found := (adds.messages messageId row found).imp_left (ofMessage row)
  replies replyId reply found := (adds.replies replyId reply found).imp_left (ofReply reply)

/-- If the new rows satisfy a condition, all still do. -/
theorem AddsRows.allStored (stored : journal.AllStored message reply)
    (ofMessage : ∀ row, newMessage row → message row) (ofReply : ∀ row, newReply row → reply row) :
    after.AllStored message reply where
  messages messageId row found :=
    (adds.messages messageId row found).elim (ofMessage row) (stored.messages messageId row)
  replies replyId row found :=
    (adds.replies replyId row found).elim (ofReply row) (stored.replies replyId row)

end

end

section

variable {runtime : JournalRuntime} {host : Host} {label : HostLabel} {journal after : Journal}

theorem Edits.addsRows (edits : Edits runtime host label journal after) :
    AddsRows (label.FreeMessage runtime host) (label.FreeReply runtime host) journal after := by
  induction edits with
  | refl | audit => exact ⟨fun _ _ => .inr, fun _ _ => .inr⟩
  | trans _ _ before next =>
      exact ⟨fun id row found => (next.messages id row found).elim .inl (before.messages id row),
        fun id row found => (next.replies id row found).elim .inl (before.replies id row)⟩
  | update sameSend =>
      exact ⟨fun messageId _ found => .inr ((sent?_updateMessages sameSend messageId).symm.trans
        found), fun _ _ => .inr⟩
  | send row evidence isNew isFree =>
      refine ⟨fun messageId stored found => ?_, fun _ _ => .inr⟩
      rw [Journal.sent?, Table.find?_upsert] at found
      split at found
      · cases found
        refine .inl ⟨?_, isFree⟩
        cases label with
        | sendMessage => exact congrArg MessageRow.asSent isNew
        | _ => cases isNew
      · exact .inr found
  | reply row isNew isNamed isFree =>
      refine ⟨fun _ _ => .inr, fun replyId reply found => ?_⟩
      rw [Journal.replied?, Table.find?_upsert] at found
      split at found
      · cases found
        refine .inl ⟨?_, isFree⟩
        cases label with
        | sendReply =>
            obtain ⟨original, pin, present, rfl⟩ := isNew
            exact ⟨original, pin, present, rfl⟩
        | runnerCompleted =>
            obtain ⟨job, isJob, rfl⟩ := isNew
            exact ⟨job, isJob, rfl⟩
        | reconcileMessage =>
            obtain ⟨original, lateText, present, rfl⟩ := isNew
            exact ⟨original, lateText, present, rfl⟩
        | _ => cases isNew
      · exact .inr found
  | consume consumed now =>
      refine ⟨fun _ _ => .inr, fun replyId reply found => .inr ?_⟩
      rw [Journal.replied?, Table.find?_update, Option.map_map] at found
      rw [Journal.replied?, ← found]
      apply congrFun (congrArg Option.map _)
      funext row
      rw [Function.comp]
      split <;> rfl
  | compact now retentionMs isLabel =>
      refine ⟨fun messageId row found => .inr ?_, fun replyId reply found => .inr ?_⟩
      · rw [Journal.sent?, LocalMessaging.compact, Table.find?_delete, Option.map_eq_some_iff] at found
        obtain ⟨stored, kept, rfl⟩ := found
        rw [Journal.sent?, (Option.filter_eq_some_iff.mp kept).1]
        rfl
      · rw [Journal.replied?, LocalMessaging.compact, Table.find?_delete, Option.map_eq_some_iff] at found
        obtain ⟨stored, kept, rfl⟩ := found
        rw [Journal.replied?, (Option.filter_eq_some_iff.mp kept).1]
        rfl

/-- A step adds only rows of its label, under free ids. -/
theorem hostStep_addsFree :
    AddsRows (label.FreeMessage runtime host) (label.FreeReply runtime host) host.journal
      (hostStep runtime host label).journal :=
  hostStep_edits.addsRows

/-- A step adds only rows of its label. -/
theorem hostStep_adds :
    AddsRows (label.NewMessage runtime) (label.NewReply runtime host) host.journal
      (hostStep runtime host label).journal :=
  hostStep_addsFree.mono (fun _ isNew => isNew.1) fun _ isNew => isNew.1

/-- What holds of every row that a step may add holds of all rows in every run. -/
theorem allStored_run {message : MessageRow → Prop} {reply : ReplyRow → Prop}
    (ofMessage : ∀ label row, HostLabel.NewMessage runtime label row → message row)
    (ofReply : ∀ host label row, HostLabel.NewReply runtime host label row → reply row)
    (labels : List HostLabel) :
    ((hostMachine runtime).run labels).journal.AllStored message reply := by
  have start : (hostMachine runtime).initial.journal.AllStored message reply := by
    refine ⟨fun _ row found => ?_, fun _ row found => ?_⟩
    · exact absurd found (Option.some_ne_none row).symm
    · exact absurd found (Option.some_ne_none row).symm
  refine @Machine.invariant_runFrom _ _ (hostMachine runtime)
    (fun host : Host => host.journal.AllStored message reply) ?_ _ start labels
  intro host label stored
  exact hostStep_adds.allStored stored (ofMessage label) (ofReply host label)

end

end Triangle.LocalMessaging
