import Triangle.LocalMessaging.Edits

/-!
# What a send leaves to be read

The columns that a send sets are not set by any other call: until compaction
removes a message, `Journal.sent?` reads what its send wrote. The evidence of
admissions is likewise touched by sends and compaction alone. `KeepsSends` says
both.
-/

namespace Triangle.LocalMessaging

open Triangle.Std

/-- A stored message as its send wrote it. -/
def Journal.sent? (journal : Journal) (messageId : String) : Option MessageRow :=
  (journal.messages.find? messageId).map MessageRow.asSent

/-- A change that no send can be told by. -/
structure KeepsSends (before after : Journal) : Prop where
  sent : ∀ messageId, after.sent? messageId = before.sent? messageId
  admissions : after.pairAdmissions = before.pairAdmissions

/-- A step that neither sends nor compacts. -/
def HostLabel.sparesSends : HostLabel → Bool
  | .sendMessage _ _ _ | .compact _ _ => false
  | _ => true

section

variable {runtime : JournalRuntime} {host : Host} {label : HostLabel} {journal after : Journal}

/-- An update of other columns. -/
theorem sent?_updateMessages {selected : MessageRow → Bool} {change : MessageRow → MessageRow}
    {keeps : ∀ row, (change row).messageId = row.messageId}
    (sameSend : ∀ row, (change row).asSent = row.asSent) (messageId : String) :
    (journal.updateMessages selected change keeps).sent? messageId = journal.sent? messageId := by
  rw [Journal.sent?, find?_updateMessages, Journal.sent?, Option.map_map]
  apply congrFun (congrArg Option.map _)
  funext row
  by_cases chosen : selected row = true
  · rw [Function.comp, if_pos chosen, sameSend]
  · rw [Function.comp, if_neg chosen]

theorem Edits.keepsSends (spares : label.sparesSends = true)
    (edits : Edits runtime host label journal after) : KeepsSends journal after := by
  induction edits with
  | refl | reply | consume | audit => exact ⟨fun _ => rfl, rfl⟩
  | trans _ _ before next =>
      exact ⟨fun messageId => (next.sent messageId).trans (before.sent messageId),
        next.admissions.trans before.admissions⟩
  | update sameSend => exact ⟨sent?_updateMessages sameSend, rfl⟩
  | send row _ isNew _ =>
      cases label with
      | sendMessage => cases spares
      | _ => cases isNew
  | compact now retentionMs isLabel =>
      subst isLabel
      cases spares

/-- A step that neither sends nor compacts keeps what sends wrote. -/
theorem hostStep_keepsSends (spares : label.sparesSends = true) :
    KeepsSends host.journal (hostStep runtime host label).journal :=
  hostStep_edits.keepsSends spares

end

end Triangle.LocalMessaging
