import Mathlib.Data.List.Sort
import Triangle.PeerEngine.Life

/-!
# The inbox of a journal

The unconsumed messages in the order of their `seq`, whole or page by page. A
page goes on after a cursor, and takes at least one message when there is one.
-/

namespace Triangle.PeerEngine

open Triangle.Std

section

variable {Addr : Type}

/-- A received message that is not consumed yet. -/
structure InboxItem where
  seq : Nat
  messageId : String
  payloadHash : String
  payload : String
  fromEndpointId : String
  tsUnixMs : Nat
  deriving DecidableEq, Repr

/-- The inbox item of a record with a given payload. -/
def InboundRecord.itemWith (record : InboundRecord) (payload : String) : InboxItem where
  seq := record.seq
  messageId := record.messageId
  payloadHash := record.payloadHash
  payload := payload
  fromEndpointId := record.sender
  tsUnixMs := record.tsUnixMs

namespace Journal

/-- All unconsumed inbox items, ordered by `seq`. -/
def inboxItems (journal : Journal Addr) : List InboxItem :=
  ((journal.index.inbound.select fun record => !record.consumed).filterMap fun record =>
    record.payload.map record.itemWith).mergeSort fun first second => first.seq ≤ second.seq

/-- The records a page after a cursor chooses from, ordered by `seq`. -/
def inboxCandidates (journal : Journal Addr) (afterSeq : Nat) : List InboundRecord :=
  (journal.index.inbound.select fun record =>
    !record.consumed && afterSeq < record.seq && record.payload.isSome).mergeSort
      fun first second => first.seq ≤ second.seq

/-- Fill a page. `itemBytes` is the length of an item's JSON. -/
def fillPage (itemBytes : InboxItem → Nat) (limit byteBudget : Nat) :
    List InboxItem → Nat → List InboundRecord → List InboxItem
  | page, _, [] => page
  | page, bytes, record :: rest =>
      let item := record.itemWith (record.payload.getD "")
      let size := itemBytes item + 1
      if page ≠ [] ∧ (max limit 1 ≤ page.length ∨ byteBudget < bytes + size) then page
      else fillPage itemBytes limit byteBudget (page ++ [item]) (bytes + size) rest

/-- One page of unconsumed items after a cursor, and whether there are more. -/
def inboxPage (itemBytes : InboxItem → Nat) (journal : Journal Addr)
    (afterSeq limit byteBudget : Nat) : List InboxItem × Bool :=
  let candidates := journal.inboxCandidates afterSeq
  let page := fillPage itemBytes limit byteBudget [] 0 candidates
  (page, page.length < candidates.length)

end Journal

/-- A received message that is not consumed. -/
def Index.Unconsumed (index : Index Addr) (record : InboundRecord) : Prop :=
  index.inbound.find? record.key = some record ∧ record.consumed = false

variable {journal : Journal Addr} {itemBytes : InboxItem → Nat} {afterSeq limit byteBudget : Nat}

theorem mem_inboxItems {item : InboxItem} :
    item ∈ journal.inboxItems ↔ ∃ record payload, journal.index.Unconsumed record ∧
      record.payload = some payload ∧ record.itemWith payload = item := by
  rw [Journal.inboxItems, List.mem_mergeSort, List.mem_filterMap]
  constructor
  · rintro ⟨record, member, isItem⟩
    rw [Table.mem_select, Bool.not_eq_true'] at member
    obtain ⟨payload, isPayload, same⟩ := Option.map_eq_some_iff.mp isItem
    exact ⟨record, payload, member, isPayload, same⟩
  · rintro ⟨record, payload, member, isPayload, same⟩
    refine ⟨record, ?_, ?_⟩
    · rw [Table.mem_select, Bool.not_eq_true']
      exact member
    · rw [isPayload, Option.map_some, same]

theorem mem_inboxCandidates {record : InboundRecord} :
    record ∈ journal.inboxCandidates afterSeq ↔
      journal.index.Unconsumed record ∧ afterSeq < record.seq ∧ record.payload.isSome := by
  rw [Journal.inboxCandidates, List.mem_mergeSort, Table.mem_select]
  simp only [Bool.and_eq_true, Bool.not_eq_true', decide_eq_true_eq, Index.Unconsumed]
  tauto

/-- A page is made of the first candidates, and takes at least one. -/
theorem fillPage_prefix (candidates : List InboundRecord) (page : List InboxItem) (bytes : Nat) :
    ∃ count, Journal.fillPage itemBytes limit byteBudget page bytes candidates =
        page ++ (candidates.take count).map (fun record => record.itemWith (record.payload.getD "")) ∧
      (page = [] → candidates ≠ [] → 0 < count) := by
  induction candidates generalizing page bytes with
  | nil => exact ⟨0, by simp [Journal.fillPage], fun _ notEmpty => absurd rfl notEmpty⟩
  | cons record rest ih =>
      rw [Journal.fillPage]
      split_ifs with isFull
      · exact ⟨0, by simp, fun isEmpty => absurd isEmpty isFull.1⟩
      · obtain ⟨count, isPage, -⟩ := ih
          (page ++ [record.itemWith (record.payload.getD "")])
          (bytes + (itemBytes (record.itemWith (record.payload.getD "")) + 1))
        refine ⟨count + 1, ?_, fun _ _ => Nat.succ_pos count⟩
        rw [isPage, List.take_succ_cons, List.map_cons, List.append_assoc]
        rfl

/-- No two unconsumed messages share a `seq`. -/
def Index.DistinctSeqs (index : Index Addr) : Prop :=
  ∀ first second, index.Unconsumed first → index.Unconsumed second → first.seq = second.seq →
    first = second

/-- What a page is: a part of the inbox after the cursor, in the order of `seq`;
what it leaves out comes after all that it has. -/
structure IsPage (journal : Journal Addr) (afterSeq : Nat) (page : List InboxItem) (more : Bool) :
    Prop where
  member : ∀ item ∈ page, item ∈ journal.inboxItems ∧ afterSeq < item.seq
  ordered : page.Pairwise fun first second => first.seq < second.seq
  complete : ∀ item ∈ journal.inboxItems, afterSeq < item.seq →
    item ∈ page ∨ ∀ other ∈ page, other.seq < item.seq
  notEmpty : (∃ item ∈ journal.inboxItems, afterSeq < item.seq) ∨ more = true → page ≠ []
  more : more = false → ∀ item ∈ journal.inboxItems, afterSeq < item.seq → item ∈ page

theorem inboxPage_isPage (distinct : journal.index.DistinctSeqs) :
    IsPage journal afterSeq (journal.inboxPage itemBytes afterSeq limit byteBudget).1
      (journal.inboxPage itemBytes afterSeq limit byteBudget).2 := by
  let toItem (record : InboundRecord) : InboxItem := record.itemWith (record.payload.getD "")
  generalize isCandidates : journal.inboxCandidates afterSeq = candidates
  have isMember : ∀ record, record ∈ candidates ↔
      journal.index.Unconsumed record ∧ afterSeq < record.seq ∧ record.payload.isSome := by
    intro record
    rw [← isCandidates, mem_inboxCandidates]
  have isItem : ∀ item, item ∈ journal.inboxItems ∧ afterSeq < item.seq ↔
      ∃ record ∈ candidates, toItem record = item := by
    intro item
    rw [mem_inboxItems]
    constructor
    · rintro ⟨⟨record, payload, unconsumed, isPayload, rfl⟩, isAfter⟩
      refine ⟨record, (isMember record).mpr ⟨unconsumed, isAfter, by rw [isPayload]; rfl⟩, ?_⟩
      simp only [toItem, isPayload, Option.getD_some]
    · rintro ⟨record, member, rfl⟩
      obtain ⟨unconsumed, isAfter, hasPayload⟩ := (isMember record).mp member
      obtain ⟨payload, isPayload⟩ := Option.isSome_iff_exists.mp hasPayload
      exact ⟨⟨record, payload, unconsumed, isPayload, by
        simp only [toItem, isPayload, Option.getD_some]⟩, isAfter⟩
  have inOrder : candidates.Pairwise fun first second => first.seq < second.seq := by
    have sorted : candidates.Pairwise fun first second => first.seq ≤ second.seq := by
      rw [← isCandidates, Journal.inboxCandidates]
      refine (List.pairwise_mergeSort ?_ ?_ _).imp ?_
      · simp only [decide_eq_true_eq]
        exact fun _ _ _ => Nat.le_trans
      · simp only [Bool.or_eq_true, decide_eq_true_eq]
        exact fun first second => Nat.le_total first.seq second.seq
      · exact fun notAbove => of_decide_eq_true notAbove
    have noTwice : candidates.Nodup := by
      rw [← isCandidates, Journal.inboxCandidates, (List.mergeSort_perm _ _).nodup_iff]
      exact journal.index.inbound.distinct.of_map.filter _
    refine (List.pairwise_iff_forall_sublist.mpr ?_)
    intro first second isSublist
    have notAbove := List.pairwise_iff_forall_sublist.mp sorted isSublist
    have differ := List.pairwise_iff_forall_sublist.mp noTwice isSublist
    have firstThere := isSublist.subset (List.mem_cons_self)
    have secondThere := isSublist.subset (List.mem_cons_of_mem first List.mem_cons_self)
    rcases notAbove.lt_or_eq with below | same
    · exact below
    · exact absurd (distinct first second ((isMember first).mp firstThere).1
        ((isMember second).mp secondThere).1 same) differ
  obtain ⟨count, isPage, takesOne⟩ :=
    @ fillPage_prefix itemBytes limit byteBudget candidates [] 0
  rw [List.nil_append] at isPage
  have isResult : journal.inboxPage itemBytes afterSeq limit byteBudget =
      ((candidates.take count).map toItem,
        decide (((candidates.take count).map toItem).length < candidates.length)) := by
    unfold Journal.inboxPage
    rw [isCandidates]
    dsimp only
    rw [isPage]
  rw [isResult]
  have whole := List.take_append_drop count candidates
  refine ⟨?_, ?_, ?_, ?_, ?_⟩
  · intro item onPage
    obtain ⟨record, member, isRecord⟩ := List.mem_map.mp onPage
    exact (isItem item).mpr ⟨record, List.mem_of_mem_take member, isRecord⟩
  · rw [List.pairwise_map]
    exact inOrder.sublist (List.take_sublist count candidates)
  · intro item member isAfter
    obtain ⟨record, isCandidate, rfl⟩ := (isItem item).mp ⟨member, isAfter⟩
    rw [← whole] at isCandidate inOrder
    rcases List.mem_append.mp isCandidate with onPage | afterPage
    · exact .inl (List.mem_map_of_mem onPage)
    · right
      intro other onPage
      obtain ⟨otherRecord, otherThere, rfl⟩ := List.mem_map.mp onPage
      exact (List.pairwise_append.mp inOrder).2.2 otherRecord otherThere record afterPage
  · intro reason
    have notEmpty : candidates ≠ [] := by
      rcases reason with ⟨item, member, isAfter⟩ | hasMore
      · obtain ⟨record, isCandidate, -⟩ := (isItem item).mp ⟨member, isAfter⟩
        exact List.ne_nil_of_mem isCandidate
      · intro isEmpty
        rw [isEmpty] at hasMore
        simp at hasMore
    have positive := takesOne rfl notEmpty
    obtain ⟨first, rest, isCons⟩ := List.exists_cons_of_ne_nil notEmpty
    obtain ⟨before, rfl⟩ := Nat.exists_eq_add_of_lt positive
    rw [isCons]
    simp
  · intro noMore item member isAfter
    obtain ⟨record, isCandidate, rfl⟩ := (isItem item).mp ⟨member, isAfter⟩
    have isWhole : candidates.take count = candidates := by
      apply List.take_of_length_le
      simpa using noMore
    exact List.mem_map_of_mem (isWhole.symm ▸ isCandidate)

end

end Triangle.PeerEngine
