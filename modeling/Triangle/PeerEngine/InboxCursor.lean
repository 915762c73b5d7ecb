import Triangle.PeerEngine.Inbox
import Triangle.PeerEngine.ReceiverSide
import Triangle.PeerEngine.PlainRuntime

/-!
# Reading the inbox with a cursor

Every number that was ever given to an inbox item stays below the next one, in
memory and for whoever opens the file: a record keeps its number in the file, a
compaction writes the highest number of all, and numbers that failed appends used
up were never given to an item. So a client that goes on after the last item it
received gets every item once.
-/

namespace Triangle.PeerEngine

open Triangle.Std
open Triangle.Semantics (Machine)

section

variable {Addr : Type}

theorem nextSeqOf_append (entries : List (JournalEntry Addr)) (entry : JournalEntry Addr) :
    nextSeqOf (entries ++ [entry]) = max (nextSeqOf entries) (entry.seq + 1) := by
  rw [nextSeqOf, List.foldl_append]
  rfl

variable {entry : JournalEntry Addr} {record : InboundRecord}

variable {entries : List (JournalEntry Addr)} {journal : Journal Addr} {index : Index Addr}

/-- The next number is above those of all records. -/
theorem seq_lt_nextSeqOf (member : entry ∈ entries) : entry.seq < nextSeqOf entries := by
  induction entries using List.reverseRecOn with
  | nil => cases member
  | append_singleton before last ih =>
      rw [nextSeqOf_append]
      rw [List.mem_append, List.mem_singleton] at member
      rcases member with earlier | rfl
      · exact lt_max_of_lt_left (ih earlier)
      · exact lt_max_of_lt_right (Nat.lt_succ_self _)

theorem one_le_nextSeqOf (entries : List (JournalEntry Addr)) : 1 ≤ nextSeqOf entries := by
  induction entries using List.reverseRecOn with
  | nil => exact le_rfl
  | append_singleton before last ih =>
      rw [nextSeqOf_append]
      exact le_max_of_le_left ih

/-- A snapshot keeps the highest number that was used. -/
theorem le_nextSeqOf_snapshot (runtime : JournalRuntime Addr) (index : Index Addr)
    (nextSeq now : Nat) : nextSeq ≤ nextSeqOf (index.snapshot runtime nextSeq now) := by
  unfold Index.snapshot
  dsimp only
  by_cases used : 0 < nextSeq - 1
  · by_cases isLast : (index.liveEntries runtime).getLast?.map JournalEntry.seq = some (nextSeq - 1)
    · rw [if_neg (fun checkpoint => checkpoint.2 isLast)]
      obtain ⟨last, isThere, isHighest⟩ := Option.map_eq_some_iff.mp isLast
      have below := seq_lt_nextSeqOf (List.mem_of_getLast? isThere)
      omega
    · rw [if_pos ⟨used, isLast⟩, nextSeqOf_append]
      refine le_max_of_le_right ?_
      simp only [checkpointEntry]
      omega
  · rw [if_neg (fun checkpoint => used checkpoint.1)]
    have first := one_le_nextSeqOf (index.liveEntries runtime)
    omega

/-- The next number is above `top`, in memory and for whoever opens the file. -/
def Contents.Above (runtime : JournalRuntime Addr) (top : Nat) (contents : Contents Addr) : Prop :=
  top < contents.nextSeq ∧ ∃ found,
    RecordFile.readRecovering runtime.codec.decode contents.file = .ok found ∧
      top < nextSeqOf found.entries

variable {runtime : JournalRuntime Addr} {limits : JournalLimits} {now top : Nat} {io : Io}
  {operation : Operation Addr}

/-- Compactions and opens keep the next number above `top`. -/
theorem Contents.Above.keeps : Keeps runtime limits now (Contents.Above runtime top) where
  drop := fun _ _ _ above => above
  rewrite := by
    rintro journal pending _ ⟨inMemory, -⟩
    refine ⟨inMemory, _, RecordFile.readRecovering_fileOf _, ?_⟩
    exact Nat.lt_of_lt_of_le inMemory (le_nextSeqOf_snapshot runtime journal.index journal.nextSeq now)
  reopen := by
    rintro journal pending found base _ ⟨-, read, isRead, onDisk⟩ isFound _ _
    change RecordFile.readRecovering runtime.codec.decode journal.file = .ok read at isRead
    rw [isFound, Except.ok.injEq] at isRead
    subst isRead
    exact ⟨onDisk, _, RecordFile.readRecovering_fileOf _, onDisk⟩

/-- Without a pending record the file is made of whole records. -/
theorem Tracks.file_eq (tracks : Tracks runtime limits now none journal) :
    ∃ entries, journal.file = RecordFile.fileOf runtime.codec entries := by
  obtain ⟨entries, left, isFile, -⟩ := tracks.stored
  exact ⟨entries, by rw [isFile, tailOf, List.append_nil]⟩

/-- A written record is read behind the others. -/
theorem readRecovering_written (entries : List (JournalEntry Addr)) (entry : JournalEntry Addr) :
    RecordFile.readRecovering runtime.codec.decode (RecordFile.fileOf runtime.codec entries ++
      RecordFile.line runtime.codec entry) = .ok ⟨entries ++ [entry], none⟩ := by
  have appended : RecordFile.fileOf runtime.codec entries ++ RecordFile.line runtime.codec entry =
      RecordFile.fileOf runtime.codec (entries ++ [entry]) := by
    rw [RecordFile.fileOf_append]
    simp [RecordFile.fileOf]
  rw [appended, RecordFile.readRecovering_fileOf]

/-- So do calls. -/
theorem Contents.Above.serves : Serves runtime limits io operation (Contents.Above runtime top) where
  toKeeps := Contents.Above.keeps
  touch := fun _ _ _ _ _ _ _ _ above => above
  number := fun _ _ above => ⟨Nat.lt_succ_of_lt above.1, above.2⟩
  damage := by
    rintro journal entry left tracks _ ⟨inMemory, read, isRead, onDisk⟩
    refine ⟨Nat.lt_succ_of_lt inMemory, ?_⟩
    obtain ⟨entries, isFile⟩ := tracks.file_eq
    dsimp only [Journal.contents] at isRead ⊢
    rw [isFile, RecordFile.readRecovering_fileOf, Except.ok.injEq] at isRead
    subst isRead
    rw [isFile]
    obtain ⟨found, isFound, ⟨isCut, -⟩ | ⟨isWhole, -⟩⟩ :=
      @RecordFile.readRecovering_torn _ runtime.codec entries entry left
    · exact ⟨found, isFound, by rw [isCut]; exact onDisk⟩
    · refine ⟨found, isFound, ?_⟩
      rw [isWhole, nextSeqOf_append]
      exact lt_max_of_lt_left onDisk
  write := by
    rintro journal entry tracks _ ⟨inMemory, read, isRead, onDisk⟩
    refine ⟨Nat.lt_succ_of_lt inMemory, ?_⟩
    obtain ⟨entries, isFile⟩ := tracks.file_eq
    dsimp only [Journal.contents] at isRead ⊢
    rw [isFile, RecordFile.readRecovering_fileOf, Except.ok.injEq] at isRead
    subst isRead
    rw [isFile]
    refine ⟨_, readRecovering_written entries entry, ?_⟩
    rw [nextSeqOf_append]
    exact lt_max_of_lt_left onDisk

/-- An unconsumed message was unconsumed before the record, or it is the one that
the record received. -/
theorem Index.apply_unconsumed (unconsumed : (index.apply runtime entry).Unconsumed record) :
    index.Unconsumed record ∨ entry.state = .receivedPeer ∧
      entry.peerEndpointId = some record.sender ∧
      record = Index.receivedRecord runtime entry record.sender := by
  obtain ⟨found, notConsumed⟩ := unconsumed
  rw [Index.find?_apply_inbound] at found
  split at found
  next named =>
    unfold Index.inboundAfter at found
    split at found
    next isReceived =>
      rw [Option.some.injEq] at found
      exact .inr ⟨isReceived, named.1, found.symm⟩
    · rw [Option.some.injEq] at found
      rw [← found] at notConsumed
      cases notConsumed
    · exact .inl ⟨found, notConsumed⟩
  · exact .inl ⟨found, notConsumed⟩

/-- What a compaction keeps unconsumed was so before. -/
theorem Index.Unconsumed.of_retain (unconsumed : (index.retain limits now).Unconsumed record) :
    index.Unconsumed record := by
  obtain ⟨found, notConsumed⟩ := unconsumed
  rw [Index.find?_retain_inbound, Option.filter_eq_some_iff] at found
  exact ⟨found.1, notConsumed⟩

/-- What the file shows as unconsumed is so in the index it covers. -/
theorem Index.Unconsumed.of_covers {disk base : Index Addr}
    (covers : Index.Covers limits now disk base) (unconsumed : disk.Unconsumed record) :
    base.Unconsumed record := by
  obtain ⟨found, notConsumed⟩ := unconsumed
  rcases covers.inbound record.key with same | ⟨-, stale, isStale, dropped⟩
  · exact ⟨same ▸ found, notConsumed⟩
  · rw [found, Option.some.injEq] at isStale
    subst isStale
    unfold Index.keepsInbound at dropped
    rw [notConsumed] at dropped
    cases dropped

/-- The number of a record is taken right before it is appended. -/
theorem Appends.seq_eq
    (appends : Appends runtime io { journal with nextSeq := journal.nextSeq + 1 } operation entry) :
    entry.seq = journal.nextSeq := by
  have numbered : entry.seq + 1 = journal.nextSeq + 1 := by
    cases appends <;> assumption
  exact Nat.succ.inj numbered

/-- Every unconsumed message but the seen ones has a number above `top`, and so
will every later one. -/
structure Cursor (runtime : JournalRuntime Addr) (top : Nat) (seen : InboundRecord → Prop)
    (contents : Contents Addr) : Prop where
  above : contents.Above runtime top
  later : ∀ record, contents.index.Unconsumed record → seen record ∨ top < record.seq
  pending : ∀ entry ∈ contents.pending, entry.state = .receivedPeer → top < entry.seq

variable {seen : InboundRecord → Prop}

theorem Cursor.keeps : Keeps runtime limits now (Cursor runtime top seen) where
  drop := fun journal pending tracks cursor =>
    ⟨Contents.Above.keeps.drop journal pending tracks cursor.above,
      fun record unconsumed => cursor.later record unconsumed.of_retain, cursor.pending⟩
  rewrite := fun journal pending tracks cursor =>
    ⟨Contents.Above.keeps.rewrite journal pending tracks cursor.above, cursor.later,
      nofun⟩
  reopen := by
    intro journal pending found base tracks cursor isFound isBase covers
    refine ⟨Contents.Above.keeps.reopen journal pending found base tracks cursor.above isFound
      isBase covers, ?_, nofun⟩
    intro record unconsumed
    have onBase := Index.Unconsumed.of_covers covers unconsumed
    rcases isBase with rfl | ⟨entry, isPending, rfl⟩
    · exact cursor.later record onBase
    · rcases Index.apply_unconsumed onBase with before | ⟨isReceived, -, isRecord⟩
      · exact cursor.later record before
      · right
        rw [isRecord]
        exact cursor.pending entry isPending isReceived

theorem Cursor.serves : Serves runtime limits io operation (Cursor runtime top seen) :=
  have serves : Serves runtime limits io operation (Contents.Above runtime top) :=
    Contents.Above.serves
  { toKeeps := Cursor.keeps
    touch := fun journal pending messageId record changed tracks found memoryOnly cursor =>
      ⟨serves.touch journal pending messageId record changed tracks found memoryOnly cursor.above,
        cursor.later, cursor.pending⟩
    number := fun journal pending cursor =>
      ⟨serves.number journal pending cursor.above, cursor.later, cursor.pending⟩
    damage := by
      intro journal entry left tracks appends cursor
      refine ⟨serves.damage journal entry left tracks appends cursor.above,
        cursor.later, fun other isPending _ => ?_⟩
      cases isPending
      rw [appends.seq_eq]
      exact cursor.above.1
    write := by
      intro journal entry tracks appends cursor
      refine ⟨serves.write journal entry tracks appends cursor.above, ?_,
        nofun⟩
      intro record unconsumed
      rcases Index.apply_unconsumed unconsumed with before | ⟨-, -, isRecord⟩
      · exact cursor.later record before
      · right
        rw [isRecord]
        exact cursor.above.1.trans_eq appends.seq_eq.symm }

/-- The numbers of the inbox differ, and the next one is above them all. -/
structure Numbered (runtime : JournalRuntime Addr) (contents : Contents Addr) : Prop where
  above : ∀ record, contents.index.Unconsumed record → contents.Above runtime record.seq
  distinct : contents.index.DistinctSeqs
  pending : ∀ entry ∈ contents.pending, entry.state = .receivedPeer →
    ∀ record, contents.index.Unconsumed record → record.seq < entry.seq

/-- An applied record that is above all numbers keeps them distinct. -/
theorem Index.DistinctSeqs.apply (distinct : index.DistinctSeqs)
    (above : entry.state = .receivedPeer → ∀ record, index.Unconsumed record →
      record.seq < entry.seq) : (index.apply runtime entry).DistinctSeqs := by
  intro first second isFirst isSecond same
  rcases Index.apply_unconsumed isFirst with firstBefore | ⟨isReceived, firstSender, firstNew⟩
  · rcases Index.apply_unconsumed isSecond with secondBefore | ⟨isReceived, -, secondNew⟩
    · exact distinct first second firstBefore secondBefore same
    · have below := above isReceived first firstBefore
      rw [same, secondNew] at below
      exact absurd below (Nat.lt_irrefl _)
  · rcases Index.apply_unconsumed isSecond with secondBefore | ⟨-, secondSender, secondNew⟩
    · have below := above isReceived second secondBefore
      rw [← same, firstNew] at below
      exact absurd below (Nat.lt_irrefl _)
    · rw [firstSender, Option.some.injEq] at secondSender
      rw [firstNew, secondNew, secondSender]

/-- The unconsumed messages of a replay have numbers below the next one. -/
theorem Index.seq_lt_of_replay (unconsumed : (Index.replay runtime entries).Unconsumed record) :
    record.seq < nextSeqOf entries := by
  obtain ⟨entry, member, -, -, -, isRecord⟩ := Index.replay_received unconsumed.1 unconsumed.2
  rw [← isRecord]
  exact seq_lt_nextSeqOf member

theorem Numbered.fresh : Numbered runtime ((Journal.fresh limits).contents none) where
  above := fun _ unconsumed => (nomatch unconsumed.1)
  distinct := fun _ _ unconsumed _ _ => (nomatch unconsumed.1)
  pending := nofun

theorem Numbered.keeps : Keeps runtime limits now (@Numbered Addr runtime) where
  drop := fun journal pending tracks numbered =>
    ⟨fun record unconsumed => Contents.Above.keeps.drop journal pending tracks
        (numbered.above record unconsumed.of_retain),
      fun first second isFirst isSecond =>
        numbered.distinct first second isFirst.of_retain isSecond.of_retain,
      fun entry isPending isReceived record unconsumed =>
        numbered.pending entry isPending isReceived record unconsumed.of_retain⟩
  rewrite := fun journal pending tracks numbered =>
    ⟨fun record unconsumed => Contents.Above.keeps.rewrite journal pending tracks
        (numbered.above record unconsumed),
      numbered.distinct, nofun⟩
  reopen := by
    intro journal pending found base tracks numbered _ isBase covers
    refine ⟨?_, ?_, nofun⟩
    · intro record unconsumed
      have below := Index.seq_lt_of_replay unconsumed
      exact ⟨below, _, RecordFile.readRecovering_fileOf _, below⟩
    · intro first second isFirst isSecond
      have distinct : base.DistinctSeqs := by
        rcases isBase with rfl | ⟨entry, isPending, rfl⟩
        · exact numbered.distinct
        · exact numbered.distinct.apply (numbered.pending entry isPending)
      exact distinct first second (.of_covers covers isFirst) (.of_covers covers isSecond)

theorem Numbered.serves : Serves runtime limits io operation (Numbered runtime) :=
  have serves : ∀ top, Serves runtime limits io operation (Contents.Above runtime top) :=
    fun _ => Contents.Above.serves
  { toKeeps := Numbered.keeps
    touch := fun journal pending messageId record changed tracks found memoryOnly numbered =>
      ⟨fun other unconsumed => (serves _).touch journal pending messageId record changed tracks
          found memoryOnly (numbered.above other unconsumed),
        numbered.distinct, numbered.pending⟩
    number := fun journal pending numbered =>
      ⟨fun other unconsumed => (serves _).number journal pending (numbered.above other unconsumed),
        numbered.distinct, numbered.pending⟩
    damage := by
      intro journal entry left tracks appends numbered
      refine ⟨fun record unconsumed => (serves _).damage journal entry left tracks appends
        (numbered.above record unconsumed), numbered.distinct, ?_⟩
      intro other isPending _ record unconsumed
      cases isPending
      rw [appends.seq_eq]
      exact (numbered.above record unconsumed).1
    write := by
      intro journal entry tracks appends numbered
      have below : ∀ record, journal.index.Unconsumed record → record.seq < entry.seq := by
        intro record unconsumed
        rw [appends.seq_eq]
        exact (numbered.above record unconsumed).1
      refine ⟨?_, numbered.distinct.apply fun _ => below, nofun⟩
      intro record unconsumed
      rcases Index.apply_unconsumed unconsumed with before | ⟨-, -, isRecord⟩
      · exact (serves _).write journal entry tracks appends (numbered.above record before)
      · rw [isRecord]
        obtain ⟨entries, isFile⟩ := tracks.file_eq
        refine ⟨appends.seq_eq.trans_lt (Nat.lt_succ_self _), _,
          by rw [isFile]; exact readRecovering_written entries entry, ?_⟩
        rw [nextSeqOf_append]
        exact lt_max_of_lt_right (Nat.lt_succ_self _) }

/-- In every reachable state the numbers of the inbox are in order. -/
theorem Life.numbered_run [DecidableEq Addr] (start : Nat) (labels : List (LifeLabel Addr)) :
    ((lifeMachine runtime limits start).run labels).Holds runtime limits (Numbered runtime) :=
  Life.holds_run start Numbered.fresh (fun _ _ => Numbered.serves) (fun _ => Numbered.keeps) labels

end

section

variable {Addr : Type}

/-- A client that reads the inbox page by page: the last number it received, what
it received, and how many pages it was answered. -/
structure InboxClient (Addr : Type) where
  life : Life Addr
  afterSeq : Nat
  received : List InboxItem
  pages : Nat

/-- Something happens to the state directory, or the client asks for a page. -/
inductive ClientLabel (Addr : Type) where
  | life (label : LifeLabel Addr)
  | page (limit byteBudget : Nat)

variable (runtime : JournalRuntime Addr) (limits : JournalLimits) (itemBytes : InboxItem → Nat)
  [DecidableEq Addr]

/-- A page goes on after the last number received; only a running engine answers. -/
def clientStep (client : InboxClient Addr) : ClientLabel Addr → InboxClient Addr
  | .life label => { client with life := lifeStep runtime limits client.life label }
  | .page limit byteBudget =>
      match client.life.standing with
      | .stopped _ => client
      | .running journal =>
          let page := (journal.inboxPage itemBytes client.afterSeq limit byteBudget).1
          { client with
            afterSeq := (page.getLast?.map InboxItem.seq).getD client.afterSeq
            received := client.received ++ page
            pages := client.pages + 1 }

/-- A client from the beginning of a state directory. -/
def clientMachine (start : Nat) : Machine (InboxClient Addr) (ClientLabel Addr) where
  initial := ⟨⟨.stopped none, start⟩, 0, [], 0⟩
  step := clientStep runtime limits itemBytes

/-- The client has the record as an item. -/
def InboxClient.Has (client : InboxClient Addr) (record : InboundRecord) : Prop :=
  ∀ payload, record.payload = some payload → record.itemWith payload ∈ client.received

end

section

variable {Addr : Type} {runtime : JournalRuntime Addr} {limits : JournalLimits}
  {itemBytes : InboxItem → Nat} {client : InboxClient Addr}

/-- The client has all messages up to its cursor, in order. -/
structure InboxClient.Sound (runtime : JournalRuntime Addr) (limits : JournalLimits)
    (client : InboxClient Addr) : Prop where
  numbered : client.life.Holds runtime limits fun contents =>
    Numbered runtime contents ∧ Cursor runtime client.afterSeq client.Has contents
  ordered : client.received.Pairwise fun first second => first.seq < second.seq
  behind : ∀ item ∈ client.received, item.seq ≤ client.afterSeq

variable {first second : Contents Addr → Prop} {item : InboxItem} {start : Nat}

/-- Two properties that are kept are kept together. -/
theorem Keeps.and {now : Nat} (keepsFirst : Keeps runtime limits now first)
    (keepsSecond : Keeps runtime limits now second) :
    Keeps runtime limits now fun contents => first contents ∧ second contents where
  drop := fun journal pending tracks held =>
    ⟨keepsFirst.drop journal pending tracks held.1, keepsSecond.drop journal pending tracks held.2⟩
  rewrite := fun journal pending tracks held =>
    ⟨keepsFirst.rewrite journal pending tracks held.1,
      keepsSecond.rewrite journal pending tracks held.2⟩
  reopen := fun journal pending found base tracks held isFound isBase covers =>
    ⟨keepsFirst.reopen journal pending found base tracks held.1 isFound isBase covers,
      keepsSecond.reopen journal pending found base tracks held.2 isFound isBase covers⟩

theorem Serves.and {io : Io} {operation : Operation Addr}
    (servesFirst : Serves runtime limits io operation first)
    (servesSecond : Serves runtime limits io operation second) :
    Serves runtime limits io operation fun contents => first contents ∧ second contents where
  toKeeps := servesFirst.toKeeps.and servesSecond.toKeeps
  touch := fun journal pending messageId record changed tracks found memoryOnly held =>
    ⟨servesFirst.touch journal pending messageId record changed tracks found memoryOnly held.1,
      servesSecond.touch journal pending messageId record changed tracks found memoryOnly held.2⟩
  number := fun journal pending held =>
    ⟨servesFirst.number journal pending held.1, servesSecond.number journal pending held.2⟩
  damage := fun journal entry left tracks appends held =>
    ⟨servesFirst.damage journal entry left tracks appends held.1,
      servesSecond.damage journal entry left tracks appends held.2⟩
  write := fun journal entry tracks appends held =>
    ⟨servesFirst.write journal entry tracks appends held.1,
      servesSecond.write journal entry tracks appends held.2⟩

variable {journal : Journal Addr}

section

variable (sound : client.Sound runtime limits) (isRunning : client.life.standing = .running journal)
include sound isRunning

/-- The page of a sound client. -/
theorem InboxClient.Sound.isPage (limit byteBudget : Nat) :
    IsPage journal client.afterSeq (journal.inboxPage itemBytes client.afterSeq limit byteBudget).1
      (journal.inboxPage itemBytes client.afterSeq limit byteBudget).2 := by
  obtain ⟨shown, pending, isShown, -, numbered, -⟩ := sound.numbered
  rw [isRunning] at isShown
  subst isShown
  exact inboxPage_isPage numbered.distinct

/-- A page keeps the client sound. -/
theorem InboxClient.Sound.page {page : List InboxItem} {more : Bool}
    (isPage : IsPage journal client.afterSeq page more) (pages : Nat) :
    InboxClient.Sound runtime limits
      { client with
        afterSeq := (page.getLast?.map InboxItem.seq).getD client.afterSeq
        received := client.received ++ page
        pages := pages } := by
  obtain ⟨shown, pending, isShown, tracks, numbered, cursor⟩ := sound.numbered
  cases isLast : page.getLast? with
  | none =>
      rw [List.getLast?_eq_none_iff] at isLast
      subst isLast
      rw [List.append_nil]
      exact ⟨⟨shown, pending, isShown, tracks, numbered, cursor⟩, sound.ordered, sound.behind⟩
  | some last =>
      have lastThere := List.mem_of_getLast? isLast
      obtain ⟨lastInInbox, lastAfter⟩ := isPage.member last lastThere
      have upToLast : ∀ item ∈ page, item.seq ≤ last.seq := by
        intro item member
        obtain ⟨front, isFront⟩ := List.getLast?_eq_some_iff.mp isLast
        have inOrder := isPage.ordered
        rw [isFront] at member inOrder
        rcases List.mem_append.mp member with before | isLastItem
        · exact ((List.pairwise_append.mp inOrder).2.2 item before last (by simp)).le
        · rw [List.mem_singleton.mp isLastItem]
      have sameIndex : shown.index = journal.index := by
        rw [isRunning] at isShown
        rw [isShown]
      obtain ⟨lastRecord, lastPayload, isUnconsumed, -, isLastItem⟩ :=
        mem_inboxItems.mp lastInInbox
      have lastSeq : lastRecord.seq = last.seq := by rw [← isLastItem]; rfl
      rw [← sameIndex] at isUnconsumed
      refine ⟨⟨shown, pending, isShown, tracks, numbered, ?_, ?_, ?_⟩, ?_, ?_⟩
      · change (shown.contents pending).Above runtime last.seq
        rw [← lastSeq]
        exact numbered.above lastRecord isUnconsumed
      · intro record unconsumed
        change _ ∨ last.seq < record.seq
        by_cases isBelow : last.seq < record.seq
        · exact .inr isBelow
        · refine .inl fun payload isPayload => List.mem_append.mpr ?_
          rcases cursor.later record unconsumed with has | isAfter
          · exact .inl (has payload isPayload)
          · right
            have inInbox : record.itemWith payload ∈ journal.inboxItems := by
              rw [mem_inboxItems, ← sameIndex]
              exact ⟨record, payload, unconsumed, isPayload, rfl⟩
            rcases isPage.complete _ inInbox isAfter with onPage | afterPage
            · exact onPage
            · exact absurd (afterPage last lastThere) isBelow
      · intro entry isPending isReceived
        change last.seq < entry.seq
        rw [← lastSeq]
        exact numbered.pending entry isPending isReceived lastRecord isUnconsumed
      · rw [List.pairwise_append]
        refine ⟨sound.ordered, isPage.ordered, fun first isFirst second isSecond => ?_⟩
        exact Nat.lt_of_le_of_lt (sound.behind first isFirst) (isPage.member second isSecond).2
      · intro item member
        change item.seq ≤ last.seq
        rcases List.mem_append.mp member with before | onPage
        · exact (sound.behind item before).trans lastAfter.le
        · exact upToLast item onPage

end

variable [DecidableEq Addr]

theorem InboxClient.Sound.step (sound : client.Sound runtime limits) (label : ClientLabel Addr) :
    (clientStep runtime limits itemBytes client label).Sound runtime limits := by
  cases label with
  | life label =>
      refine ⟨sound.numbered.step ?_ ?_, sound.ordered, sound.behind⟩
      · exact fun _ _ _ _ _ => Numbered.serves.and Cursor.serves
      · exact fun _ _ _ _ _ => Numbered.keeps.and Cursor.keeps
  | page limit byteBudget =>
      rw [clientStep]
      split
      · exact sound
      next journal isRunning =>
        exact sound.page isRunning (sound.isPage isRunning limit byteBudget) _

/-- Every reachable client is sound. -/
theorem InboxClient.sound_run (start : Nat) (labels : List (ClientLabel Addr)) :
    ((clientMachine runtime limits itemBytes start).run labels).Sound runtime limits := by
  have initially : (clientMachine runtime limits itemBytes start).initial.Sound runtime limits := by
    refine ⟨Life.Holds.initial ⟨Numbered.fresh, ?_⟩, List.Pairwise.nil, nofun⟩
    refine ⟨⟨Nat.one_pos, ⟨[], none⟩, rfl, Nat.one_pos⟩, ?_, nofun⟩
    exact fun record unconsumed => nomatch unconsumed.1
  have preserved : ∀ (client : InboxClient Addr) label, client.Sound runtime limits →
      ((clientMachine runtime limits itemBytes start).step client label).Sound runtime limits :=
    fun client label sound => sound.step label
  exact Machine.invariant_runFrom preserved initially labels

/-- The item is in the inbox whenever an engine runs. -/
def InboxItem.Stays (item : InboxItem) (client : InboxClient Addr) (_ : ClientLabel Addr) : Prop :=
  ∀ journal, client.life.standing = .running journal → item ∈ journal.inboxItems

/-- The item was received, or each page since `base` brought the cursor closer. -/
def InboxClient.Approaches (base : InboxClient Addr) (item : InboxItem)
    (client : InboxClient Addr) : Prop :=
  item ∈ client.received ∨
    client.afterSeq < item.seq ∧ base.afterSeq + client.pages ≤ client.afterSeq + base.pages

omit [DecidableEq Addr] in
/-- An item of the inbox is received already, or its number is ahead. -/
theorem InboxClient.Sound.received_or_ahead (sound : client.Sound runtime limits)
    (isRunning : client.life.standing = .running journal) (member : item ∈ journal.inboxItems) :
    item ∈ client.received ∨ client.afterSeq < item.seq := by
  obtain ⟨shown, pending, isShown, -, -, cursor⟩ := sound.numbered
  rw [isRunning] at isShown
  subst isShown
  obtain ⟨record, payload, unconsumed, isPayload, rfl⟩ := mem_inboxItems.mp member
  rcases cursor.later record unconsumed with has | isAhead
  · exact .inl (has payload isPayload)
  · exact .inr isAhead

/-- A page receives the item or brings the cursor closer to it. -/
theorem InboxClient.Approaches.step {base : InboxClient Addr} {item : InboxItem}
    (sound : client.Sound runtime limits) (label : ClientLabel Addr) (stays : item.Stays client label)
    (approaches : base.Approaches item client) :
    base.Approaches item (clientStep runtime limits itemBytes client label) := by
  cases label with
  | life label => exact approaches
  | page limit byteBudget =>
      rw [clientStep]
      split
      · exact approaches
      next journal isRunning =>
        have isPage : IsPage journal client.afterSeq
            (journal.inboxPage itemBytes client.afterSeq limit byteBudget).1 _ :=
          sound.isPage isRunning limit byteBudget
        have member := stays journal isRunning
        generalize journal.inboxPage itemBytes client.afterSeq limit byteBudget = answer at isPage ⊢
        rcases approaches with received | ⟨isAhead, closer⟩
        · exact .inl (List.mem_append_left _ received)
        · rcases isPage.complete item member isAhead with onPage | afterPage
          · exact .inl (List.mem_append_right _ onPage)
          · right
            obtain ⟨last, isLast⟩ := Option.isSome_iff_exists.mp
              (List.getLast?_isSome.mpr (isPage.notEmpty (.inl ⟨item, member, isAhead⟩)))
            have lastThere := List.mem_of_getLast? isLast
            have lastAfter := (isPage.member last lastThere).2
            dsimp only
            rw [isLast, Option.map_some, Option.getD_some]
            exact ⟨afterPage last lastThere, by omega⟩

/-- An item that stays in the inbox is received after at most as many pages as
its number is ahead of the cursor. -/
theorem InboxClient.receives (labels rest : List (ClientLabel Addr)) :
    let machine := clientMachine runtime limits itemBytes start
    let client := machine.run labels
    client.life.standing = .running journal → item ∈ journal.inboxItems →
    machine.Along item.Stays client rest →
    client.pages + (item.seq - client.afterSeq) ≤ (machine.runFrom client rest).pages →
    item ∈ (machine.runFrom client rest).received := by
  intro machine client isRunning member stays enough
  have sound : client.Sound runtime limits := InboxClient.sound_run start labels
  have initially : client.Approaches item client := by
    rcases sound.received_or_ahead isRunning member with received | isAhead
    · exact .inl received
    · exact .inr ⟨isAhead, le_rfl⟩
  have preserved : ∀ (state : InboxClient Addr) label, item.Stays state label →
      state.Sound runtime limits ∧ client.Approaches item state →
      (machine.step state label).Sound runtime limits ∧
        client.Approaches item (machine.step state label) :=
    fun state label here held => ⟨held.1.step label, held.2.step held.1 label here⟩
  obtain ⟨-, received | ⟨isAhead, closer⟩⟩ := stays.invariant preserved ⟨sound, initially⟩
  · exact received
  · exfalso
    omega

/-- Every inbox item has a larger number than the items that were there before
it. -/
theorem Life.inbox_increases (first rest : List (LifeLabel Addr)) {journal later : Journal Addr}
    {item other : InboxItem} : let machine := lifeMachine runtime limits start
    (machine.run first).standing = .running journal →
    (machine.run (first ++ rest)).standing = .running later →
    item ∈ journal.inboxItems → other ∈ later.inboxItems →
    other ∈ journal.inboxItems ∨ item.seq < other.seq := by
  intro machine isRunning isLater member otherMember
  have numberedFirst : (machine.run first).Holds runtime limits (Numbered runtime) :=
    Life.numbered_run start first
  have cursorFirst : (machine.run first).Holds runtime limits
      (Cursor runtime item.seq fun record => journal.index.Unconsumed record) := by
    obtain ⟨shown, pending, isShown, tracks, numbered⟩ := numberedFirst
    refine ⟨shown, pending, isShown, tracks, ?_⟩
    rw [isRunning] at isShown
    subst isShown
    obtain ⟨record, payload, unconsumed, -, rfl⟩ := mem_inboxItems.mp member
    exact ⟨numbered.above record unconsumed, fun _ => .inl, fun entry isPending isReceived =>
      numbered.pending entry isPending isReceived record unconsumed⟩
  have preserved : ∀ (life : Life Addr) label, life.Holds runtime limits
        (Cursor runtime item.seq fun record => journal.index.Unconsumed record) →
      (machine.step life label).Holds runtime limits
        (Cursor runtime item.seq fun record => journal.index.Unconsumed record) :=
    fun life label held => held.step (fun _ _ _ _ _ => Cursor.serves) fun _ _ _ _ _ => Cursor.keeps
  obtain ⟨shown, pending, isShown, -, cursor⟩ :=
    Machine.invariant_runFrom preserved cursorFirst rest
  rw [Machine.run, Machine.runFrom_append] at isLater
  change (machine.runFrom (machine.run first) rest).standing = .running later at isLater
  rw [isLater] at isShown
  subst isShown
  obtain ⟨record, payload, unconsumed, isPayload, rfl⟩ := mem_inboxItems.mp otherMember
  rcases cursor.later record unconsumed with before | isAbove
  · exact .inl (mem_inboxItems.mpr ⟨record, payload, before, isPayload, rfl⟩)
  · exact .inr isAbove

/-- Inbox numbers increase over the life of a state directory. A client that goes
on after the last number it received has each item once and in order, misses none
that stays, and is answered with an item whenever there are more. -/
theorem inbox_cursor_complete (runtime : JournalRuntime Addr) (limits : JournalLimits)
    (itemBytes : InboxItem → Nat) (start : Nat) :
    (∀ (first rest : List (LifeLabel Addr)) journal later item other,
      ((lifeMachine runtime limits start).run first).standing = .running journal →
      ((lifeMachine runtime limits start).run (first ++ rest)).standing = .running later →
      item ∈ journal.inboxItems → other ∈ later.inboxItems →
      other ∈ journal.inboxItems ∨ item.seq < other.seq) ∧
    ∀ labels : List (ClientLabel Addr),
      let machine := clientMachine runtime limits itemBytes start
      let client := machine.run labels
      (client.received.Pairwise fun first second => first.seq < second.seq) ∧
      (∀ journal, client.life.standing = .running journal →
        (∀ limit byteBudget, (journal.inboxPage itemBytes client.afterSeq limit byteBudget).2 = true →
          (journal.inboxPage itemBytes client.afterSeq limit byteBudget).1 ≠ []) ∧
        (∀ item ∈ journal.inboxItems, item ∈ client.received ∨ client.afterSeq < item.seq) ∧
        ∀ item ∈ journal.inboxItems, ∀ rest, machine.Along item.Stays client rest →
          client.pages + (item.seq - client.afterSeq) ≤ (machine.runFrom client rest).pages →
          item ∈ (machine.runFrom client rest).received) := by
  refine ⟨fun first rest _ _ _ _ => Life.inbox_increases first rest, ?_⟩
  intro labels machine client
  have sound : client.Sound runtime limits := InboxClient.sound_run start labels
  refine ⟨sound.ordered, fun journal isRunning => ⟨?_, ?_, ?_⟩⟩
  · intro limit byteBudget hasMore
    exact (sound.isPage isRunning limit byteBudget).notEmpty (.inr hasMore)
  · exact fun item member => sound.received_or_ahead isRunning member
  · exact fun item member rest stays enough =>
      InboxClient.receives labels rest isRunning member stays enough

end

end Triangle.PeerEngine
