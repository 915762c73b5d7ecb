import Mathlib.Data.List.Perm.Subperm
import Triangle.Std.Paging

/-!
# Reading while the rows change

A reader follows the cursors of a query whose pages may be cut anywhere and whose
rows differ from page to page. A page is a beginning of the rows ahead of the
cursor; it hands on the key of its last row, or nothing when it holds them all.
What the reader gets is in order, and a row that is there for every page is read.
-/

namespace Triangle.Std.Paging

variable {α κ : Type} [LinearOrder κ] (key : α → κ)

/-- The rows after a cursor, in the order of the key. -/
def ahead (rows : List α) (cursor : Option κ) : List α :=
  (rowsAfter key rows cursor).mergeSort fun first second => key first ≤ key second

/-- A page of the rows ahead and the cursor it hands on. -/
structure IsPage (rows page : List α) (next : Option κ) : Prop where
  isPrefix : page <+: rows
  progress : rows ≠ [] → page ≠ []
  complete : next = none → page = rows
  position : ∀ cursor ∈ next, page.getLast?.map key = some cursor

/-- The pages that a reader gets from the rows at its turns; the flag is whether the
last page handed on no cursor. -/
inductive Reading : Option κ → List (List α) → List (List α) → Bool → Prop
  | paused (cursor : Option κ) : Reading cursor [] [] false
  | finished {cursor : Option κ} {rows page : List α} {unread : List (List α)}
      (isPage : IsPage key (ahead key rows cursor) page none) :
      Reading cursor (rows :: unread) [page] true
  | turned {cursor : Option κ} {rows page : List α} {next : κ} {unread pages : List (List α)}
      {whole : Bool} (isPage : IsPage key (ahead key rows cursor) page (some next))
      (rest : Reading (some next) unread pages whole) :
      Reading cursor (rows :: unread) (page :: pages) whole

variable {key}

variable {rows : List α}

theorem mem_ahead {cursor : Option κ} {row : α} :
    row ∈ ahead key rows cursor ↔ row ∈ rows ∧ ∀ start, cursor = some start → start < key row := by
  rw [ahead, List.mem_mergeSort]
  exact mem_rowsAfter

theorem ahead_perm (rows : List α) (cursor : Option κ) :
    (ahead key rows cursor).Perm (rowsAfter key rows cursor) :=
  List.mergeSort_perm _ _

theorem ahead_nodup (distinct : (rows.map key).Nodup) (cursor : Option κ) :
    ((ahead key rows cursor).map key).Nodup := by
  refine ((ahead_perm rows cursor).map key).nodup_iff.mpr ?_
  exact distinct.sublist (List.filter_sublist.map key)

/-- Rows with distinct keys come in increasing order. -/
theorem ahead_pairwise (distinct : (rows.map key).Nodup) (cursor : Option κ) :
    (ahead key rows cursor).Pairwise fun first second => key first < key second := by
  have inOrder : (ahead key rows cursor).Pairwise fun first second => key first ≤ key second := by
    refine (List.pairwise_mergeSort ?_ ?_ _).imp of_decide_eq_true
    · intro first second third below above
      exact decide_eq_true ((of_decide_eq_true below).trans (of_decide_eq_true above))
    · intro first second
      rw [Bool.or_eq_true, decide_eq_true_eq, decide_eq_true_eq]
      exact le_total _ _
  have apart := List.pairwise_map.mp (ahead_nodup distinct cursor)
  exact (inOrder.and apart).imp fun both => lt_of_le_of_ne both.1 both.2

section

variable {cursor : Option κ} {lists pages : List (List α)} {whole : Bool}

variable {rows page : List α} {next : Option κ} {row : α}

theorem IsPage.mem (isPage : IsPage key (ahead key rows cursor) page next) (member : row ∈ page) :
    row ∈ rows ∧ ∀ start, cursor = some start → start < key row :=
  mem_ahead.mp (isPage.isPrefix.subset member)

/-- The cursor is the key of a row of the page, and no other row of the page is after it. -/
theorem IsPage.last {next : κ} (distinct : (rows.map key).Nodup)
    (isPage : IsPage key (ahead key rows cursor) page (some next)) :
    (∃ row ∈ page, key row = next) ∧ ∀ row ∈ page, key row ≤ next := by
  have isLast := isPage.position next rfl
  rw [Option.map_eq_some_iff] at isLast
  obtain ⟨last, isLast, rfl⟩ := isLast
  refine ⟨⟨last, List.mem_of_getLast? isLast, rfl⟩, ?_⟩
  obtain ⟨before, rfl⟩ := List.getLast?_eq_some_iff.mp isLast
  have inOrder := (ahead_pairwise distinct cursor).sublist isPage.isPrefix.sublist
  intro row member
  rcases List.mem_append.mp member with earlier | isRow
  · exact le_of_lt ((List.pairwise_append.mp inOrder).2.2 row earlier last (List.mem_singleton_self _))
  · rw [List.mem_singleton.mp isRow]

/-- A row ahead of the cursor is on the page or ahead of the next one. -/
theorem IsPage.split (distinct : (rows.map key).Nodup)
    (isPage : IsPage key (ahead key rows cursor) page next) (member : row ∈ ahead key rows cursor) :
    row ∈ page ∨ ∃ start, next = some start ∧ start < key row := by
  cases next with
  | none =>
      rw [isPage.complete rfl]
      exact .inl member
  | some start =>
      obtain ⟨⟨last, onPage, rfl⟩, -⟩ := isPage.last distinct
      have inOrder := ahead_pairwise distinct cursor
      obtain ⟨others, isAhead⟩ := isPage.isPrefix
      rw [← isAhead] at member inOrder
      rcases List.mem_append.mp member with here | later
      · exact .inl here
      · exact .inr ⟨_, rfl, (List.pairwise_append.mp inOrder).2.2 last onPage row later⟩

section

variable (reading : Reading key cursor lists pages whole)
include reading

/-- What is read was there at one of the turns. -/
theorem Reading.mem (member : row ∈ pages.flatten) :
    ∃ rows ∈ lists.take pages.length, row ∈ rows := by
  induction reading with
  | paused cursor => exact absurd member List.not_mem_nil
  | finished isPage =>
      rw [List.flatten_cons, List.flatten_nil, List.append_nil] at member
      exact ⟨_, List.mem_cons_self, (isPage.mem member).1⟩
  | turned isPage rest ih =>
      rw [List.flatten_cons, List.mem_append] at member
      rw [List.length_cons, List.take_succ_cons]
      rcases member with here | later
      · exact ⟨_, List.mem_cons_self, (isPage.mem here).1⟩
      · obtain ⟨rows, isTurn, inRows⟩ := ih later
        exact ⟨rows, List.mem_cons_of_mem _ isTurn, inRows⟩

section

variable (distinct : ∀ rows ∈ lists, (rows.map key).Nodup)
include distinct

/-- What is read is after the cursor. -/
theorem Reading.beyond (member : row ∈ pages.flatten) :
    ∀ start, cursor = some start → start < key row := by
  induction reading with
  | paused cursor => exact absurd member List.not_mem_nil
  | finished isPage =>
      rw [List.flatten_cons, List.flatten_nil, List.append_nil] at member
      exact (isPage.mem member).2
  | turned isPage rest ih =>
      obtain ⟨firstDistinct, othersDistinct⟩ := List.forall_mem_cons.mp distinct
      rw [List.flatten_cons, List.mem_append] at member
      rcases member with here | later
      · exact (isPage.mem here).2
      · -- The next cursor is a row of this page, which is after the cursor.
        obtain ⟨⟨last, onPage, isLast⟩, -⟩ := isPage.last firstDistinct
        intro start isStart
        have lastBeyond := (isPage.mem onPage).2 start isStart
        rw [isLast] at lastBeyond
        exact lastBeyond.trans (ih othersDistinct later _ rfl)

/-- The reader gets rows in increasing order, so none of them twice. -/
theorem Reading.increasing : pages.flatten.Pairwise fun first second => key first < key second := by
  induction reading with
  | paused cursor => exact .nil
  | finished isPage =>
      rw [List.flatten_cons, List.flatten_nil, List.append_nil]
      exact (ahead_pairwise (List.forall_mem_cons.mp distinct).1 _).sublist isPage.isPrefix.sublist
  | turned isPage rest ih =>
      obtain ⟨firstDistinct, othersDistinct⟩ := List.forall_mem_cons.mp distinct
      rw [List.flatten_cons]
      refine List.pairwise_append.mpr ⟨?_, ih othersDistinct, ?_⟩
      · exact (ahead_pairwise firstDistinct _).sublist isPage.isPrefix.sublist
      · intro first here second later
        have upTo := (isPage.last firstDistinct).2 first here
        exact lt_of_le_of_lt upTo (rest.beyond othersDistinct later _ rfl)

end

/-- A key that is there at every turn of a whole reading is read. -/
theorem Reading.received (isWhole : whole = true) (distinct : ∀ rows ∈ lists, (rows.map key).Nodup)
    {wanted : κ} (isAhead : ∀ start, cursor = some start → start < wanted)
    (stays : ∀ rows ∈ lists.take pages.length, ∃ row ∈ rows, key row = wanted) :
    ∃ row ∈ pages.flatten, key row = wanted := by
  induction reading with
  | paused cursor => cases isWhole
  | finished isPage =>
      obtain ⟨row, inRows, rfl⟩ := stays _ List.mem_cons_self
      refine ⟨row, ?_, rfl⟩
      rw [List.flatten_cons, List.flatten_nil, List.append_nil, isPage.complete rfl]
      exact mem_ahead.mpr ⟨inRows, isAhead⟩
  | turned isPage rest ih =>
      obtain ⟨firstDistinct, othersDistinct⟩ := List.forall_mem_cons.mp distinct
      rw [List.length_cons, List.take_succ_cons] at stays
      obtain ⟨staysHere, staysLater⟩ := List.forall_mem_cons.mp stays
      obtain ⟨row, inRows, isWanted⟩ := staysHere
      have rowAhead := mem_ahead.mpr ⟨inRows, isWanted ▸ isAhead⟩
      rw [List.flatten_cons]
      rcases isPage.split firstDistinct rowAhead with here | ⟨start, isStart, beyond⟩
      · exact ⟨row, List.mem_append_left _ here, isWanted⟩
      · cases isStart
        obtain ⟨found, member, isFound⟩ := ih isWhole othersDistinct
          (fun start isStart => Option.some.inj isStart ▸ isWanted ▸ beyond) staysLater
        exact ⟨found, List.mem_append_right _ member, isFound⟩

end

/-- Behind a page fewer rows are ahead, if no key has come up. -/
theorem IsPage.fewer {rows later page : List α} {next : κ}
    (distinct : (rows.map key).Nodup) (laterDistinct : (later.map key).Nodup)
    (noNew : ∀ row ∈ later, ∃ other ∈ rows, key other = key row)
    (isPage : IsPage key (ahead key rows cursor) page (some next)) :
    (ahead key later (some next)).length < (ahead key rows cursor).length := by
  obtain ⟨⟨last, onPage, isLast⟩, -⟩ := isPage.last distinct
  have lastAhead := isPage.isPrefix.subset onPage
  have beyondLast : ∀ row ∈ ahead key later (some next), next < key row :=
    fun row member => (mem_ahead.mp member).2 next rfl
  have keysBehind : (next :: (ahead key later (some next)).map key) ⊆
      (ahead key rows cursor).map key := by
    refine List.cons_subset.mpr ⟨List.mem_map.mpr ⟨last, lastAhead, isLast⟩, ?_⟩
    intro entry member
    obtain ⟨row, rowAhead, rfl⟩ := List.mem_map.mp member
    obtain ⟨other, inRows, sameKey⟩ := noNew row (mem_ahead.mp rowAhead).1
    refine List.mem_map.mpr ⟨other, mem_ahead.mpr ⟨inRows, fun start isStart => ?_⟩, sameKey⟩
    rw [sameKey]
    have lastBeyond := (mem_ahead.mp lastAhead).2 start isStart
    rw [isLast] at lastBeyond
    exact lastBeyond.trans (beyondLast row rowAhead)
  have notAhead : next ∉ (ahead key later (some next)).map key := by
    intro member
    obtain ⟨row, rowAhead, same⟩ := List.mem_map.mp member
    exact absurd same (beyondLast row rowAhead).ne'
  have counted := ((ahead_nodup laterDistinct (some next)).cons notAhead).subperm keysBehind
  have lengths := counted.length_le
  rw [List.length_cons, List.length_map, List.length_map] at lengths
  exact lengths

end

end Triangle.Std.Paging
