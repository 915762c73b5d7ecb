import Mathlib.Data.List.Induction
import Mathlib.Data.List.Perm.Subperm
import Triangle.Semantics.Machine
import Triangle.Std.Table

/-!
# Sliding windows

A limiter admits at most `limit` rows of one key within any `window` of time.
It keeps a row as evidence of each admission, counts the evidence when it is
asked, and may drop evidence that has left the window.

The evidence is a table, so what has been dropped is gone: that it still bounds
every window (`admitted_inWindow_le`) rests on a clock that does not go back
and on drops that stay behind it.
-/

namespace Triangle.Std

open Triangle.Semantics

/-- What happens to the evidence: a row is admitted, or rows up to a time are
dropped at the time `now`. -/
inductive EvidenceEvent (Row : Type)
  | admission (row : Row)
  | drop (now upTo : Int)

/-- The rows that the events admit. -/
def admittedRows {Row : Type} (events : List (EvidenceEvent Row)) : List Row :=
  events.filterMap fun
    | .admission row => some row
    | .drop _ _ => none

/-- A time lies in the window that ends at `last`. -/
def inWindow (window last time : Int) : Bool :=
  last - window < time && time ≤ last

section

variable {Row Id Key : Type} [DecidableEq Id] [DecidableEq Key] {idOf : Row → Id}
variable (timeOf : Row → Int) (keyOf : Row → Key)

/-- The time at which an event happens. -/
def EvidenceEvent.time : EvidenceEvent Row → Int
  | .admission row => timeOf row
  | .drop now _ => now

/-- The evidence after an event. -/
def evidenceStep (evidence : Table idOf) : EvidenceEvent Row → Table idOf
  | .admission row => evidence.upsert row
  | .drop _ upTo => evidence.delete fun row => timeOf row ≤ upTo

/-- The machine of the evidence. -/
def evidenceMachine : Machine (Table idOf) (EvidenceEvent Row) where
  initial := .empty
  step := evidenceStep timeOf

/-- The evidence of a key that is newer than `cutoff`. -/
def newerThan (evidence : Table idOf) (key : Key) (cutoff : Int) : List Row :=
  evidence.select fun row => keyOf row = key && cutoff < timeOf row

/-- A limiter lets an event happen: an admission is new and below the limit, a
drop stays behind the window. -/
def LetsHappen (limit : Nat) (window : Int) (evidence : Table idOf) : EvidenceEvent Row → Prop
  | .admission row =>
      evidence.find? (idOf row) = none ∧
        (newerThan timeOf keyOf evidence (keyOf row) (timeOf row - window)).length < limit
  | .drop now upTo => upTo ≤ now - window

/-- No event is ahead of a later admission. -/
def InOrder (events : List (EvidenceEvent Row)) : Prop :=
  events.Pairwise fun earlier later =>
    ∀ row, later = .admission row → earlier.time timeOf ≤ timeOf row

variable {timeOf keyOf} {limit : Nat} {window now : Int} {evidence : Table idOf}
  {events : List (EvidenceEvent Row)}

theorem admittedRows_snoc_admission (row : Row) :
    admittedRows (events ++ [.admission row]) = admittedRows events ++ [row] := by
  simp [admittedRows]

theorem admittedRows_snoc_drop (instant upTo : Int) :
    admittedRows (events ++ [.drop instant upTo]) = admittedRows events := by
  simp [admittedRows]

section

variable
  (along : (evidenceMachine timeOf).Along (LetsHappen timeOf keyOf limit window) evidence events)
  (notAhead : ∀ event ∈ events, event.time timeOf ≤ now)
include along notAhead

/-- An admission that is still in the window is still in the evidence. -/
theorem find?_of_admitted {row : Row} (admitted : row ∈ admittedRows events)
    (isRecent : now - window < timeOf row) :
    ((evidenceMachine timeOf).runFrom evidence events).find? (idOf row) = some row := by
  induction events using List.reverseRecOn with
  | nil => cases admitted
  | append_singleton earlier event ih =>
      rw [Machine.along_append] at along
      have earlierNotAhead : ∀ event ∈ earlier, event.time timeOf ≤ now :=
        fun event member => notAhead event (List.mem_append_left _ member)
      rw [Machine.runFrom_append, Machine.runFrom_cons, Machine.runFrom_nil]
      cases event with
      | admission other =>
          obtain ⟨isFree, -⟩ := along.2.1
          change (Table.upsert _ other).find? _ = _
          rw [Table.find?_upsert]
          rw [admittedRows_snoc_admission, List.mem_append, List.mem_singleton] at admitted
          rcases admitted with before | rfl
          · have stored := ih along.1 earlierNotAhead before
            have otherId : idOf row ≠ idOf other := by
              intro same
              rw [same, isFree] at stored
              cases stored
            rw [if_neg otherId, stored]
          · rw [if_pos rfl]
      | drop instant upTo =>
          have behind : upTo ≤ instant - window := along.2.1
          have atNow : instant ≤ now := notAhead _ (List.mem_append_right _ (List.mem_singleton_self _))
          rw [admittedRows_snoc_drop] at admitted
          change (Table.delete _ _).find? _ = _
          rw [Table.find?_delete, ih along.1 earlierNotAhead admitted,
            Option.filter_some, if_pos]
          simp
          omega

/-- The admissions that are still in the window are distinct. -/
theorem admitted_nodup :
    ((admittedRows events).filter fun row => now - window < timeOf row).Nodup := by
  induction events using List.reverseRecOn with
  | nil => exact List.nodup_nil
  | append_singleton earlier event ih =>
      rw [Machine.along_append] at along
      have earlierNotAhead : ∀ event ∈ earlier, event.time timeOf ≤ now :=
        fun event member => notAhead event (List.mem_append_left _ member)
      have distinct := ih along.1 earlierNotAhead
      cases event with
      | admission row =>
          obtain ⟨isFree, -⟩ := along.2.1
          rw [admittedRows_snoc_admission, List.filter_append]
          refine distinct.append ((List.nodup_singleton row).filter _) ?_
          intro other member otherIsRow
          obtain rfl := List.mem_singleton.mp (List.mem_of_mem_filter otherIsRow)
          obtain ⟨admitted, isRecent⟩ := List.mem_filter.mp member
          have stored := find?_of_admitted along.1 earlierNotAhead admitted
            (of_decide_eq_true isRecent)
          rw [isFree] at stored
          cases stored
      | drop instant upTo =>
          rw [admittedRows_snoc_drop]
          exact distinct

/-- The admissions of a key that are still in the window are counted. -/
theorem admitted_le_newerThan (key : Key) :
    ((admittedRows events).filter fun row => keyOf row = key && now - window < timeOf row).length ≤
      (newerThan timeOf keyOf ((evidenceMachine timeOf).runFrom evidence events) key
        (now - window)).length := by
  have distinct : ((admittedRows events).filter fun row =>
      keyOf row = key && now - window < timeOf row).Nodup := by
    have both := (admitted_nodup along notAhead).filter fun row => keyOf row = key
    rwa [List.filter_filter] at both
  refine (List.subperm_of_subset distinct ?_).length_le
  intro row member
  obtain ⟨admitted, selected⟩ := List.mem_filter.mp member
  rw [Bool.and_eq_true, decide_eq_true_eq, decide_eq_true_eq] at selected
  rw [newerThan, Table.mem_select]
  exact ⟨find?_of_admitted along notAhead admitted selected.2, by simp [selected]⟩

end

/-- No window holds more admissions of a key than the limit. -/
theorem admitted_inWindow_le
    (along : (evidenceMachine timeOf).Along (LetsHappen timeOf keyOf limit window) evidence events)
    (inOrder : InOrder timeOf events) (key : Key) (last : Int) :
    ((admittedRows events).filter fun row =>
      keyOf row = key && inWindow window last (timeOf row)).length ≤ limit := by
  induction events using List.reverseRecOn with
  | nil => exact Nat.zero_le limit
  | append_singleton earlier event ih =>
      rw [Machine.along_append] at along
      obtain ⟨earlierInOrder, -, isLast⟩ := List.pairwise_append.mp inOrder
      have bounded := ih along.1 earlierInOrder
      cases event with
      | drop instant upTo =>
          rw [admittedRows_snoc_drop]
          exact bounded
      | admission row =>
          rw [admittedRows_snoc_admission, List.filter_append, List.length_append]
          by_cases counts : (keyOf row = key && inWindow window last (timeOf row)) = true
          · rw [Bool.and_eq_true, decide_eq_true_eq] at counts
            obtain ⟨rfl, inside⟩ := counts
            obtain ⟨-, belowLimit⟩ := along.2.1
            have notAhead : ∀ event ∈ earlier, event.time timeOf ≤ timeOf row :=
              fun event member => isLast event member _ (List.mem_singleton_self _) row rfl
            -- A window that holds the new row starts no earlier than the one it was counted in.
            have fewer : ((admittedRows earlier).filter fun other =>
                keyOf other = keyOf row && inWindow window last (timeOf other)).length ≤
                ((admittedRows earlier).filter fun other =>
                  keyOf other = keyOf row && timeOf row - window < timeOf other).length := by
              refine (List.monotone_filter_right _ ?_).length_le
              intro other
              simp only [inWindow, Bool.and_eq_true, decide_eq_true_eq] at inside ⊢
              rintro ⟨sameKey, started, -⟩
              exact ⟨sameKey, by omega⟩
            have counted := admitted_le_newerThan along.1 notAhead (keyOf row)
            have single : ([row].filter fun other =>
                keyOf other = keyOf row && inWindow window last (timeOf other)).length ≤ 1 :=
              List.length_filter_le _ _
            omega
          · rw [List.filter_singleton, eq_false_of_ne_true counts, cond_false, List.length_nil]
            exact bounded

end

end Triangle.Std
