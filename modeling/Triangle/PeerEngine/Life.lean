import Triangle.PeerEngine.Contents
import Triangle.PeerEngine.Engine

/-!
# The life of a state directory

Engines open the journal of a state directory one after the other, call it,
close it and crash. A crash at any byte of an append is an append that was cut
off there, followed by the crash; one inside a compaction comes before or after
its rename. Every call reads a clock that never goes back.
-/

namespace Triangle.PeerEngine

open Triangle.Std
open Triangle.Semantics (Machine)

section

variable {Addr : Type}

/-- A journal that an engine has open, or the file it left, if there is one. -/
inductive Standing (Addr : Type) where
  | stopped (file : Option (List UInt8))
  | running (journal : Journal Addr)

/-- A state directory at the time of the last clock reading. -/
structure Life (Addr : Type) where
  standing : Standing Addr
  clock : Nat

/-- What happens to a state directory next. -/
inductive LifeLabel (Addr : Type) where
  | call (timing : Timing) (operation : Operation Addr)
  | close
  | crash
  | start (waited : Nat) (rewrite : RewriteIo)

variable (runtime : JournalRuntime Addr) (limits : JournalLimits)

/-- The file that an open leaves, whether it succeeds or not. -/
def Journal.openLeaves (file : Option (List UInt8)) (now : Nat) (rewrite : RewriteIo) :
    List UInt8 :=
  match file with
  | none => []
  | some bytes =>
      match RecordFile.readRecovering runtime.codec.decode bytes with
      | .error _ => bytes
      | .ok found => ((Journal.replayed runtime limits bytes found).compact runtime now rewrite).1.file

/-- An open of the journal at time `now`. -/
def Standing.open (file : Option (List UInt8)) (now : Nat) (rewrite : RewriteIo) : Standing Addr :=
  match Journal.openWith runtime limits file now rewrite with
  | .ok journal => .running journal
  | .error _ => .stopped (some (Journal.openLeaves runtime limits file now rewrite))

variable [DecidableEq Addr]

/-- What becomes of a state directory. -/
def lifeStep (life : Life Addr) (label : LifeLabel Addr) : Life Addr :=
  match life.standing, label with
  | .running journal, .call timing operation =>
      let io := timing.io life.clock
      ⟨.running (operation.perform runtime io journal), io.compactedAt⟩
  | .running journal, .close => { life with standing := .running journal.close }
  | .running journal, .crash => { life with standing := .stopped (some journal.file) }
  | .stopped file, .start waited rewrite =>
      ⟨.open runtime limits file (life.clock + waited) rewrite, life.clock + waited⟩
  | .running _, .start _ _ => life
  | .stopped _, .call _ _ => life
  | .stopped _, .close => life
  | .stopped _, .crash => life

/-- A state directory from the time before its journal was created. -/
def lifeMachine (start : Nat) : Machine (Life Addr) (LifeLabel Addr) where
  initial := ⟨.stopped none, start⟩
  step := lifeStep runtime limits

end

section

variable {Addr : Type} {runtime : JournalRuntime Addr} {limits : JournalLimits}

/-- The journal that is open, or one that left the file. -/
def Standing.Shows (limits : JournalLimits) (standing : Standing Addr) (journal : Journal Addr) :
    Prop :=
  match standing with
  | .stopped none => journal = Journal.fresh limits
  | .stopped (some file) => journal.file = file
  | .running current => journal = { current with closed := false }

/-- A property of the contents of the journal, in use or on disk. -/
def Life.Holds (runtime : JournalRuntime Addr) (limits : JournalLimits)
    (holds : Contents Addr → Prop) (life : Life Addr) : Prop :=
  ∃ journal pending, life.standing.Shows limits journal ∧
    Tracks runtime limits life.clock pending journal ∧ holds (journal.contents pending)

variable {holds : Contents Addr → Prop} {life : Life Addr}

variable {clock : Nat} {journal : Journal Addr}

/-- It holds before the journal is created when it holds of a fresh one. -/
theorem Life.Holds.initial (fresh : holds ((Journal.fresh limits).contents none)) :
    (⟨.stopped none, clock⟩ : Life Addr).Holds runtime limits holds :=
  ⟨Journal.fresh limits, none, rfl, Tracks.fresh, fresh⟩

/-- Of an open journal it holds as it is. -/
theorem Life.Holds.running
    (held : (⟨.running journal, clock⟩ : Life Addr).Holds runtime limits holds) :
    ∃ pending, Tracks runtime limits clock pending { journal with closed := false } ∧
      holds (journal.contents pending) := by
  obtain ⟨_, pending, rfl, tracks, has⟩ := held
  exact ⟨pending, tracks, has⟩

/-- An open keeps what compactions and opens keep, whether it succeeds or not. -/
theorem Life.Holds.open {file : Option (List UInt8)} {clock waited : Nat}
    (held : (⟨.stopped file, clock⟩ : Life Addr).Holds runtime limits holds) (rewrite : RewriteIo)
    (keeps : Keeps runtime limits (clock + waited) holds) :
    (⟨.open runtime limits file (clock + waited) rewrite, clock + waited⟩ : Life Addr).Holds
      runtime limits holds := by
  obtain ⟨journal, pending, isShown, tracks, has⟩ := held
  have later := tracks.mono (Nat.le_add_right clock waited)
  cases file with
  | none =>
      change journal = Journal.fresh limits at isShown
      subst isShown
      exact ⟨Journal.fresh limits, pending, rfl, later, has⟩
  | some bytes =>
      change journal.file = bytes at isShown
      obtain ⟨found, isFound, kept, keptTracks, keptHolds⟩ := keeps.openWith later has rewrite
      rw [isShown] at isFound keptTracks keptHolds
      refine ⟨_, kept, ?_, keptTracks, keptHolds⟩
      have isOpen := keptTracks.isOpen
      simp only [Standing.open, Journal.openWith, Journal.openLeaves, isFound]
      cases isResult : ((Journal.replayed runtime limits bytes found).compact runtime
          (clock + waited) rewrite).2 with
      | error error => rfl
      | ok =>
          change _ = { ((Journal.replayed runtime limits bytes found).compact runtime
            (clock + waited) rewrite).1 with closed := false }
          rw [← isOpen]

variable [DecidableEq Addr]

/-- A call keeps what its operation serves, on an open and on a closed journal. -/
theorem Life.Holds.call {timing : Timing} {operation : Operation Addr}
    (held : (⟨.running journal, clock⟩ : Life Addr).Holds runtime limits holds)
    (serves : Serves runtime limits (timing.io clock) operation holds) :
    (⟨.running (operation.perform runtime (timing.io clock) journal),
      (timing.io clock).compactedAt⟩ : Life Addr).Holds runtime limits holds := by
  obtain ⟨pending, tracks, has⟩ := held.running
  have notLater : clock ≤ (timing.io clock).compactedAt := by
    obtain ⟨waited, stamped, compacted⟩ := timing.ordered clock
    omega
  have later := tracks.mono notLater
  cases isClosed : journal.closed with
  | true =>
      obtain ⟨-, keptTracks, keptHolds⟩ := serves.perform_closed isClosed later has
      exact ⟨_, pending, rfl, keptTracks, keptHolds⟩
  | false =>
      rw [← isClosed] at later
      obtain ⟨kept, keptTracks, keptHolds⟩ := serves.perform later has
      refine ⟨_, kept, rfl, ?_, keptHolds⟩
      have isOpen := keptTracks.isOpen
      rw [← isOpen]
      exact keptTracks

/-- A property that calls serve and opens keep holds after every step. -/
theorem Life.Holds.step {label : LifeLabel Addr} (held : life.Holds runtime limits holds)
    (serves : ∀ timing operation journal, life.standing = .running journal →
      label = .call timing operation →
      Serves runtime limits (timing.io life.clock) operation holds)
    (keeps : ∀ waited rewrite file, life.standing = .stopped file →
      label = .start waited rewrite → Keeps runtime limits (life.clock + waited) holds) :
    (lifeStep runtime limits life label).Holds runtime limits holds := by
  obtain ⟨standing, clock⟩ := life
  cases standing with
  | running journal =>
      cases label with
      | call timing operation => exact held.call (serves timing operation journal rfl rfl)
      | close =>
          obtain ⟨pending, tracks, has⟩ := held.running
          exact ⟨_, pending, rfl, tracks, has⟩
      | crash =>
          obtain ⟨pending, tracks, has⟩ := held.running
          exact ⟨{ journal with closed := false }, pending, rfl, tracks, has⟩
      | start waited rewrite => exact held
  | stopped file =>
      cases label with
      | call | close | crash => exact held
      | start waited rewrite => exact held.open rewrite (keeps waited rewrite file rfl rfl)

/-- A property that every call serves and every open keeps holds throughout. -/
theorem Life.holds_run (start : Nat) (fresh : holds ((Journal.fresh limits).contents none))
    (serves : ∀ io operation, Serves runtime limits io operation holds)
    (keeps : ∀ now, Keeps runtime limits now holds) (labels : List (LifeLabel Addr)) :
    ((lifeMachine runtime limits start).run labels).Holds runtime limits holds := by
  have preserved : ∀ (life : Life Addr) label, life.Holds runtime limits holds →
      ((lifeMachine runtime limits start).step life label).Holds runtime limits holds :=
    fun life label held => held.step (fun _ operation _ _ _ => serves _ operation)
      fun _ _ _ _ _ => keeps _
  exact Machine.invariant_runFrom preserved (Life.Holds.initial fresh) labels

end

end Triangle.PeerEngine
