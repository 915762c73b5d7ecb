import Mathlib.Algebra.Ring.Int.Defs
import Mathlib.Algebra.Ring.Nat
import Mathlib.Data.List.Basic
import Mathlib.Order.Basic

/-!
# Deterministic labelled machines

A `Machine` moves by a total step function. Whatever a program does not decide
for itself (call arguments, clock readings, failed writes, crashes, the order
in which parties act) is part of the label, so a finite run is a list of labels
and a statement over every interleaving is a statement over every list.

`Along` says that each step of a run meets a condition on its source state and
label. The rules at the end turn one lemma about a single step into a fact
about whole runs.
-/

namespace Triangle.Semantics

universe u v

/-- A machine with one initial state and a total labelled step function. -/
structure Machine (State : Type u) (Label : Type v) where
  initial : State
  step : State → Label → State

namespace Machine

variable {State : Type u} {Label : Type v} (machine : Machine State Label)

/-- The state reached from `state` by a finite list of labels. -/
def runFrom (state : State) (labels : List Label) : State :=
  labels.foldl machine.step state

/-- The state reached from the initial state. -/
def run (labels : List Label) : State :=
  machine.runFrom machine.initial labels

/-- A state is reachable when some finite run ends in it. -/
def Reachable (state : State) : Prop :=
  ∃ labels, machine.run labels = state

/-- Every step of the run from `state` meets `holds` at its own source state. -/
def Along (holds : State → Label → Prop) : State → List Label → Prop
  | _, [] => True
  | state, label :: rest => holds state label ∧ Along holds (machine.step state label) rest

instance decidableAlong (holds : State → Label → Prop)
    [∀ state label, Decidable (holds state label)] :
    (state : State) → (labels : List Label) → Decidable (machine.Along holds state labels)
  | _, [] => inferInstanceAs (Decidable True)
  | state, label :: rest =>
      have := decidableAlong holds (machine.step state label) rest
      inferInstanceAs (Decidable (_ ∧ _))

variable {machine}

@[simp] theorem runFrom_nil (state : State) : machine.runFrom state [] = state := rfl

@[simp] theorem runFrom_cons (state : State) (label : Label) (rest : List Label) :
    machine.runFrom state (label :: rest) = machine.runFrom (machine.step state label) rest := rfl

theorem runFrom_append (state : State) (first second : List Label) :
    machine.runFrom state (first ++ second) =
      machine.runFrom (machine.runFrom state first) second := by
  simp [runFrom, List.foldl_append]

theorem run_snoc (labels : List Label) (label : Label) :
    machine.run (labels ++ [label]) = machine.step (machine.run labels) label := by
  simp [run, runFrom_append]

/-- A property preserved by every step holds at the end of every run from a
state where it holds. -/
theorem invariant_runFrom {holds : State → Prop}
    (preserved : ∀ state label, holds state → holds (machine.step state label))
    {state : State} (start : holds state) (labels : List Label) :
    holds (machine.runFrom state labels) := by
  induction labels generalizing state with
  | nil => exact start
  | cons label rest ih =>
      exact ih (preserved state label start)

/-- An inductive invariant holds in every reachable state. -/
theorem Reachable.invariant {holds : State → Prop} (start : holds machine.initial)
    (preserved : ∀ state label, holds state → holds (machine.step state label))
    {state : State} (reached : machine.Reachable state) : holds state := by
  obtain ⟨labels, rfl⟩ := reached
  exact invariant_runFrom preserved start labels

/-- A property preserved by the steps that meet a condition holds at the end of
every run all of whose steps meet it. -/
theorem Along.invariant {condition : State → Label → Prop} {holds : State → Prop}
    (preserved : ∀ state label, condition state label → holds state →
      holds (machine.step state label))
    {state : State} (start : holds state) {labels : List Label}
    (along : machine.Along condition state labels) : holds (machine.runFrom state labels) := by
  induction labels generalizing state with
  | nil => exact start
  | cons label rest ih =>
      exact ih (preserved state label along.1 start) along.2

variable {condition : State → Label → Prop} {state : State} {labels : List Label}

theorem along_append (state : State) (first second : List Label) :
    machine.Along condition state (first ++ second) ↔
      machine.Along condition state first ∧
        machine.Along condition (machine.runFrom state first) second := by
  induction first generalizing state with
  | nil => exact ⟨fun along => ⟨trivial, along⟩, fun along => along.2⟩
  | cons label rest ih =>
      rw [List.cons_append, Along, ih, Along, runFrom_cons, and_assoc]

/-- A step of a run meets the condition at the state that the run reached. -/
theorem Along.step {condition : State → Label → Prop} {state : State} {first rest : List Label}
    {label : Label} (along : machine.Along condition state (first ++ label :: rest)) :
    machine.Along condition state first ∧ condition (machine.runFrom state first) label := by
  rw [along_append] at along
  exact ⟨along.1, along.2.1⟩

/-- A condition that each step of a run meets holds along it. -/
theorem along_of_steps (meets : ∀ first label rest, labels = first ++ label :: rest →
      condition (machine.runFrom state first) label) : machine.Along condition state labels := by
  induction labels generalizing state with
  | nil => trivial
  | cons label rest ih =>
      refine ⟨meets [] label rest rfl, ih ?_⟩
      intro first next later isSplit
      exact meets (label :: first) next later (by rw [isSplit, List.cons_append])

/-- Two step conditions hold along a run together. -/
theorem Along.and {condition other : State → Label → Prop}
    (along : machine.Along condition state labels) (otherAlong : machine.Along other state labels) :
    machine.Along (fun state label => condition state label ∧ other state label) state labels := by
  induction labels generalizing state with
  | nil => trivial
  | cons label rest ih =>
      exact ⟨⟨along.1, otherAlong.1⟩, ih along.2 otherAlong.2⟩

/-- A weaker step condition holds along the same run. -/
theorem Along.mono {condition conclusion : State → Label → Prop}
    (implies : ∀ state label, condition state label → conclusion state label)
    (along : machine.Along condition state labels) : machine.Along conclusion state labels := by
  induction labels generalizing state with
  | nil => trivial
  | cons label rest ih =>
      exact ⟨implies state label along.1, ih along.2⟩

/-- When, in a sound state, a condition on a step is exactly what keeps a property, the steps of
a run all meet the condition if and only if the property holds in every state of the run. -/
theorem along_iff_everywhere {sound kept : State → Prop} {condition : State → Label → Prop}
    (soundStep : ∀ state label, sound state → sound (machine.step state label))
    (exact : ∀ state label, sound state → kept state →
      (kept (machine.step state label) ↔ condition state label))
    {state : State} (startSound : sound state) (startKept : kept state) (labels : List Label) :
    machine.Along condition state labels ↔
      ∀ first, first <+: labels → kept (machine.runFrom state first) := by
  induction labels generalizing state with
  | nil =>
      refine ⟨fun _ first isPrefix => ?_, fun _ => trivial⟩
      rw [List.prefix_nil.mp isPrefix]
      exact startKept
  | cons label rest ih =>
      have stepSound := soundStep state label startSound
      constructor
      · rintro ⟨met, along⟩ first isPrefix
        have stepKept := (exact state label startSound startKept).mpr met
        cases first with
        | nil => exact startKept
        | cons next others =>
            obtain ⟨rfl, isRest⟩ := List.cons_prefix_cons.mp isPrefix
            exact (ih stepSound stepKept).mp along others isRest
      · intro everywhere
        have stepKept : kept (machine.step state label) :=
          everywhere [label] (List.cons_prefix_cons.mpr ⟨rfl, List.nil_prefix⟩)
        refine ⟨(exact state label startSound startKept).mp stepKept,
          (ih stepSound stepKept).mpr fun first isPrefix => ?_⟩
        exact everywhere (label :: first) (List.cons_prefix_cons.mpr ⟨rfl, isPrefix⟩)

/-- A reflexive and transitive relation kept by every step relates the two ends
of every run. -/
theorem relation_runFrom (related : State → State → Prop)
    (refl : ∀ state, related state state)
    (trans : ∀ {a b c}, related a b → related b c → related a c)
    (stepRelated : ∀ state label, related state (machine.step state label))
    (state : State) (labels : List Label) :
    related state (machine.runFrom state labels) := by
  induction labels generalizing state with
  | nil => exact refl state
  | cons label rest ih =>
      exact trans (stepRelated state label) (ih (machine.step state label))

end Machine

end Triangle.Semantics
