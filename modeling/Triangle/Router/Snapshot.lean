import Triangle.Identity.BoundPrincipals

/-!
# Snapshots of the registry

The router reads the registry through a snapshot, which answers for a principal and
for an instance from the unrevoked bindings alone. How long a snapshot is kept before
the next is read is left out.
-/

namespace Triangle.Router

open Triangle.Std Triangle.Identity

/-- What the router knows of the registry. -/
inductive RegistrySnapshot
  | absent
  | unreadable (errorCode : String)
  | ok (sequence : Int) (bindings : List ProfileBinding)

/-- `createOkSnapshot`; every binding of a registry is `mesh-managed`. -/
def createOkSnapshot (registry : Registry) : RegistrySnapshot :=
  .ok registry.sequence (registry.bindings.rows.filter fun binding => binding.revokedAt = none)

/-- The snapshot that `get` takes of what `readRegistry` returned or threw. -/
def takeSnapshot : Except (Option String) RegistryState → RegistrySnapshot
  | .ok .absent => .absent
  | .ok (.ok registry) => createOkSnapshot registry
  | .error code => .unreadable (code.getD "unknown")

namespace RegistrySnapshot

/-- The bindings that the snapshot holds. -/
def live : RegistrySnapshot → List ProfileBinding
  | .ok _ bindings => bindings
  | _ => []

/-- `bindingsFor`: those of a principal, by instance id. -/
def bindingsFor (snapshot : RegistrySnapshot) (principalId : String) : List ProfileBinding :=
  (snapshot.live.filter fun binding => binding.principalId = principalId).insertionSort
    fun first second => Json.KeyLe first.profileInstanceId second.profileInstanceId

/-- `bindingForInstance`: the last one entered in the map. -/
def bindingForInstance (snapshot : RegistrySnapshot) (instanceId : String) :
    Option ProfileBinding :=
  (snapshot.live.filter fun binding => binding.profileInstanceId = instanceId).getLast?

end RegistrySnapshot

/-- The registry has an unrevoked binding of the instance to the principal. -/
def BoundTo (bindings : Bindings) (instanceId principalId : String) : Prop :=
  ∃ binding ∈ bindings.rows, binding.profileInstanceId = instanceId ∧
    binding.principalId = principalId ∧ binding.revokedAt = none

/-- The snapshot of a registry that was read. -/
def snapshotOf (state : RegistryState) : RegistrySnapshot :=
  takeSnapshot (.ok state)

variable {state : RegistryState} {binding : ProfileBinding}

theorem mem_live :
    binding ∈ (snapshotOf state).live ↔
      binding ∈ state.bindings.rows ∧ binding.revokedAt = none := by
  cases state with
  | absent =>
      constructor
      · exact fun member => absurd member List.not_mem_nil
      · exact fun member => absurd member.1 List.not_mem_nil
  | ok registry =>
      change binding ∈ registry.bindings.rows.filter _ ↔ _
      rw [List.mem_filter, decide_eq_true_eq]
      rfl

theorem mem_bindingsFor {principalId : String} :
    binding ∈ (snapshotOf state).bindingsFor principalId ↔
      binding ∈ state.bindings.rows ∧ binding.revokedAt = none ∧
        binding.principalId = principalId := by
  rw [RegistrySnapshot.bindingsFor, (List.perm_insertionSort _ _).mem_iff, List.mem_filter,
    decide_eq_true_eq, mem_live, and_assoc]

theorem nodup_live (state : RegistryState) : (snapshotOf state).live.Nodup := by
  cases state with
  | absent => exact List.nodup_nil
  | ok registry => exact registry.bindings.distinct.of_map.filter _

/-- Where each principal has one binding, the snapshot finds that one or none. -/
theorem bindingsFor_eq (one : OneBindingEach state.bindings) (principalId : String) :
    ((snapshotOf state).bindingsFor principalId = [] ∧
        ∀ instanceId, ¬ BoundTo state.bindings instanceId principalId) ∨
      ∃ binding, (snapshotOf state).bindingsFor principalId = [binding] ∧
        binding.principalId = principalId ∧ binding.revokedAt = none ∧
        ∀ instanceId, BoundTo state.bindings instanceId principalId ↔
          binding.profileInstanceId = instanceId := by
  have distinct : ((snapshotOf state).bindingsFor principalId).Nodup :=
    (List.perm_insertionSort _ _).nodup_iff.mpr ((nodup_live state).filter _)
  cases found : (snapshotOf state).bindingsFor principalId with
  | nil =>
      refine Or.inl ⟨rfl, ?_⟩
      rintro instanceId ⟨binding, isRow, -, isPrincipal, isLive⟩
      have member := mem_bindingsFor.mpr ⟨isRow, isLive, isPrincipal⟩
      rw [found] at member
      exact List.not_mem_nil member
  | cons binding others =>
      have isOwn : binding ∈ (snapshotOf state).bindingsFor principalId := by
        rw [found]
        exact List.mem_cons_self
      obtain ⟨isRow, isLive, isPrincipal⟩ := mem_bindingsFor.mp isOwn
      have noOthers : others = [] := by
        rw [List.eq_nil_iff_forall_not_mem]
        intro other isOther
        have isToo : other ∈ (snapshotOf state).bindingsFor principalId := by
          rw [found]
          exact List.mem_cons_of_mem _ isOther
        obtain ⟨otherRow, otherLive, otherPrincipal⟩ := mem_bindingsFor.mp isToo
        have same := one.unique other otherRow binding isRow otherLive isLive
          (otherPrincipal.trans isPrincipal.symm)
        rw [found, List.nodup_cons] at distinct
        exact distinct.1 (same ▸ isOther)
      rw [noOthers]
      refine Or.inr ⟨binding, rfl, isPrincipal, isLive, fun instanceId => ⟨?_, ?_⟩⟩
      · rintro ⟨other, otherRow, rfl, otherPrincipal, otherLive⟩
        exact congrArg _ (one.unique binding isRow other otherRow isLive otherLive
          (isPrincipal.trans otherPrincipal.symm))
      · intro isInstance
        exact ⟨binding, isRow, isInstance, isPrincipal, isLive⟩

end Triangle.Router
