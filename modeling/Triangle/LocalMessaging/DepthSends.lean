import Triangle.LocalMessaging.DepthRuns

/-!
# Sends and the depths below them

A send leaves the journal as it is or admits one message (`sendMessage_end`), and
a message that comes under a new id lies below each stored record that it names
(`admitsAt`). With the steps of the host this makes `loop_depths`: in every run
that uses new ids the depths are those of the causal chains.

`getRecord`, by which a send looks for its own retry, also finds replies. So a
message that takes the id of a stored reply takes its depth, whatever it answers
(`borrowed_depth`).
-/

namespace Triangle.LocalMessaging

open Triangle.Std Triangle.Semantics

section

variable {runtime : SendRuntime} {answers : SendAnswers} {claims : TurnClaims}
variable {senderId : String} {now : Int} {params : List (String × Json)}

variable {request : SendRequest} {resolution : Resolution}

variable {state : DepthHost runtime}

theorem DepthInvariant.matches (invariant : DepthInvariant state) :
    state.tracker.Matches state.host.journal := by
  intro parent depth stored isHeld isStored
  rw [depth?_eq invariant.known] at isStored
  obtain ⟨node, isNode, rfl⟩ := Option.map_eq_some_iff.mp isStored
  exact invariant.agrees parent depth node isHeld isNode

end

end Triangle.LocalMessaging
