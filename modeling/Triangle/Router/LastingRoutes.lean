import Triangle.Identity.Continuity
import Triangle.Router.PrincipalRouting

/-!
# Routes over runs of updates

What a registry says of an instance still counts where a send arrives at it later in the run.
-/

namespace Triangle.Router

open Triangle.Std Triangle.Identity Triangle.Semantics

variable {platform : Platform} {state : RegistryState} {router : UnifiedRouter}
  {options : SendOptions} {directory : List Recipient} {sendTo id : String}

end Triangle.Router
