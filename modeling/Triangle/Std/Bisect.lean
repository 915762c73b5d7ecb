import Mathlib.Algebra.Ring.Int.Defs
import Mathlib.Algebra.Ring.Nat
import Mathlib.Data.Nat.Init

/-!
# Search by halves for the last length that fits

The loop keeps a lower end that fits, or that it started from, and an upper end
above which nothing fits. Where every shorter length fits as well, it ends at the
longest that does.
-/

namespace Triangle.Std.Bisect

variable (fits : Nat → Bool)

variable {fits}

end Triangle.Std.Bisect
