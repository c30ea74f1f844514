import Trimtab.PrometheusMetrics

set_option autoImplicit false

/-!
# Quantiles of arbitrary increments

The difference of two scrapes need not be cumulative: counts may fall from one bound to the
next, and may be negative. What orders the estimates is the first bucket that reaches the rank.
-/
namespace Trimtab.Prometheus
open Effects Runs

namespace Reached

variable {b : Buckets} {rank cum : Rat} {below after : List (Le × Rat)} {le : Le}

theorem mem (h : Reached b rank below le cum after) {row : Le × Rat} (hr : row ∈ below) :
    row ∈ b.sortKeys.entries := by
  rw [h.rows]
  exact List.mem_append_left _ hr

end Reached

/-- Inside a bucket: how far the rank lies between the counts before and after it. -/
def interpolate (prevLe prevCum le cum rank : Rat) : Rat :=
  prevLe + (le - prevLe) * ((rank - prevCum) / (cum - prevCum))

def answer (below : List (Le × Rat)) (le : Le) (cum rank : Rat) : Rat :=
  (finite? le).elim (carried 0 0 below).1 fun le =>
    interpolate (carried 0 0 below).1 (carried 0 0 below).2 le cum rank

namespace Reached

variable {b : Buckets} {rank cum : Rat} {below after : List (Le × Rat)} {le : Le}

end Reached

end Trimtab.Prometheus
