import GpuSidecar.Models.Dataplane.Snapshot
import GpuSidecar.Models.Dataplane.Work
import GpuSidecar.Models.Routing.Publishing
import GpuSidecar.Models.Sidecar.Admission

/-!
# What the router knows of a sidecar

The documents of `/readyz`, `/v1/status` and `/v1/queue` as the sidecar writes them
(`internal/api/server.go` and the closure for the queue in `cmd/sidecar/main.go`), read by
`pollBackend` of the router. The two sides share no types, only the names of members. A
poll finds the state of the sidecar in them, of which the first device of the host stands
for all devices. On this state the router decides whether to send requests; the gate of the
sidecar decides on the same data whether to admit them.
-/

namespace GpuSidecar.Sidecar

open Dataplane Engine Json Lifecycle Run

/-! ### The documents -/

open Routing

section

variable (toInt : ℚ → ℤ) (prev : Counters) (now : ℤ) (b : Backend) {r : Replies}

end

section

variable {w : Wiring} {g : GateSystem} {a : Runtime.Adapter} {r : Replies} {toInt : ℚ → ℤ}
  (htoInt : ∀ n : ℤ, toInt n = n) (prev : Counters) (now : ℤ) (b : Backend)

end

namespace Wiring

end Wiring

section

variable {w : Wiring} {g : GateSystem} {a : Runtime.Adapter} {r : Replies} {toInt : ℚ → ℤ}
  (htoInt : ∀ n : ℤ, toInt n = n) (prev : Counters) (polledAt : ℤ) (b : Backend)

end

end GpuSidecar.Sidecar
