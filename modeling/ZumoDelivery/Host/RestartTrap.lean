import ZumoDelivery.Application.Restart
import ZumoDelivery.Application.ReportsRun
import ZumoDelivery.Host.Commands
import ZumoDelivery.Host.Telemetry

set_option autoImplicit false

namespace ZumoDelivery

section trap

variable {F : Type} [FloatArith F]

end trap

variable (env : Env) (n : ℕ)

end ZumoDelivery
