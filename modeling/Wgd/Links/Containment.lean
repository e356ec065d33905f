import Wgd.Links.BypassLinks
import Wgd.Net.Containment

/-! Routes are excluded by masked addresses, links match by first and last address:
both decide the inclusion of networks, and the masks never shift too far. -/

set_option autoImplicit false

namespace Wgd.Links

open Wgd.Net

/-! ### Shifts as the machine does them -/

variable {outer middle inner : IpNet}

end Wgd.Links
