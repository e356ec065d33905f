import Wgd.Doctor.Redaction
import Wgd.Net.Reading
import Wgd.Net.Splitting

/-! The tokens of an IPv4 address: with a port, a prefix length or brackets. -/

set_option autoImplicit false

namespace Wgd.Doctor

open Wgd.Net

variable {addr shown port length lead close core more rest : List Char} {bits : BitVec 32}

/-! ### Characters -/

section Address

variable (reads : parseIpv4 addr = some bits)

include reads

end Address

/-! ### Addresses in brackets -/

section Address

variable (reads : parseIpv4 addr = some bits)

include reads

end Address

/-! ### Tokens -/

section Tokens

variable (reads : parseIpv4 addr = some bits)

include reads

variable (masks : maskIpv4Addr addr = some shown) {endpoint : Bool}

include masks

end Tokens

end Wgd.Doctor
