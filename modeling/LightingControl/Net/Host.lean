import LightingControl.Config.Duration
import LightingControl.Net.Address
/-!
# What the host permits

Opening a socket can fail for reasons that lie outside the program.  They enter it here, as the
answers of the host to what it is asked for, and with them what its clock shows.
-/

set_option autoImplicit false

namespace LightingControl

structure Host where
  binds : Endpoint → Bool
  connects : Endpoint → Endpoint → Bool
  joins : Ipv4 → Ipv4 → Bool
  /-- A multicast socket may be polled at this interval. -/
  polls : Duration → Bool
  now : Moment

namespace Host

def networked : Host where
  binds _ := true
  connects _ _ := true
  joins group _ := group.isMulticast
  polls _ := true
  now := 0

/-- A host cut off from every network: sockets can be bound, but neither connected nor joined to a
group, and no datagram leaves or reaches it. -/
def isolated : Host where
  binds _ := true
  connects _ _ := false
  joins _ _ := false
  polls _ := true
  now := 0

end Host

end LightingControl
