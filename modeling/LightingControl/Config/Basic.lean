import LightingControl.Config.Duration
import LightingControl.Net.Address
/-!
# Settings

The settings of a session and of a listener, their defaults and their setters.  A setter of the
timeout keeps it between `minTimeout` and `maxTimeout`.
-/

set_option autoImplicit false

namespace LightingControl

def commandPort : UInt16 := 5108

def eventGroup : Ipv4 := ⟨239, 255, 90, 67⟩

def eventPort : UInt16 := 6969

def defaultTimeout : Duration := .ofMillis 1500

def minTimeout : Duration := .ofMillis 10

def maxTimeout : Duration := .ofSeconds 10

def defaultRetries : UInt32 := 2

def defaultDedupWindow : Duration := .ofMillis 250

def defaultPollInterval : Duration := .ofMillis 100

def anyEndpoint : Endpoint := .v4 .unspecified 0

structure SessionConfig where
  bind : Endpoint := anyEndpoint
  timeout : Duration := defaultTimeout
  /-- How often a command is sent again after its first attempt. -/
  retries : UInt32 := defaultRetries
  /-- How often the receiver looks whether it is to stop. -/
  pollInterval : Duration := defaultPollInterval
  initialSeq : UInt8 := 0
  deriving DecidableEq, Repr

namespace SessionConfig

def default : SessionConfig := {}

def withBind (config : SessionConfig) (bind : Endpoint) : SessionConfig :=
  { config with bind }

def withTimeout (config : SessionConfig) (timeout : Duration) : SessionConfig :=
  { config with timeout := timeout.clamp minTimeout maxTimeout }

def withRetries (config : SessionConfig) (retries : UInt32) : SessionConfig :=
  { config with retries }

def withPollInterval (config : SessionConfig) (pollInterval : Duration) : SessionConfig :=
  { config with pollInterval }

def withInitialSeq (config : SessionConfig) (initialSeq : UInt8) : SessionConfig :=
  { config with initialSeq }

end SessionConfig

structure ListenerConfig where
  multicast : Bool := true
  multicastGroup : Ipv4 := eventGroup
  multicastPort : UInt16 := eventPort
  interface : Ipv4 := .unspecified
  unicastBind : Option Endpoint := none
  /-- How long a repeated event counts as a duplicate; zero lets every repeat through. -/
  dedupWindow : Duration := defaultDedupWindow
  pollInterval : Duration := defaultPollInterval
  deriving DecidableEq, Repr

namespace ListenerConfig

def default : ListenerConfig := {}

def withMulticast (config : ListenerConfig) (multicast : Bool) : ListenerConfig :=
  { config with multicast }

def withMulticastGroup (config : ListenerConfig) (group : Ipv4) (port : UInt16) :
    ListenerConfig :=
  { config with multicastGroup := group, multicastPort := port }

def withInterface (config : ListenerConfig) (interface : Ipv4) : ListenerConfig :=
  { config with interface }

def withUnicast (config : ListenerConfig) (bind : Endpoint) : ListenerConfig :=
  { config with unicastBind := some bind }

def withDedupWindow (config : ListenerConfig) (window : Duration) : ListenerConfig :=
  { config with dedupWindow := window }

def withPollInterval (config : ListenerConfig) (pollInterval : Duration) : ListenerConfig :=
  { config with pollInterval }

end ListenerConfig

end LightingControl
