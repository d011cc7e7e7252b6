import LightingControl.Bytes
import LightingControl.Text.Hex
/-!
# Network addresses and their text

IPv4 and IPv6 addresses and UDP endpoints.  IPv6 text follows the usual canonical form: groups in
lower-case hexadecimal without leading zeros, the first longest run of at least two zero groups
written as `::`, and an IPv4-mapped address written with its last four bytes in dotted form.
-/

set_option autoImplicit false

namespace LightingControl

structure Ipv4 where
  a : UInt8
  b : UInt8
  c : UInt8
  d : UInt8
  deriving DecidableEq, Repr

namespace Ipv4

def unspecified : Ipv4 := ⟨0, 0, 0, 0⟩

def octets (ip : Ipv4) : Bytes :=
  [ip.a, ip.b, ip.c, ip.d]

def isMulticast (ip : Ipv4) : Bool :=
  224 ≤ ip.a && ip.a ≤ 239

def text (ip : Ipv4) : String :=
  s!"{ip.a}.{ip.b}.{ip.c}.{ip.d}"

end Ipv4

structure Ipv6 where
  groups : Vector UInt16 8
  deriving DecidableEq, Repr

namespace Ipv6

def groupText (group : UInt16) : String :=
  let digits := Hex.pair Hex.lowerDigits (upperByte group) ++
    Hex.pair Hex.lowerDigits (lowerByte group)
  match digits.dropWhile (fun digit => digit == '0') with
  | [] => "0"
  | rest => String.ofList rest

def zeroRun (groups : List UInt16) : Nat :=
  (groups.takeWhile (fun group => group == 0)).length

/-- Start and length of the first longest run of zeros, looking from position `start` on. -/
def longestZeroRun (start : Nat) : List UInt16 → Nat × Nat
  | [] => (start, 0)
  | group :: rest =>
    let later := longestZeroRun (start + 1) rest
    let here := zeroRun (group :: rest)
    if later.2 ≤ here then (start, here) else later

def groupsText (groups : List UInt16) : String :=
  String.intercalate ":" (groups.map groupText)

def text (ip : Ipv6) : String :=
  match ip.groups.toList with
  | [0, 0, 0, 0, 0, 0xFFFF, high, low] =>
    "::ffff:" ++ (Ipv4.mk (upperByte high) (lowerByte high) (upperByte low) (lowerByte low)).text
  | groups =>
    let run := longestZeroRun 0 groups
    if 1 < run.2 then
      groupsText (groups.take run.1) ++ "::" ++ groupsText (groups.drop (run.1 + run.2))
    else
      groupsText groups

end Ipv6

inductive IpAddress where
  | v4 (ip : Ipv4)
  | v6 (ip : Ipv6)
  deriving DecidableEq, Repr

def IpAddress.text : IpAddress → String
  | .v4 ip => ip.text
  | .v6 ip => ip.text

structure Ipv4Endpoint where
  ip : Ipv4
  port : UInt16
  deriving DecidableEq, Repr

/-- A UDP endpoint; an IPv6 one carries a flow label, which its text does not show, and the scope its
address is valid in, 0 for none. -/
inductive Endpoint where
  | v4 (ip : Ipv4) (port : UInt16)
  | v6 (ip : Ipv6) (port : UInt16) (flow scope : UInt32)
  deriving DecidableEq, Repr

namespace Endpoint

def ip : Endpoint → IpAddress
  | .v4 ip _ => .v4 ip
  | .v6 ip _ _ _ => .v6 ip

def port : Endpoint → UInt16
  | .v4 _ port => port
  | .v6 _ port _ _ => port

def text : Endpoint → String
  | .v4 ip port => ip.text ++ ":" ++ toString port
  | .v6 ip port _ scope =>
    let zone := if scope == 0 then "" else "%" ++ toString scope
    "[" ++ ip.text ++ zone ++ "]:" ++ toString port

end Endpoint

end LightingControl
