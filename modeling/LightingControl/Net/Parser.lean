import LightingControl.Net.Address
/-!
# Reading network addresses

Each reader takes the front of a character list and returns what it read with the rest, or nothing.
Numbers have at least one digit; an octet has at most three and no leading zero, an IPv6 group at
most four hexadecimal digits, a port any number of digits up to its range.
-/

set_option autoImplicit false

namespace LightingControl

namespace Net

def digitValue (base : Nat) (char : Char) : Option Nat :=
  let value :=
    if '0' ≤ char ∧ char ≤ '9' then char.toNat - '0'.toNat
    else if 'a' ≤ char ∧ char ≤ 'z' then char.toNat - 'a'.toNat + 10
    else if 'A' ≤ char ∧ char ≤ 'Z' then char.toNat - 'A'.toNat + 10
    else base
  if value < base then some value else none

def digitRun (base : Nat) : List Char → List Nat × List Char
  | [] => ([], [])
  | char :: rest =>
    match digitValue base char with
    | some digit =>
      let run := digitRun base rest
      (digit :: run.1, run.2)
    | none => ([], char :: rest)

def number (base bound maxDigits : Nat) (leadingZero : Bool) (chars : List Char) :
    Option (Nat × List Char) :=
  let run := digitRun base chars
  let value := run.1.foldl (fun total digit => base * total + digit) 0
  if run.1.isEmpty || maxDigits < run.1.length || bound ≤ value then none
  else if !leadingZero && run.1.head? == some 0 && 1 < run.1.length then none
  else some (value, run.2)

def char (wanted : Char) : List Char → Option (List Char)
  | [] => none
  | found :: rest => if found = wanted then some rest else none

def octet (chars : List Char) : Option (UInt8 × List Char) :=
  (number 10 256 3 false chars).map fun (value, rest) => (UInt8.ofNat value, rest)

def ipv4 (chars : List Char) : Option (Ipv4 × List Char) := do
  let (a, chars) ← octet chars
  let chars ← char '.' chars
  let (b, chars) ← octet chars
  let chars ← char '.' chars
  let (c, chars) ← octet chars
  let chars ← char '.' chars
  let (d, chars) ← octet chars
  return (⟨a, b, c, d⟩, chars)

def group (chars : List Char) : Option (UInt16 × List Char) :=
  (number 16 65536 4 true chars).map fun (value, rest) => (UInt16.ofNat value, rest)

def groupSeparator (first : Bool) (chars : List Char) : Option (List Char) :=
  if first then some chars else char ':' chars

/-- Up to `room` groups separated by colons, where a dotted IPv4 address may stand for the last two.
Returns the groups, whether they end in such an address, and the characters after them. -/
def groupSequence (first : Bool) : Nat → List Char → List UInt16 × Bool × List Char
  | 0, chars => ([], false, chars)
  | room + 1, chars =>
    let dotted :=
      if 0 < room then groupSeparator first chars >>= ipv4 else none
    match dotted with
    | some (ip, rest) => ([wordOf ip.a ip.b, wordOf ip.c ip.d], true, rest)
    | none =>
      match groupSeparator first chars >>= group with
      | some (value, rest) =>
        let later := groupSequence false room rest
        (value :: later.1, later.2)
      | none => ([], false, chars)

def ofGroups (groups : List UInt16) : Option Ipv6 :=
  if h : groups.toArray.size = 8 then some ⟨⟨groups.toArray, h⟩⟩ else none

def ipv6 (chars : List Char) : Option (Ipv6 × List Char) := do
  let (head, dotted, rest) := groupSequence true 8 chars
  if head.length = 8 then
    return (← ofGroups head, rest)
  if dotted then none
  let rest ← char ':' rest
  let rest ← char ':' rest
  let (tail, _, rest) := groupSequence true (7 - head.length) rest
  let zeros := List.replicate (8 - head.length - tail.length) 0
  return (← ofGroups (head ++ zeros ++ tail), rest)

def port (chars : List Char) : Option (UInt16 × List Char) := do
  let chars ← char ':' chars
  let (value, rest) ← number 10 65536 chars.length true chars
  return (UInt16.ofNat value, rest)

/-- The scope after the address within brackets, 0 if there is none. -/
def scope (chars : List Char) : UInt32 × List Char :=
  match char '%' chars >>= fun chars => number 10 UInt32.size chars.length true chars with
  | some (value, rest) => (UInt32.ofNat value, rest)
  | none => (0, chars)

def finished {α : Type} : Option (α × List Char) → Option α
  | some (value, []) => some value
  | _ => none

def ipv4Endpoint (chars : List Char) : Option (Ipv4Endpoint × List Char) := do
  let (ip, chars) ← ipv4 chars
  let (port, chars) ← port chars
  return (⟨ip, port⟩, chars)

def ipv6Endpoint (chars : List Char) : Option (Endpoint × List Char) := do
  let chars ← char '[' chars
  let (ip, chars) ← ipv6 chars
  let (scope, chars) := scope chars
  let chars ← char ']' chars
  let (port, chars) ← port chars
  return (.v6 ip port 0 scope, chars)

end Net

def Ipv4.ofText? (text : String) : Option Ipv4 :=
  Net.finished (Net.ipv4 text.toList)

def Ipv4Endpoint.ofText? (text : String) : Option Ipv4Endpoint :=
  Net.finished (Net.ipv4Endpoint text.toList)

def Endpoint.ofText? (text : String) : Option Endpoint :=
  match Ipv4Endpoint.ofText? text with
  | some endpoint => some (.v4 endpoint.ip endpoint.port)
  | none => Net.finished (Net.ipv6Endpoint text.toList)

end LightingControl
