import LightingControl.Bytes
/-!
# Reading UTF-8

`Utf8.decode` turns bytes into characters and otherwise says where the first fault lies: the number
of bytes before it that are valid, and whether the bytes there can start no character at all
(`some n`, the length of the part that is to blame) or only lack their rest (`none`).

The second byte of a three or four byte character is bounded more tightly after the lead bytes
`E0`, `ED`, `F0` and `F4`; this rules out overlong forms, surrogates and code points past `10FFFF`.
-/

set_option autoImplicit false

namespace LightingControl.Utf8

structure Fault where
  /-- How many bytes before the fault form whole characters. -/
  validUpTo : Nat
  /-- The length of the offending part, or `none` if the bytes end within a character. -/
  badLength : Option Nat
  deriving DecidableEq, Repr

def Fault.message (fault : Fault) : String :=
  match fault.badLength with
  | some length =>
    s!"invalid utf-8 sequence of {length} bytes from index {fault.validUpTo}"
  | none => s!"incomplete utf-8 byte sequence from index {fault.validUpTo}"

inductive Lead where
  | ascii
  | two
  | three
  | four
  | none
  deriving DecidableEq, Repr

def lead (byte : UInt8) : Lead :=
  if byte < 0x80 then .ascii
  else if byte < 0xC2 then .none
  else if byte < 0xE0 then .two
  else if byte < 0xF0 then .three
  else if byte < 0xF5 then .four
  else .none

def isTail (byte : UInt8) : Bool :=
  0x80 ≤ byte && byte ≤ 0xBF

/-- Whether `second` may follow the lead byte `first` of a three or four byte character. -/
def allowsSecond (first second : UInt8) : Bool :=
  if first == 0xE0 then 0xA0 ≤ second && second ≤ 0xBF
  else if first == 0xED then 0x80 ≤ second && second ≤ 0x9F
  else if first == 0xF0 then 0x90 ≤ second && second ≤ 0xBF
  else if first == 0xF4 then 0x80 ≤ second && second ≤ 0x8F
  else isTail second

def tailBits (byte : UInt8) : Nat :=
  byte.toNat % 64

/-- The characters of the bytes, where `done` bytes have been read before them. -/
def decodeFrom (done : Nat) : Bytes → Except Fault (List Char)
  | [] => .ok []
  | a :: rest =>
    match lead a with
    | .none => .error ⟨done, some 1⟩
    | .ascii => (decodeFrom (done + 1) rest).map (Char.ofNat a.toNat :: ·)
    | .two =>
      match rest with
      | [] => .error ⟨done, none⟩
      | b :: rest =>
        if isTail b then
          (decodeFrom (done + 2) rest).map (Char.ofNat (64 * (a.toNat % 32) + tailBits b) :: ·)
        else
          .error ⟨done, some 1⟩
    | .three =>
      match rest with
      | [] => .error ⟨done, none⟩
      | b :: rest =>
        if allowsSecond a b then
          match rest with
          | [] => .error ⟨done, none⟩
          | c :: rest =>
            if isTail c then
              (decodeFrom (done + 3) rest).map
                (Char.ofNat (4096 * (a.toNat % 16) + 64 * tailBits b + tailBits c) :: ·)
            else
              .error ⟨done, some 2⟩
        else
          .error ⟨done, some 1⟩
    | .four =>
      match rest with
      | [] => .error ⟨done, none⟩
      | b :: rest =>
        if allowsSecond a b then
          match rest with
          | [] => .error ⟨done, none⟩
          | c :: rest =>
            if isTail c then
              match rest with
              | [] => .error ⟨done, none⟩
              | d :: rest =>
                if isTail d then
                  (decodeFrom (done + 4) rest).map
                    (Char.ofNat (262144 * (a.toNat % 8) + 4096 * tailBits b + 64 * tailBits c
                      + tailBits d) :: ·)
                else
                  .error ⟨done, some 3⟩
            else
              .error ⟨done, some 2⟩
        else
          .error ⟨done, some 1⟩

def decode (bytes : Bytes) : Except Fault String :=
  (decodeFrom 0 bytes).map String.ofList

end LightingControl.Utf8
