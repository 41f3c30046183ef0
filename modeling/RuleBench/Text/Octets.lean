/-!
# Octets as text

Text from its encoded octets. A fault is the first octet that no text has there, together with the
octets that make up the broken character.
-/

namespace RuleBench.Text

/-- What is wrong with an octet sequence. -/
inductive OctetCause where
  | invalidStart
  | invalidContinuation
  | endOfData
deriving Repr, DecidableEq

def OctetCause.message : OctetCause → String
  | invalidStart => "invalid start byte"
  | invalidContinuation => "invalid continuation byte"
  | endOfData => "unexpected end of data"

/-- A fault with the range of octets it concerns. -/
structure OctetFault where
  cause : OctetCause
  first : Nat
  last : Nat
  octet : UInt8
deriving Repr

/-- A lone octet is shown, a longer sequence by its place alone. -/
def OctetFault.message (e : OctetFault) : String :=
  let octet := String.ofList (Nat.toDigits 16 e.octet.toNat)
  let octet := if octet.length < 2 then "0" ++ octet else octet
  let what := "'utf-8' codec can't decode byte"
  let place :=
    if e.first == e.last then " 0x" ++ octet ++ " in position " ++ toString e.first
    else "s in position " ++ toString e.first ++ "-" ++ toString e.last
  what ++ place ++ ": " ++ e.cause.message

/-- How many octets follow a lead octet, and between which bounds the first of them lies. -/
def followers? (lead : Nat) : Option (Nat × Nat × Nat) :=
  if lead < 0x80 then some (0, 0x80, 0xBF)
  else if lead < 0xC2 then none
  else if lead < 0xE0 then some (1, 0x80, 0xBF)
  else if lead == 0xE0 then some (2, 0xA0, 0xBF)
  else if lead == 0xED then some (2, 0x80, 0x9F)
  else if lead < 0xF0 then some (2, 0x80, 0xBF)
  else if lead == 0xF0 then some (3, 0x90, 0xBF)
  else if lead < 0xF4 then some (3, 0x80, 0xBF)
  else if lead == 0xF4 then some (3, 0x80, 0x8F)
  else none

/-- The bits of a lead octet that belong to the character. -/
def leadBits (lead count : Nat) : Nat :=
  match count with
  | 0 => lead
  | 1 => lead % 0x20
  | 2 => lead % 0x10
  | _ => lead % 0x08

/-- Takes `count` continuation octets; the first lies between `low` and `high`. Without success, how
many fitted and whether the octets ended. -/
def continuation : Nat → Nat → Nat → Nat → Nat → List UInt8 → Except (Nat × Bool) (Nat × List UInt8)
  | 0, _, _, code, _, rest => .ok (code, rest)
  | count + 1, low, high, code, taken, rest =>
    match rest with
    | [] => .error (taken, true)
    | b :: rest =>
      if low ≤ b.toNat && b.toNat ≤ high then
        continuation count 0x80 0xBF (code * 64 + b.toNat % 64) (taken + 1) rest
      else .error (taken, false)

/-- Decodes from an offset on, for at most `fuel` characters. -/
def decodeFrom : Nat → Nat → List UInt8 → List Char → Except OctetFault (List Char)
  | 0, _, _, done => .ok done.reverse
  | fuel + 1, offset, octets, done =>
    match octets with
    | [] => .ok done.reverse
    | lead :: rest => match followers? lead.toNat with
      | none => .error ⟨.invalidStart, offset, offset, lead⟩
      | some (count, low, high) =>
        match continuation count low high (leadBits lead.toNat count) 0 rest with
        | .ok (code, rest) => decodeFrom fuel (offset + count + 1) rest (Char.ofNat code :: done)
        | .error (taken, ended) =>
          .error ⟨if ended then .endOfData else .invalidContinuation, offset, offset + taken, lead⟩

/-- The text that octets encode. -/
def decodeOctets (octets : List UInt8) : Except OctetFault String :=
  (decodeFrom octets.length 0 octets []).map String.ofList

end RuleBench.Text
