/-! # Base 64

Characters outside the alphabet are passed over. A pad that completes a group ends the text. -/

namespace StructForge.Text

def sixBits? (c : Char) : Option Nat :=
  if 'A' ≤ c ∧ c ≤ 'Z' then some (c.toNat - 0x41)
  else if 'a' ≤ c ∧ c ≤ 'z' then some (c.toNat - 0x47)
  else if '0' ≤ c ∧ c ≤ '9' then some (c.toNat + 4)
  else if c = '+' then some 62
  else if c = '/' then some 63
  else none

/-- Reads on in a group of which `place` characters were read, the bits left over being `carry`,
after some pads. -/
def base64From (place carry pads : Nat) : List Char → Option (List UInt8)
  | [] => if place = 0 then some [] else none
  | c :: rest =>
    if c = '=' then
      if 2 ≤ place ∧ 4 ≤ place + pads + 1 then some []
      else base64From place carry (if 2 ≤ place then pads + 1 else pads) rest
    else
      match sixBits? c with
      | none => base64From place carry pads rest
      | some bits =>
        match place with
        | 0 => base64From 1 bits 0 rest
        | 1 => (base64From 2 (bits % 16) 0 rest).map (UInt8.ofNat (carry * 4 + bits / 16) :: ·)
        | 2 => (base64From 3 (bits % 4) 0 rest).map (UInt8.ofNat (carry * 16 + bits / 4) :: ·)
        | _ => (base64From 0 0 0 rest).map (UInt8.ofNat (carry * 64 + bits) :: ·)

def base64? (s : String) : Option (List UInt8) := base64From 0 0 0 s.toList

end StructForge.Text
