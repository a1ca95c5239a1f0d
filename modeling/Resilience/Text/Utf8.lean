/-! # UTF-8

Bytes decoded character by character. Only the shortest form of a code point is accepted, and no
surrogates.
-/
namespace Resilience.Text

def continuation? (b : UInt8) : Option Nat :=
  if 0x80 ≤ b.toNat ∧ b.toNat < 0xC0 then some (b.toNat - 0x80) else none

/-- A character of more than one byte from its payload, if it needs that many bytes. -/
def multibyte? (least n : Nat) : Option Char :=
  if least ≤ n ∧ n.isValidChar then some (Char.ofNat n) else none

def firstChar? : List UInt8 → Option (Char × List UInt8)
  | [] => none
  | a :: bs =>
    let n := a.toNat
    if n < 0x80 then some (Char.ofNat n, bs)
    else if n < 0xC0 then none
    else if n < 0xE0 then
      match bs with
      | b :: bs => do
        let c ← multibyte? 0x80 ((n - 0xC0) * 0x40 + (← continuation? b))
        pure (c, bs)
      | [] => none
    else if n < 0xF0 then
      match bs with
      | b :: c :: bs => do
        let d ← multibyte? 0x800
          (((n - 0xE0) * 0x40 + (← continuation? b)) * 0x40 + (← continuation? c))
        pure (d, bs)
      | _ => none
    else
      match bs with
      | b :: c :: d :: bs => do
        let e ← multibyte? 0x10000 ((((n - 0xF0) * 0x40 + (← continuation? b)) * 0x40 +
          (← continuation? c)) * 0x40 + (← continuation? d))
        pure (e, bs)
      | _ => none

/-- The characters of some bytes, with so many steps allowed; a byte that begins none is replaced
by the given text. -/
def decodeFrom (substitute : List Char) : Nat → List UInt8 → List Char
  | 0, _ => []
  | _, [] => []
  | fuel + 1, b :: bs =>
    match firstChar? (b :: bs) with
    | some (c, rest) => c :: decodeFrom substitute fuel rest
    | none => substitute ++ decodeFrom substitute fuel bs

def validFrom : Nat → List UInt8 → Bool
  | 0, bs => bs.isEmpty
  | _, [] => true
  | fuel + 1, bs =>
    match firstChar? bs with
    | some (_, rest) => validFrom fuel rest
    | none => false

def decodeWith (substitute : List Char) (bs : List UInt8) : List Char :=
  decodeFrom substitute bs.length bs

def decode? (bs : List UInt8) : Option String :=
  if validFrom bs.length bs then some (String.ofList (decodeWith [] bs)) else none

end Resilience.Text
