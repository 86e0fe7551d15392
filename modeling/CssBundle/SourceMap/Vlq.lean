import CssBundle.SourceMap.Error

/-!
# Base64 variable-length quantities

A source map writes each number of a mapping as a base64 VLQ. The sign goes into the lowest bit
(`2n` for `n ≥ 0`, `2|n| + 1` for `n < 0`), and the result is cut into 5-bit digits, lowest
first. Each digit becomes one character of the base64 alphabet `A–Z a–z 0–9 + /`, with 32 added
to every digit but the last.

Decoding reads a segment byte by byte. A byte outside the alphabet is an error naming that byte as
a character (so the first byte of a multi-byte character shows as the Latin-1 character with
that code). A value is refused as soon as its running total passes `2 ^ 32 - 1` or it needs more
than eight digits, and a segment that ends inside a value is cut short.
-/

namespace CssBundle.SourceMap.Vlq

def digitChar (d : Nat) : Char :=
  if d < 26 then Char.ofNat (65 + d)
  else if d < 52 then Char.ofNat (97 + (d - 26))
  else if d < 62 then Char.ofNat (48 + (d - 52))
  else if d = 62 then '+' else '/'

def digitOf (b : Nat) : Option Nat :=
  if 65 ≤ b ∧ b ≤ 90 then some (b - 65)
  else if 97 ≤ b ∧ b ≤ 122 then some (b - 97 + 26)
  else if 48 ≤ b ∧ b ≤ 57 then some (b - 48 + 52)
  else if b = 43 then some 62
  else if b = 47 then some 63
  else none

/-- The digits of a natural number, lowest first, with the continuation mark on all but the
last. -/
def encodeNat (n : Nat) : List Char :=
  if h : n < 32 then [digitChar n]
  else digitChar (n % 32 + 32) :: encodeNat (n / 32)
termination_by n
decreasing_by omega

def zigzag (v : Int) : Nat := if v < 0 then 2 * v.natAbs + 1 else 2 * v.natAbs

def encode (v : Int) : String := String.ofList (encodeNat (zigzag v))

def encodeAll (vs : List Int) : String := String.join (vs.map encode)

def unzigzag (n : Nat) : Int := if n % 2 = 1 then -((n / 2 : Nat) : Int) else ((n / 2 : Nat) : Int)

/-- Decodes the bytes of a segment. `total` and `shift` describe the value being read, and
`inside` tells whether one is being read at all. -/
def decodeBytes : List Nat → List Int → Nat → Nat → Bool → Except MapError (List Int)
  | [], acc, _, _, inside => if inside then .error .unterminatedVlq else .ok acc.reverse
  | b :: rest, acc, total, shift, _ =>
    match digitOf b with
    | none => .error (.invalidBase64 (Char.ofNat b))
    | some d =>
      let total := total + (d % 32) <<< shift
      if total > UInt32.size - 1 then .error .vlqOverflow
      else if d < 32 then decodeBytes rest (unzigzag total :: acc) 0 0 false
      else if shift + 5 > 35 then .error .vlqOverflow
      else decodeBytes rest acc total (shift + 5) true

def decode (segment : String) : Except MapError (List Int) :=
  decodeBytes (segment.toUTF8.data.toList.map UInt8.toNat) [] 0 0 false

@[simp] theorem unzigzag_zigzag (v : Int) : unzigzag (zigzag v) = v := by
  unfold zigzag unzigzag
  split <;> split <;> omega

end CssBundle.SourceMap.Vlq
