import StageGraph.Text.Utf8

/-!
# Encodings of documents

A document comes in UTF-8, UTF-16 or UTF-32.  Which one it is shows in a byte
order mark at its start or, since its first two characters are ASCII, in the
places of its first zero octets.
-/

namespace StageGraph.Text

/-- An encoding of characters as octets. -/
inductive Encoding where
  | utf8
  | utf16 (bigEndian : Bool)
  | utf32 (bigEndian : Bool)
  deriving DecidableEq, Repr

namespace Encoding

/-- The byte order marks.  Of two marks that fit the longer one stands first. -/
def marks : List (Octets × Encoding) := [
  ([0x00, 0x00, 0xFE, 0xFF], .utf32 true), ([0xFF, 0xFE, 0x00, 0x00], .utf32 false),
  ([0xFE, 0xFF], .utf16 true), ([0xFF, 0xFE], .utf16 false), ([0xEF, 0xBB, 0xBF], .utf8)]

/-- The encoding that the zeros among the first octets tell. -/
def ofZeros : Octets → Encoding
  | a :: b :: c :: d :: _ =>
    if a = 0 then (if b = 0 then .utf32 true else .utf16 true)
    else if b = 0 then (if c = 0 && d = 0 then .utf32 false else .utf16 false)
    else .utf8
  | [a, b] =>
    if a = 0 then .utf16 true
    else if b = 0 then .utf16 false
    else .utf8
  | _ => .utf8

/-- The encoding of a document, and its octets after the mark. -/
def detect (octets : Octets) : Encoding × Octets :=
  match marks.find? fun mark => mark.1.isPrefixOf octets with
  | some (mark, encoding) => (encoding, octets.drop mark.length)
  | none => (ofZeros octets, octets)

/-- The number that two octets make. -/
def joinPair (bigEndian : Bool) (first second : UInt8) : Nat :=
  if bigEndian then first.toNat * 256 + second.toNat else second.toNat * 256 + first.toNat

/-- The 16-bit units of some octets. -/
def units16? (bigEndian : Bool) : Octets → Option (List Nat)
  | [] => some []
  | [_] => none
  | a :: b :: rest => (units16? bigEndian rest).map (joinPair bigEndian a b :: ·)

/-- The 32-bit units of some octets. -/
def units32? (bigEndian : Bool) : Octets → Option (List Nat)
  | [] => some []
  | a :: b :: c :: d :: rest =>
    let unit :=
      if bigEndian then joinPair true a b * 65536 + joinPair true c d
      else joinPair false c d * 65536 + joinPair false a b
    (units32? bigEndian rest).map (unit :: ·)
  | _ => none

/-- The character of a code point. -/
def char? (code : Nat) : Option Char :=
  if code.isValidChar then some (Char.ofNat code) else none

/-- The characters of 16-bit units; surrogates have to come in pairs. -/
def chars16? : List Nat → Option (List Char)
  | [] => some []
  | [unit] => (char? unit).map fun c => [c]
  | unit :: next :: rest =>
    if 0xD800 ≤ unit ∧ unit < 0xDC00 ∧ 0xDC00 ≤ next ∧ next < 0xE000 then do
      let c ← char? (0x10000 + (unit - 0xD800) * 0x400 + (next - 0xDC00))
      return c :: (← chars16? rest)
    else do
      let c ← char? unit
      return c :: (← chars16? (next :: rest))

/-- The text of octets in an encoding. -/
def decode? (encoding : Encoding) (octets : Octets) : Option String :=
  match encoding with
  | .utf8 => Utf8.decode? octets
  | .utf16 bigEndian => do
    return String.ofList (← chars16? (← units16? bigEndian octets))
  | .utf32 bigEndian => do
    return String.ofList (← (← units32? bigEndian octets).mapM char?)

end Encoding

/-- The text of a document in any of the encodings. -/
def decodeDocument? (octets : Octets) : Option String :=
  let (encoding, octets) := Encoding.detect octets
  encoding.decode? octets

end StageGraph.Text
