/-!
# UTF-8

Characters as octets and back.  Reading goes octet by octet and marks every
ill-formed part: an octet that starts nothing, and the longest start of a
character that breaks off, count as one part each.  `decode?` refuses a text with
such a part and `repair` puts the replacement character in its place.
-/

namespace StageGraph

/-- A sequence of octets. -/
abbrev Octets := List UInt8

namespace Text.Utf8

/-- The octets of a code point. -/
def encodeCode (code : Nat) : List Nat :=
  if code < 0x80 then [code]
  else if code < 0x800 then [0xC0 + code / 64, 0x80 + code % 64]
  else if code < 0x10000 then
    [0xE0 + code / 4096, 0x80 + code / 64 % 64, 0x80 + code % 64]
  else
    [0xF0 + code / 262144, 0x80 + code / 4096 % 64, 0x80 + code / 64 % 64, 0x80 + code % 64]

/-- The octets of a character. -/
def encodeChar (c : Char) : Octets :=
  (encodeCode c.toNat).map UInt8.ofNat

/-- The octets of a text. -/
def encode (text : String) : Octets :=
  text.toList.flatMap encodeChar

/-- A character that has begun: how many octets it still needs, the bounds of the next one,
and the bits so far. -/
structure Pending where
  owed : Nat
  low : Nat := 0x80
  high : Nat := 0xBF
  code : Nat
  deriving DecidableEq, Repr

/-- What the first octet of a longer character promises. -/
def begin? (octet : Nat) : Option Pending :=
  if octet < 0xC2 then none
  else if octet < 0xE0 then some { owed := 1, code := octet - 0xC0 }
  else if octet = 0xE0 then some { owed := 2, low := 0xA0, code := 0 }
  else if octet = 0xED then some { owed := 2, high := 0x9F, code := 0xD }
  else if octet < 0xF0 then some { owed := 2, code := octet - 0xE0 }
  else if octet = 0xF0 then some { owed := 3, low := 0x90, code := 0 }
  else if octet < 0xF4 then some { owed := 3, code := octet - 0xF0 }
  else if octet = 0xF4 then some { owed := 3, high := 0x8F, code := 4 }
  else none

/-- What an octet between characters gives, and what it leaves open; `none` marks an
ill-formed part. -/
def between (octet : Nat) : List (Option Char) × Option Pending :=
  if octet < 0x80 then
    ([some (Char.ofNat octet)], none)
  else
    match begin? octet with
    | some pending => ([], some pending)
    | none => ([none], none)

/-- What an octet gives after what is open, and what it leaves open. -/
def step (state : Option Pending) (octet : Nat) : List (Option Char) × Option Pending :=
  match state with
  | none => between octet
  | some pending =>
    if pending.low ≤ octet ∧ octet ≤ pending.high then
      let code := pending.code * 64 + (octet - 0x80)
      if pending.owed = 1 then
        ([some (Char.ofNat code)], none)
      else
        ([], some { owed := pending.owed - 1, code := code })
    else
      let (parts, state) := between octet
      (none :: parts, state)

/-- The characters of some octets after what is open, with a mark for every ill-formed part. -/
def parts (state : Option Pending) : Octets → List (Option Char)
  | [] => if state.isSome then [none] else []
  | octet :: rest =>
    let (found, state) := step state octet.toNat
    found ++ parts state rest

/-- The text of well-formed octets. -/
def decode? (octets : Octets) : Option String :=
  ((parts none octets).mapM id).map String.ofList

/-- The text of octets with the replacement character for every ill-formed part. -/
def repair (octets : Octets) : String :=
  String.ofList ((parts none octets).map fun part => part.getD '\ufffd')

end Text.Utf8

end StageGraph
