import StageGraph.Value

/-!
# Reading JSON

`Json.read` turns a JSON text into a value.  Numbers with a point or an exponent
become binary numbers and all others integers of any size; `NaN`, `Infinity` and
`-Infinity` are read too.  Of a repeated name the last value counts, at the place
of the first.  A text that is not JSON is refused with the cause and the offset,
counted in characters, at which reading stopped.  How deep a document may nest is
up to the reader's `Tolerance`.

Texts are in Unicode, and half of a surrogate pair is no character.  Where one stands
alone, a document is refused or the replacement character is read, as the reader's
tolerance has it.
-/

namespace StageGraph.Json

/-- Why a text is not JSON. -/
inductive Fault where
  | expectingValue
  | expectingName
  | expectingColon
  | expectingComma
  | unterminatedText
  | controlCharacter
  | badEscape
  | badUnicodeEscape
  | extraData
  | tooManyDigits
  | tooDeep
  | loneSurrogate
  deriving DecidableEq, Repr

/-- The wording of a fault. -/
def Fault.message : Fault → String
  | .expectingValue => "Expecting value"
  | .expectingName => "Expecting property name enclosed in double quotes"
  | .expectingColon => "Expecting ':' delimiter"
  | .expectingComma => "Expecting ',' delimiter"
  | .unterminatedText => "Unterminated string starting at"
  | .controlCharacter => "Invalid control character at"
  | .badEscape => "Invalid \\escape"
  | .badUnicodeEscape => "Invalid \\uXXXX escape"
  | .extraData => "Extra data"
  | .tooManyDigits => "Exceeds the limit for integer digits"
  | .tooDeep => "Nested too deeply"
  | .loneSurrogate => "Surrogate without its other half"

/-- A fault and the offset at which it was met. -/
structure ReadError where
  fault : Fault
  offset : Nat
  deriving DecidableEq, Repr

/-- What a reader lets pass. -/
structure Tolerance where
  /-- How many lists and records may nest, empty ones aside. -/
  depth : Nat
  /-- Whether half of a surrogate pair may stand alone, to be replaced. -/
  loneSurrogates : Bool := true
  deriving DecidableEq, Repr

/-- The tolerance of a reader who keeps a text in memory as it comes. -/
def Tolerance.usual : Tolerance := { depth := 960 }

/-- The usual tolerance, but towards documents in Unicode alone. -/
def Tolerance.unicode : Tolerance := { Tolerance.usual with loneSurrogates := false }

/-- The tolerance towards stored documents. -/
def Tolerance.stored : Tolerance := { depth := 200, loneSurrogates := false }

/-- The tolerance that only the length of a text bounds. -/
def Tolerance.full (text : String) : Tolerance := { depth := text.length + 1 }

/-- A fault and how many characters were left when it was met. -/
abbrev Stop := Fault × Nat

/-- What a reading step gives: usually what it read, paired with the rest of the text. -/
abbrev Reading := Except Stop

private def stop {α : Type} (fault : Fault) (rest : List Char) : Reading (α × List Char) :=
  .error (fault, rest.length)

/-- The characters that may stand between the parts of a document. -/
def isSpace (c : Char) : Bool :=
  c = ' ' || c = '\t' || c = '\n' || c = '\r'

def skipSpace (cs : List Char) : List Char :=
  cs.dropWhile isSpace

def hexCode? (a b c d : Char) : Option Nat := do
  let high ← Text.Quoted.hexValue? a
  let upper ← Text.Quoted.hexValue? b
  let lower ← Text.Quoted.hexValue? c
  let low ← Text.Quoted.hexValue? d
  return ((high * 16 + upper) * 16 + lower) * 16 + low

/-- The character that a single-letter escape names. -/
def escapeCode? (c : Char) : Option Nat :=
  if c = '\x22' || c = '\\' || c = '/' then some c.toNat
  else if c = 'b' then some 8
  else if c = 'f' then some 12
  else if c = 'n' then some 10
  else if c = 'r' then some 13
  else if c = 't' then some 9
  else none

/-- The fault of a text that does not end; what follows its opening quote is `start`. -/
private def unterminated {α : Type} (start : List Char) : Reading α :=
  .error (.unterminatedText, start.length + 1)

/-- The code units of a text after its opening quote; the whole text is `start`. -/
def readUnits (start : List Char) : List Char → Reading (List Nat × List Char)
  | [] => unterminated start
  | '\x22' :: rest => .ok ([], rest)
  | '\\' :: [] => unterminated start
  | '\\' :: 'u' :: a :: b :: c :: d :: next :: rest =>
    match hexCode? a b c d with
    | none => stop .badUnicodeEscape ('u' :: a :: b :: c :: d :: next :: rest)
    | some code => do
      let (units, after) ← readUnits start (next :: rest)
      return (code :: units, after)
  | '\\' :: 'u' :: rest => stop .badUnicodeEscape ('u' :: rest)
  | '\\' :: c :: rest =>
    match escapeCode? c with
    | none => stop .badEscape ('\\' :: c :: rest)
    | some code => do
      let (units, after) ← readUnits start rest
      return (code :: units, after)
  | c :: rest =>
    if c.toNat < 32 then
      stop .controlCharacter (c :: rest)
    else do
      let (units, after) ← readUnits start rest
      return (c.toNat :: units, after)

def isHigh (unit : Nat) : Bool :=
  0xD800 ≤ unit && unit < 0xDC00

def isLow (unit : Nat) : Bool :=
  0xDC00 ≤ unit && unit < 0xE000

/-- Whether every surrogate unit stands in a pair. -/
def arePaired : List Nat → Bool
  | [] => true
  | [unit] => !(isHigh unit || isLow unit)
  | unit :: next :: rest =>
    if isHigh unit && isLow next then arePaired rest
    else !(isHigh unit || isLow unit) && arePaired (next :: rest)

/-- Join pairs of surrogate units; one that stands alone becomes the replacement character. -/
def joinUnits : List Nat → List Char
  | [] => []
  | [unit] => [if isHigh unit || isLow unit then '\ufffd' else Char.ofNat unit]
  | unit :: next :: rest =>
    if isHigh unit && isLow next then
      Char.ofNat (0x10000 + (unit - 0xD800) * 0x400 + (next - 0xDC00)) :: joinUnits rest
    else if isHigh unit || isLow unit then
      '\ufffd' :: joinUnits (next :: rest)
    else
      Char.ofNat unit :: joinUnits (next :: rest)

/-- A text after its opening quote. -/
def readText (lone : Bool) (rest : List Char) : Reading (String × List Char) := do
  let (units, after) ← readUnits rest rest
  if lone || arePaired units then return (String.ofList (joinUnits units), after)
  else stop .loneSurrogate rest

/-- The value of a run of decimal digits. -/
def digitsValue (digits : List Char) : Nat :=
  digits.foldl (fun value c => value * 10 + (c.toNat - 48)) 0

/-- The digits of an exponent with its sign, when there are any. -/
def readExponent? (cs : List Char) : Option (Int × List Char) :=
  match cs with
  | 'e' :: rest | 'E' :: rest =>
    let (negative, rest) := match rest with
      | '-' :: more => (true, more)
      | '+' :: more => (false, more)
      | more => (false, more)
    let digits := rest.takeWhile Char.isDigit
    if digits.isEmpty then
      none
    else
      let power : Int := digitsValue digits
      some (if negative then -power else power, rest.dropWhile Char.isDigit)
  | _ => none

/-- The digits of a fraction, when a point with a digit after it comes. -/
def readFraction? (cs : List Char) : Option (List Char × List Char) :=
  match cs with
  | '.' :: rest =>
    let digits := rest.takeWhile Char.isDigit
    if digits.isEmpty then none else some (digits, rest.dropWhile Char.isDigit)
  | _ => none

/-- The digits before the point: a zero stands alone. -/
def readWhole (cs : List Char) : List Char × List Char :=
  match cs with
  | '0' :: rest => (['0'], rest)
  | _ => (cs.takeWhile Char.isDigit, cs.dropWhile Char.isDigit)

/-- A number. -/
def readNumber (cs : List Char) : Reading (Number × List Char) :=
  let (negative, unsigned) := match cs with
    | '-' :: rest => (true, rest)
    | _ => (false, cs)
  let (whole, afterWhole) := readWhole unsigned
  if whole.isEmpty then
    stop .expectingValue cs
  else
    let (fraction, afterFraction) := (readFraction? afterWhole).getD ([], afterWhole)
    match readExponent? afterFraction with
    | some (power, rest) =>
      .ok (.real (.ofDecimal negative (digitsValue (whole ++ fraction))
        (power - fraction.length)), rest)
    | none =>
      if !fraction.isEmpty then
        .ok (.real (.ofDecimal negative (digitsValue (whole ++ fraction))
          (-(fraction.length : Int))), afterFraction)
      else if Number.digitLimit < whole.length then
        stop .tooManyDigits cs
      else
        let value : Int := digitsValue whole
        .ok (.integer (if negative then -value else value), afterWhole)

/-- The rest after a fixed word. -/
def afterWord? (word : List Char) (cs : List Char) : Option (List Char) :=
  if word.isPrefixOf cs then some (cs.drop word.length) else none

/-- The fixed words and their values. -/
def words : List (List Char × Value) := [
  ("null".toList, .null), ("true".toList, .bool true), ("false".toList, .bool false),
  ("NaN".toList, .number (.real .nan)), ("Infinity".toList, .number (.real (.infinity false))),
  ("-Infinity".toList, .number (.real (.infinity true)))]

mutual

/-- A value; `fuel` bounds the calls that nest inside it, `depth` the lists and records. -/
def readValue (lone : Bool) : Nat → Nat → List Char → Reading (Value × List Char)
  | 0, _, cs => stop .expectingValue cs
  | fuel + 1, depth, cs =>
    match cs with
    | '\x22' :: rest => do
      let (text, after) ← readText lone rest
      return (.text text, after)
    | '[' :: rest =>
      match skipSpace rest, depth with
      | ']' :: after, _ => .ok (.list [], after)
      | start, 0 => stop .tooDeep start
      | start, depth + 1 => do
        let (items, after) ← readItems lone fuel depth start
        return (.list items, after)
    | '\x7b' :: rest =>
      match skipSpace rest, depth with
      | '\x7d' :: after, _ => .ok (.record [], after)
      | start, 0 => stop .tooDeep start
      | start, depth + 1 => do
        let (entries, after) ← readEntries lone fuel depth start
        return (.record (Ledger.putAll [] entries), after)
    | _ =>
      match words.findSome? fun word => (afterWord? word.1 cs).map fun rest => (word.2, rest) with
      | some found => .ok found
      | none => do
        let (number, after) ← readNumber cs
        return (.number number, after)

/-- The items of a list up to its end. -/
def readItems (lone : Bool) : Nat → Nat → List Char → Reading (List Value × List Char)
  | 0, _, cs => stop .expectingValue cs
  | fuel + 1, depth, cs => do
    let (item, after) ← readValue lone fuel depth cs
    match skipSpace after with
    | ']' :: rest => .ok ([item], rest)
    | ',' :: rest => do
      let (items, rest) ← readItems lone fuel depth (skipSpace rest)
      return (item :: items, rest)
    | rest => stop .expectingComma rest

/-- The entries of a record up to its end. -/
def readEntries (lone : Bool) : Nat → Nat → List Char → Reading (List (String × Value) × List Char)
  | 0, _, cs => stop .expectingValue cs
  | fuel + 1, depth, cs =>
    match cs with
    | '\x22' :: rest => do
      let (name, after) ← readText lone rest
      match skipSpace after with
      | ':' :: rest => do
        let (value, after) ← readValue lone fuel depth (skipSpace rest)
        match skipSpace after with
        | '\x7d' :: rest => .ok ([(name, value)], rest)
        | ',' :: rest => do
          let (entries, rest) ← readEntries lone fuel depth (skipSpace rest)
          return ((name, value) :: entries, rest)
        | rest => stop .expectingComma rest
      | rest => stop .expectingColon rest
    | _ => stop .expectingName cs

end

/-- A whole document. -/
def readDocument (tolerance : Tolerance) (cs : List Char) : Reading Value := do
  let (value, after) ←
    readValue tolerance.loneSurrogates (2 * cs.length + 2) tolerance.depth (skipSpace cs)
  match skipSpace after with
  | [] => return value
  | rest => .error (.extraData, rest.length)

/-- The value of a JSON text. -/
def read (text : String) (tolerance : Tolerance := .full text) : Except ReadError Value :=
  let cs := text.toList
  match readDocument tolerance cs with
  | .ok value => .ok value
  | .error (fault, left) => .error { fault := fault, offset := cs.length - left }

end StageGraph.Json
