import StageGraph.Distinct

/-!
# Punycode

Texts of any script in letters, digits and hyphens of ASCII.  The plain characters
come first.  The others follow by their codes, and by their places where the codes
are equal; each is written as the number of steps from the one before.  A number
ends with the first digit below the threshold of its place, and the thresholds
adapt to the numbers so far.
-/

namespace StageGraph.Text.Punycode

/-- The digit for a number below 36. -/
def digit (n : Nat) : Char :=
  Char.ofNat (if n < 26 then 97 + n else 22 + n)

/-- The threshold of a place under a bias. -/
def threshold (bias place : Nat) : Nat :=
  max 1 (min 26 (place - bias))

/-- The digits of a number from a place on, the least first. -/
def digits (bias place n : Nat) : List Char :=
  if n < threshold bias place then [digit n]
  else
    let above := n - threshold bias place
    let radix := 36 - threshold bias place
    digit (threshold bias place + above % radix) :: digits bias (place + 36) (above / radix)
termination_by n
decreasing_by
  have positive : 1 ≤ threshold bias place := Nat.le_max_left _ _
  have shrinks := Nat.div_le_self (n - threshold bias place) (36 - threshold bias place)
  omega

/-- The bias for numbers of a size. -/
def biasFor (bias size : Nat) : Nat :=
  if 455 < size then biasFor (bias + 36) (size / 35) else bias + 36 * size / (size + 38)
termination_by size

/-- The bias after a number that puts the count of characters written to `written`. -/
def adapt (number written : Nat) (isFirst : Bool) : Nat :=
  let damped := number / (if isFirst then 700 else 2)
  biasFor 0 (damped + damped / written)

/-- How far the writing has come: the digits, the steps since the last number, the bias, and the
count of characters written. -/
structure Progress where
  output : List Char := []
  steps : Nat := 0
  bias : Nat := 72
  written : Nat
  deriving Repr

/-- Pass a character on the way round for a code, and write it if it has that code. -/
def pass (plain code : Nat) (progress : Progress) (c : Char) : Progress :=
  if c.toNat < code then { progress with steps := progress.steps + 1 }
  else if c.toNat = code then
    { output := progress.output ++ digits progress.bias 36 progress.steps
      bias := adapt progress.steps (progress.written + 1) (progress.written = plain)
      written := progress.written + 1 }
  else progress

/-- Write all characters of a code; `next` is the least code that has not been looked for. -/
def writeCode (text : List Char) (plain : Nat) (state : Progress × Nat) (code : Nat) :
    Progress × Nat :=
  let (progress, next) := state
  let skipped := (code - next) * (progress.written + 1)
  let progress :=
    text.foldl (pass plain code) { progress with steps := progress.steps + skipped }
  ({ progress with steps := progress.steps + 1 }, code + 1)

/-- Whether a character is written as it is. -/
def isPlain (c : Char) : Bool :=
  c.toNat < 128

/-- The codes of the other characters, each once, the least first. -/
def foreignCodes (text : List Char) : List Nat :=
  distinct (((text.filter fun c => !isPlain c).map Char.toNat).mergeSort fun a b => a ≤ b)

/-- A text in ASCII. -/
def encode (text : List Char) : List Char :=
  let plain := text.filter isPlain
  let (progress, _) :=
    (foreignCodes text).foldl (writeCode text plain.length) ({ written := plain.length }, 128)
  plain ++ (if plain.isEmpty then [] else ['-']) ++ progress.output

end StageGraph.Text.Punycode
