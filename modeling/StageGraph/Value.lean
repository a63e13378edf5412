import StageGraph.Ledger
import StageGraph.Number.Basic
import StageGraph.Text.Quoted

/-!
# Configuration values

What a configuration may hold: null, truth values, numbers, texts, lists and
records, and texts that name a declared constant.  `display` is the text that a
template inserts, `quoted` the form inside lists and records, `agrees` the
equality by which choices and conditions are judged.

An integer of more than `Number.digitLimit` digits has no text: whoever asks for it
fails.  `display` and `quoted` give the digits all the same, so they are the texts of
those values only that `hasText` admits.  Configurations that come as JSON hold no
others, since the readers have the same limit.
-/

namespace StageGraph

/-- A text that stands for a member of a declared family of names. -/
structure Constant where
  family : String
  name : String
  text : String
  deriving DecidableEq, Repr

/-- A value of a configuration. -/
inductive Value where
  | null
  | bool (truth : Bool)
  | number (n : Number)
  | text (text : String)
  | constant (c : Constant)
  | list (items : List Value)
  | record (entries : List (String × Value))
  deriving Repr, Inhabited

/-- A configuration: values under keys. -/
abbrev Config := Ledger Value

namespace Value

instance : Coe String Value := ⟨Value.text⟩

/-- A whole number. -/
def int (n : Int) : Value :=
  .number (.integer n)

/-- The text of a text or of a constant. -/
def asText? : Value → Option String
  | .text content => some content
  | .constant c => some c.text
  | _ => none

/-- Everything is true but null, false, zero and what is empty. -/
def truthy : Value → Bool
  | .null => false
  | .bool truth => truth
  | .number n => !n.isZero
  | .text content => content ≠ ""
  | .constant c => c.text ≠ ""
  | .list items => !items.isEmpty
  | .record entries => !entries.isEmpty

/-- Null, the empty text and the empty list count as not filled in. -/
def isUnset : Value → Bool
  | .null => true
  | .text content => content = ""
  | .constant c => c.text = ""
  | .list items => items.isEmpty
  | _ => false

/-- Whether a value can be looked up, as a key or in a set; lists and records cannot. -/
def isKey : Value → Bool
  | .list _ | .record _ => false
  | _ => true

/-- The number that a truth value or a number stands for. -/
def asNumber? : Value → Option Number
  | .bool truth => some (.integer (if truth then 1 else 0))
  | .number n => some n
  | _ => none

mutual

/-- Equality of values: numbers by value, with truth values as zero and one, texts by
their characters, records without regard to order. -/
def agrees : Value → Value → Bool
  | .null, .null => true
  | .list left, .list right => agreesAll left right
  | .record left, .record right => left.length == right.length && agreesEach left right
  | .bool a, .bool b => a == b
  | .bool a, .number n => (Number.integer (if a then 1 else 0)).agrees n
  | .number n, .bool b => n.agrees (.integer (if b then 1 else 0))
  | .number n, .number m => n.agrees m
  | .text a, .text b => a == b
  | .text a, .constant b => a == b.text
  | .constant a, .text b => a.text == b
  | .constant a, .constant b => a.text == b.text
  | _, _ => false

/-- Equality of lists, place by place. -/
def agreesAll : List Value → List Value → Bool
  | [], [] => true
  | a :: left, b :: right => a.agrees b && agreesAll left right
  | _, _ => false

/-- Whether a record holds equal values under the keys of another. -/
def agreesEach : List (String × Value) → List (String × Value) → Bool
  | [], _ => true
  | (key, value) :: rest, right =>
    (match Ledger.get? right key with
      | some other => value.agrees other
      | none => false) && agreesEach rest right

end

mutual

/-- How deep a value nests; a value without parts counts as one level. -/
def depth : Value → Nat
  | .list items => greatestDepth items + 1
  | .record entries => entriesDepth entries + 1
  | _ => 1

/-- The depth of the deepest item of a list. -/
def greatestDepth : List Value → Nat
  | [] => 0
  | value :: rest => max value.depth (greatestDepth rest)

/-- The depth of the deepest value of a record. -/
def entriesDepth : List (String × Value) → Nat
  | [] => 0
  | (_, value) :: rest => max value.depth (entriesDepth rest)

end

mutual

/-- Whether a value has a text: no integer in it is too long to be written. -/
def hasText : Value → Bool
  | .number n => n.hasText
  | .list items => haveTexts items
  | .record entries => entriesHaveTexts entries
  | _ => true

/-- Whether all items of a list have texts. -/
def haveTexts : List Value → Bool
  | [] => true
  | value :: rest => value.hasText && haveTexts rest

/-- Whether all values of a record have texts. -/
def entriesHaveTexts : List (String × Value) → Bool
  | [] => true
  | (_, value) :: rest => value.hasText && entriesHaveTexts rest

end

/-- Whether some value of the list equals this one. -/
def isAmong (value : Value) (choices : List Value) : Bool :=
  choices.any value.agrees

mutual

/-- The text of a value inside a list or record. -/
def quoted : Value → String
  | .null => "None"
  | .bool truth => if truth then "True" else "False"
  | .number n => n.text
  | .text content => Text.Quoted.quote content
  | .constant c => "<" ++ c.family ++ "." ++ c.name ++ ": " ++ Text.Quoted.quote c.text ++ ">"
  | .list items => "[" ++ Text.join ", " (quotedAll items) ++ "]"
  | .record entries => "\x7b" ++ Text.join ", " (quotedEntries entries) ++ "\x7d"

/-- The texts of list items. -/
def quotedAll : List Value → List String
  | [] => []
  | value :: rest => value.quoted :: quotedAll rest

/-- The texts of record entries. -/
def quotedEntries : List (String × Value) → List String
  | [] => []
  | (key, value) :: rest =>
    (Text.Quoted.quote key ++ ": " ++ value.quoted) :: quotedEntries rest

end

/-- The text of a value on its own: a text is itself. -/
def display : Value → String
  | .text content => content
  | .constant c => c.family ++ "." ++ c.name
  | value => value.quoted

/-- The source form of a value in an emitted script: texts and what lists hold are quoted. -/
def literal : Value → String
  | .text content => Text.Quoted.quote content
  | .constant c => (Value.constant c).quoted
  | value => value.display

/-- The trimmed text of a value, or a fallback for null and for blanks. -/
def textOr (value : Value) (fallback : String) : String :=
  let content := match value with
    | .null => ""
    | value => Text.trimText value.display
  if content = "" then fallback else content

/-- The number in a value; a truth value is none. -/
def numberOr (value : Value) (fallback : Number) : Number :=
  match value with
  | .number n => n
  | _ => fallback

/-- Whether a collection holds a text: a list as an item, a record as a key, a text as a
piece.  Nothing else is a collection. -/
def offers? (collection : Value) (content : String) : Option Bool :=
  match collection with
  | .list items => some ((Value.text content).isAmong items)
  | .record entries => some (Ledger.has entries content)
  | .text whole => some (Text.hasPiece content.toList whole.toList)
  | .constant c => some (Text.hasPiece content.toList c.text.toList)
  | .null | .bool _ | .number _ => none

/-- Whether a value is a collection that holds a text. -/
def offers (value : Value) (content : String) : Bool :=
  (value.offers? content).getD false

/-- A text when a collection offers it, otherwise the fallback; nothing for a text that is to be
found in what is no collection. -/
def choiceOf? (value collection fallback : Value) : Option Value :=
  match value.asText? with
  | some content =>
    (collection.offers? content).map fun found => if found then value else fallback
  | none => some fallback

/-- The text of a value when it is one of the choices, otherwise the fallback. -/
def choiceOr (value : Value) (choices : List String) (fallback : String) : String :=
  match value.asText? with
  | some content => if choices.contains content then content else fallback
  | none => fallback

end Value

namespace Config

/-- The value under a key, null when there is none. -/
def value (config : Config) (key : String) : Value :=
  (Ledger.get? config key).getD .null

/-- The value under a key that may be any value, and names nothing unless it is a text. -/
def valueUnder (config : Config) (key : Value) : Value :=
  (key.asText?.map config.value).getD .null

/-- Whether the value under a key is a given text. -/
def holds (config : Config) (key text : String) : Bool :=
  (config.value key).agrees (.text text)

/-- The number under a key, or a fallback. -/
def number (config : Config) (key : String) (fallback : Number) : Number :=
  (config.value key).numberOr fallback

/-- The choice under a key, or a fallback. -/
def choice (config : Config) (key : String) (choices : List String) (fallback : String) : String :=
  (config.value key).choiceOr choices fallback

/-- Whether the value under a key is true. -/
def isSet (config : Config) (key : String) : Bool :=
  (config.value key).truthy

/-- Whether all values of a configuration have texts. -/
def hasTexts (config : Config) : Bool :=
  config.all fun entry => entry.2.hasText

/-- How deep the values of a configuration may nest that is written. -/
def depthLimit : Nat := 255

/-- Whether a configuration can be written: no value nests too deep. -/
def isWritable (config : Config) : Bool :=
  config.all fun entry => entry.2.depth ≤ depthLimit

end Config

end StageGraph
