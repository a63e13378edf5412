import StageGraph.Value

/-!
# Writing JSON

Two forms: `Json.line` writes a value on one line, with all characters or, as
`Json.compact`, with ASCII characters only, and `Json.document` writes it with one
entry a line, two spaces a level, as stored documents are.  There is no spelling
for infinities and non-numbers, and null is written for them.
-/

namespace StageGraph.Json

/-- An escape with four hexadecimal digits. -/
def unitEscape (unit : Nat) : List Char :=
  '\\' :: 'u' :: Text.Quoted.hexDigits 4 unit

/-- One character of a text; `ascii` escapes whatever is not ASCII. -/
def escapeChar (ascii : Bool) (c : Char) : List Char :=
  if c = '\x22' then ['\\', '\x22']
  else if c = '\\' then ['\\', '\\']
  else if c = '\n' then ['\\', 'n']
  else if c = '\r' then ['\\', 'r']
  else if c = '\t' then ['\\', 't']
  else if c.toNat = 8 then ['\\', 'b']
  else if c.toNat = 12 then ['\\', 'f']
  else if c.toNat < 32 then unitEscape c.toNat
  else if ascii && 126 < c.toNat then
    if c.toNat < 0x10000 then
      unitEscape c.toNat
    else
      unitEscape (0xD800 + (c.toNat - 0x10000) / 0x400) ++
        unitEscape (0xDC00 + (c.toNat - 0x10000) % 0x400)
  else [c]

/-- A text between quotes. -/
def textForm (ascii : Bool) (text : String) : String :=
  "\x22" ++ String.ofList (text.toList.flatMap (escapeChar ascii)) ++ "\x22"

/-- A number in a layout; null stands for what JSON has no number for. -/
def numberForm (layout : Layout) : Number → String
  | .real .nan | .real (.infinity _) => "null"
  | .integer n => toString n
  | .real x => x.exactText layout

/-- Whether JSON has a form for a number. -/
def hasNumberForm : Number → Bool
  | .real .nan | .real (.infinity _) => false
  | _ => true

mutual

/-- Whether JSON has a form for every number in a value. -/
def hasForm : Value → Bool
  | .number n => hasNumberForm n
  | .list items => haveForm items
  | .record entries => entriesHaveForm entries
  | _ => true

/-- Whether JSON has a form for every number in a list. -/
def haveForm : List Value → Bool
  | [] => true
  | value :: rest => hasForm value && haveForm rest

/-- Whether JSON has a form for every number in a record. -/
def entriesHaveForm : List (String × Value) → Bool
  | [] => true
  | (_, value) :: rest => hasForm value && entriesHaveForm rest

end

mutual

/-- What a document keeps of a value: null for infinities and non-numbers. -/
def formOf : Value → Value
  | .number n => if hasNumberForm n then .number n else .null
  | .list items => .list (formsOf items)
  | .record entries => .record (entriesFormOf entries)
  | value => value

/-- What a document keeps of the items of a list. -/
def formsOf : List Value → List Value
  | [] => []
  | value :: rest => formOf value :: formsOf rest

/-- What a document keeps of the entries of a record. -/
def entriesFormOf : List (String × Value) → List (String × Value)
  | [] => []
  | (name, value) :: rest => (name, formOf value) :: entriesFormOf rest

end

mutual

/-- A value on one line; `ascii` escapes whatever is not ASCII. -/
def line (ascii : Bool) : Value → String
  | .null => "null"
  | .bool truth => if truth then "true" else "false"
  | .number n => numberForm Layout.exact n
  | .text text => textForm ascii text
  | .constant c => textForm ascii c.text
  | .list items => "[" ++ Text.join "," (itemLines ascii items) ++ "]"
  | .record entries => "\x7b" ++ Text.join "," (entryLines ascii entries) ++ "\x7d"

/-- The items of a list, each on one line. -/
def itemLines (ascii : Bool) : List Value → List String
  | [] => []
  | value :: rest => line ascii value :: itemLines ascii rest

/-- The entries of a record, each on one line. -/
def entryLines (ascii : Bool) : List (String × Value) → List String
  | [] => []
  | (name, value) :: rest =>
    (textForm ascii name ++ ":" ++ line ascii value) :: entryLines ascii rest

end

/-- A value on one line of ASCII characters. -/
def compact (value : Value) : String :=
  line true value

/-- Lines of a block one level deeper than `level`, between its brackets. -/
def block (level : Nat) (opening closing : String) (parts : List String) : String :=
  if parts.isEmpty then
    opening ++ closing
  else
    let margin := String.ofList (List.replicate (2 * level) ' ')
    opening ++ "\n" ++ margin ++ "  " ++ Text.join (",\n" ++ margin ++ "  ") parts ++
      "\n" ++ margin ++ closing

mutual

/-- A value as part of a document at a level. -/
def documentAt (level : Nat) : Value → String
  | .null => "null"
  | .bool truth => if truth then "true" else "false"
  | .number n => numberForm Layout.stored n
  | .text text => textForm false text
  | .constant c => textForm false c.text
  | .list items => block level "[" "]" (documentItems level items)
  | .record entries => block level "\x7b" "\x7d" (documentEntries level entries)

/-- The items of a list in a document. -/
def documentItems (level : Nat) : List Value → List String
  | [] => []
  | value :: rest => documentAt (level + 1) value :: documentItems level rest

/-- The entries of a record in a document. -/
def documentEntries (level : Nat) : List (String × Value) → List String
  | [] => []
  | (name, value) :: rest =>
    (textForm false name ++ ": " ++ documentAt (level + 1) value) :: documentEntries level rest

end

/-- A value as a stored document. -/
def document (value : Value) : String :=
  documentAt 0 value

end StageGraph.Json
