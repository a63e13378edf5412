import StageGraph.Text.Case
import StageGraph.Text.Quoted

/-!
# Log levels

How grave a message is, and how grave it has to be to be written.
-/

namespace StageGraph

/-- The grades of messages. -/
inductive LogLevel where
  | unset
  | debug
  | info
  | warning
  | error
  | critical
  deriving DecidableEq, Repr

namespace LogLevel

def name : LogLevel → String
  | .unset => "NOTSET"
  | .debug => "DEBUG"
  | .info => "INFO"
  | .warning => "WARNING"
  | .error => "ERROR"
  | .critical => "CRITICAL"

def rank : LogLevel → Nat
  | .unset => 0
  | .debug => 10
  | .info => 20
  | .warning => 30
  | .error => 40
  | .critical => 50

/-- The levels that settings may name. -/
def settable : List LogLevel :=
  [.debug, .info, .warning, .error, .critical]

/-- The settable level of a name, written in any case. -/
def ofSetting? (text : String) : Option LogLevel :=
  settable.find? fun level => level.name = Text.upper text

/-- Further names of levels. -/
def otherNames : List (String × LogLevel) :=
  [("NOTSET", .unset), ("WARN", .warning), ("FATAL", .critical)]

/-- The level of any of its names, written in any case. -/
def ofName? (text : String) : Option LogLevel :=
  (ofSetting? text).orElse fun _ => otherNames.lookup (Text.upper text)

/-- Why a word cannot stand for a level. -/
inductive Misuse where
  /-- The word stands for a text, which is then taken for the name of a level. -/
  | unknown (name : String)
  /-- The word stands for something that is no name at all. -/
  | noName
  deriving DecidableEq, Repr

/-- The wording of a misuse. -/
def Misuse.message : Misuse → String
  | .unknown name => "Unknown level: " ++ Text.Quoted.quote name
  | .noName => "Level not an integer or a valid string"

/-- The words that stand for something else than a level: the plain form of a line, and the
table of the styles that forms are written in. -/
def reserved : List (String × Misuse) :=
  [("BASIC_FORMAT", .unknown "%(levelname)s:%(name)s:%(message)s"), ("_STYLES", .noName)]

/-- The level that a word asks for; any word that says nothing is done without. -/
def ofWord (text : String) (otherwise : LogLevel) : Except Misuse LogLevel :=
  match reserved.lookup (Text.upper text) with
  | some misuse => .error misuse
  | none => .ok ((ofName? text).getD otherwise)

end LogLevel

end StageGraph
