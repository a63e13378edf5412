import StageGraph.Kind.Basic

/-!
# Splitting data

A split into train and test data, and a second one when part of the training
data is held out for validation.
-/

namespace StageGraph.Kind.DataSplit

/-- A fraction, written in hundredths. -/
def hundredths (n : Nat) : Number :=
  .real (.ofDecimal false n (-2))

def fields : List Field := [
  { key := "trainSize"
    label := "Train Size"
    kind := .number
    initial := .number (hundredths 70)
    required := .bool true
    minimum := .int 0
    maximum := .int 1
    step := .number (hundredths 5) },
  { key := "testSize"
    label := "Test Size"
    kind := .number
    initial := .number (hundredths 30)
    required := .bool true
    minimum := .int 0
    maximum := .int 1
    step := .number (hundredths 5) },
  { key := "validationSize"
    label := "Validation Size"
    kind := .number
    initial := .int 0
    minimum := .int 0
    maximum := .int 1
    step := .number (hundredths 5)
    description := "Fraction held out for validation (0 disables it)." },
  { key := "randomState"
    label := "Random State"
    kind := .number
    initial := .int 42 },
  { key := "stratify"
    label := "Stratify"
    kind := .boolean
    initial := .bool false }]

/-- The lines of the first split. -/
def splitLines (config : Config) : List String :=
  let shown (key : String) : String := (config.value key).display
  let stratify := if config.isSet "stratify" then ",\n    stratify=y" else ""
  [
    "from sklearn.model_selection import train_test_split", "",
    "# Split data into train and test sets",
    "X_train, X_test, y_train, y_test = train_test_split(", "    X, y,",
    "    train_size=" ++ shown "trainSize" ++ ",", "    test_size=" ++ shown "testSize" ++ ",",
    "    random_state=" ++ shown "randomState" ++ stratify, ")", "",
    "print(f\"Train set: \x7blen(X_train)\x7d samples\")",
    "print(f\"Test set: \x7blen(X_test)\x7d samples\")"]

/-- The share of the training data that is held out for validation, to four places, when
both sizes are positive. -/
def validationShare? (config : Config) : Except Failure (Option Binary) :=
  let validation := config.number "validationSize" (.integer 0)
  let train := config.number "trainSize" (.integer 0)
  if validation.isPositive && train.isPositive then
    match validation.div train with
    | .ok share => .ok (some (share.roundPlaces 4))
    | .error _ => .error .outOfRange
  else
    .ok none

/-- The lines of the second split. -/
def validationLines (config : Config) : Option Binary → List String
  | none => []
  | some share => [
    "", "# Carve a validation set out of the training data",
    "X_train, X_val, y_train, y_val = train_test_split(", "    X_train, y_train,",
    "    test_size=" ++ share.text ++ ",",
    "    random_state=" ++ (config.value "randomState").display, ")",
    "print(f\"Validation set: \x7blen(X_val)\x7d samples\")"]

def template (config : Config) : Except Failure String := do
  let share ← validationShare? config
  return code (splitLines config ++ validationLines config share)

/-- One billionth, the tolerance for sums of sizes. -/
def tolerance : Binary :=
  .ofDecimal false 1 (-9)

/-- Whether a number is one up to the tolerance, relative to the larger of the two. -/
def isNearOne (total : Binary) : Bool :=
  let one := Binary.ofInt 1
  let distance := Number.real (one.sub total).abs
  let within (bound : Binary) : Bool :=
    distance.less (.real bound) || distance.agrees (.real bound)
  match total with
  | .nan | .infinity _ => false
  | _ => within tolerance || within (tolerance.mul total).abs

/-- Whether the three sizes fail to sum to one. -/
def sizesOff (config : Config) : Except OutOfRange Bool := do
  let size (key : String) : Number := config.number key (.integer 0)
  let both ← (size "trainSize").add (size "testSize")
  let total ← both.add (size "validationSize")
  return !isNearOne (← total.toBinary)

def rules : List Rule := [
  { severity := .warning
    message := "Train and test sizes should sum to 1.0"
    violated := fun config _ => (sizesOff config).mapError fun _ => .outOfRange }]

end StageGraph.Kind.DataSplit

namespace StageGraph.Kind

def dataSplit : Kind :=
  { type := TypeName.dataSplit
    label := "Data Split"
    phase := .data
    description := "Split data into train/test/validation sets"
    maxInstances := .int 1
    fields := DataSplit.fields
    rules := DataSplit.rules
    template := DataSplit.template }

end StageGraph.Kind
