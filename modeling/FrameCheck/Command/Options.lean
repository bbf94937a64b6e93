import FrameCheck.Text.Quoted

/-!
The arguments of the command line. Switches may stand before and after the paths, which have
to follow each other; long switches may be cut short where that leaves one meaning, and short
ones may be written together.
-/

namespace FrameCheck.Command

inductive Flag where
  | help
  | version
  | verbose
  | noColor
deriving DecidableEq, Repr

inductive Switch where
  | flag (flag : Flag)
  | format
deriving DecidableEq, Repr

namespace Switch

def name : Switch → Text
  | .flag .help => "-h/--help"
  | .flag .version => "--version"
  | .flag .verbose => "-v/--verbose"
  | .flag .noColor => "--no-color"
  | .format => "--format"

def spellings : List (Text × Switch) :=
  [("-h", .flag .help), ("--help", .flag .help), ("--version", .flag .version),
    ("-v", .flag .verbose), ("--verbose", .flag .verbose), ("--no-color", .flag .noColor),
    ("--format", .format)]

def ofSpelling? (spelling : Text) : Option Switch :=
  spellings.lookup spelling

def flagOfLetter? (letter : CodePoint) : Option Flag :=
  match ofSpelling? ⟨[.char '-', letter]⟩ with
  | some (.flag found) => some found
  | _ => none

end Switch

inductive OutputFormat where
  | text
  | json
deriving DecidableEq, Repr

inductive UsageError where
  | ambiguous (argument : Text) (candidates : List Text)
  | missingValue (switch : Switch)
  | unusedValue (switch : Switch) (value : Text)
  | unknownFormat (value : Text)
  | unrecognized (arguments : List Text)
deriving DecidableEq, Repr

def UsageError.message : UsageError → Text
  | .ambiguous argument candidates =>
    "ambiguous option: " ++ argument ++ " could match " ++ Text.intercalate ", " candidates
  | .missingValue switch => "argument " ++ switch.name ++ ": expected one argument"
  | .unusedValue switch value =>
    "argument " ++ switch.name ++ ": ignored explicit argument " ++ Text.quoted value
  | .unknownFormat value =>
    "argument --format: invalid choice: " ++ Text.quoted value ++
      " (choose from 'text', 'json')"
  | .unrecognized arguments => "unrecognized arguments: " ++ Text.intercalate " " arguments

/-! What single arguments are. -/

inductive Argument where
  | operand (text : Text)
  | separator
  | flags (flags : List Flag)
  | unknown (text : Text)
  | format (value : Option Text)
  | misused (switch : Switch) (value : Text)
deriving DecidableEq, Repr

namespace Argument

def ofSwitch : Switch → Option Text → Argument
  | .format, value => .format value
  | .flag flag, none => .flags [flag]
  | .flag flag, some value => .misused (.flag flag) value

/-- Flags written together, behind those that are read. From the first letter on that is no
flag, the letters are a value. -/
def ofLetters (flags : List Flag) (last : Flag) : List CodePoint → Argument
  | [] => .flags (flags ++ [last])
  | letter :: rest =>
    match Switch.flagOfLetter? letter with
    | some flag => ofLetters (flags ++ [last]) flag rest
    | none => .misused (.flag last) ⟨letter :: rest⟩

def ofShort (flag : Flag) : List CodePoint → Argument
  | [] => .misused (.flag flag) {}
  | letters => ofLetters [] flag letters

def splitValue (points : List CodePoint) : Text × Option Text :=
  let before := points.takeWhile (· != .char '=')
  match points.dropWhile (· != .char '=') with
  | [] => (⟨before⟩, none)
  | _ :: after => (⟨before⟩, some ⟨after⟩)

def isNegativeNumber (points : List CodePoint) : Bool :=
  let isDigit := CodePoint.meets Text.isDecimalDigit
  let number := match points.reverse with
    | .char '\n' :: rest => rest.reverse
    | _ => points
  match number with
  | .char '-' :: digits =>
    match digits.dropWhile isDigit with
    | [] => !digits.isEmpty
    | .char '.' :: fraction => !fraction.isEmpty && fraction.all isDigit
    | _ => false
  | _ => false

/-- An argument that begins with a dash and is no spelling of a switch: numbers and arguments
with a blank are operands. -/
def unspelled (argument : Text) : Argument :=
  if isNegativeNumber argument.points || argument.points.contains (.char ' ') then
    .operand argument
  else .unknown argument

def candidates (beginning : Text) : List (Text × Switch) :=
  Switch.spellings.filter fun entry => beginning.points.isPrefixOf entry.1.points

def classify (argument : Text) : Except UsageError Argument :=
  match argument.points with
  | .char '-' :: .char '-' :: _ =>
    let (spelling, value) := splitValue argument.points
    match Switch.ofSpelling? spelling, candidates spelling with
    | some switch, _ => .ok (ofSwitch switch value)
    | none, [] => .ok (unspelled argument)
    | none, [(_, switch)] => .ok (ofSwitch switch value)
    | none, several => .error (.ambiguous argument (several.map Prod.fst))
  | .char '-' :: letter :: rest =>
    match Switch.flagOfLetter? letter, rest with
    | some flag, .char '=' :: value => .ok (ofShort flag value)
    | some flag, letters => .ok (ofLetters [] flag letters)
    | none, _ => .ok (unspelled argument)
  | _ => .ok (.operand argument)

def classifyAll : List Text → Except UsageError (List Argument)
  | [] => .ok []
  | argument :: rest =>
    if argument = "--" then .ok (.separator :: rest.map .operand)
    else do return (← classify argument) :: (← classifyAll rest)

end Argument

/-! What arguments ask for. -/

structure Options where
  paths : List Text := []
  verbose : Bool := false
  colours : Bool := true
  format : OutputFormat := .text
deriving DecidableEq, Repr

inductive Request where
  | help
  | version
  | check (options : Options)
deriving DecidableEq, Repr

inductive PathStage where
  | awaited
  | reading
  | closed
deriving DecidableEq, Repr

structure Reading where
  options : Options := {}
  stage : PathStage := .awaited
  surplus : List Text := []

namespace Reading

def addSurplus (reading : Reading) (text : Text) : Reading :=
  { reading with surplus := reading.surplus ++ [text] }

def addOperand (reading : Reading) (text : Text) : Reading :=
  if reading.stage = .closed then reading.addSurplus text
  else
    let options := { reading.options with paths := reading.options.paths ++ [text] }
    { reading with options := options, stage := .reading }

def addSeparator (reading : Reading) : Reading :=
  if reading.stage = .closed then reading.addSurplus "--"
  else { reading with stage := .reading }

def closePaths (reading : Reading) : Reading :=
  if reading.stage = .reading then { reading with stage := .closed } else reading

def addFlag (reading : Reading) : Flag → Reading
  | .verbose => { reading with options := { reading.options with verbose := true } }
  | .noColor => { reading with options := { reading.options with colours := false } }
  | .help => reading
  | .version => reading

def setFormat (reading : Reading) (value : Text) : Except UsageError Reading :=
  if value = "text" then
    .ok { reading with options := { reading.options with format := .text } }
  else if value = "json" then
    .ok { reading with options := { reading.options with format := .json } }
  else .error (.unknownFormat value)

def finish (reading : Reading) : Except UsageError Request :=
  if reading.surplus.isEmpty then .ok (.check reading.options)
  else .error (.unrecognized reading.surplus)

end Reading

/-- What the arguments ask for. Help and version are answered as soon as they are met. -/
def interpret (reading : Reading) : List Argument → Except UsageError Request
  | [] => reading.finish
  | .operand text :: rest => interpret (reading.addOperand text) rest
  | .separator :: rest => interpret reading.addSeparator rest
  | .flags flags :: rest =>
    if flags.contains .help then .ok .help
    else if flags.contains .version then .ok .version
    else interpret (flags.foldl Reading.addFlag reading.closePaths) rest
  | .unknown text :: rest => interpret (reading.closePaths.addSurplus text) rest
  | .format (some value) :: rest => do interpret (← reading.closePaths.setFormat value) rest
  | .format none :: .operand value :: rest => do
    interpret (← reading.closePaths.setFormat value) rest
  | .format none :: _ => .error (.missingValue .format)
  | .misused switch value :: _ => .error (.unusedValue switch value)

def parse (arguments : List Text) : Except UsageError Request := do
  interpret {} (← Argument.classifyAll arguments)

end FrameCheck.Command
