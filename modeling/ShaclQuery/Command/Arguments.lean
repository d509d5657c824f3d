import ShaclQuery.Command.Config
import ShaclQuery.Text.Digit

/-! # Command-line arguments

Arguments are first sorted into plain ones and options, and then taken from left to right. Options may
be shortened as long as they stay unambiguous. What cannot be used is collected and reported at the
end.
-/

namespace ShaclQuery.Arguments

/-! ## 1. Options -/

inductive ValueOption
  | shape
  | format
  | form
  | subjectVariable
  | focusNode
  | objectPrefix
  | output
  | logLevel
  deriving DecidableEq, Repr

def ValueOption.flag : ValueOption → String
  | .shape => "--shape"
  | .format => "--format"
  | .form => "--form"
  | .subjectVariable => "--subject-variable"
  | .focusNode => "--focus-node"
  | .objectPrefix => "--object-prefix"
  | .output => "--output"
  | .logLevel => "--log-level"

inductive Request
  | help
  | value (o : ValueOption)
  | check (on : Bool)
  deriving DecidableEq, Repr

/-- All options, in the order in which messages list them. -/
def options : List (String × Request) :=
  [("-h", .help), ("--help", .help), ("--shape", .value .shape), ("--format", .value .format),
    ("--form", .value .form), ("--subject-variable", .value .subjectVariable),
    ("--focus-node", .value .focusNode), ("--object-prefix", .value .objectPrefix),
    ("--output", .value .output), ("--check-shapes", .check true),
    ("--no-check-shapes", .check false), ("--log-level", .value .logLevel)]

def Request.name : Request → String
  | .help => "-h/--help"
  | .value o => o.flag
  | .check _ => "--check-shapes/--no-check-shapes"

inductive ArgumentError
  | config (e : ConfigError)
  | ambiguous (argument : String) (matching : List String)
  | expectedOne (o : ValueOption)
  | invalidForm (word : String)
  | ignoredExplicit (r : Request) (text : String)
  | notAllowed (o other : ValueOption)
  | unrecognized (arguments : List String)
  | noShapes
  deriving DecidableEq, Repr

def ArgumentError.message : ArgumentError → String
  | .config e => e.message
  | .ambiguous argument matching =>
    "ambiguous option: " ++ argument ++ " could match " ++ String.intercalate ", " matching
  | .expectedOne o => "argument " ++ o.flag ++ ": expected one argument"
  | .invalidForm word =>
    "argument --form: invalid choice: " ++ Text.quoted word
      ++ " (choose from 'select', 'construct')"
  | .ignoredExplicit r text =>
    "argument " ++ r.name ++ ": ignored explicit argument " ++ Text.quoted text
  | .notAllowed o other =>
    "argument " ++ o.flag ++ ": not allowed with argument " ++ other.flag
  | .unrecognized arguments => "unrecognized arguments: " ++ String.intercalate " " arguments
  | .noShapes => "a shapes file is required (argument or SHAPE_TO_QUERY_SHAPES)"

/-! ## 2. Sorting arguments -/

inductive Token
  | plain (text : String)
  /-- The argument `--`, behind which all arguments are plain. -/
  | separator
  /-- An option, perhaps with a value behind an equals sign. -/
  | request (r : Request) (explicit : Option String)
  /-- What looks like an option and is none. -/
  | unknown (text : String)
  deriving DecidableEq, Repr

def splitEquals (text : String) : String × Option String :=
  let name := text.toList.takeWhile (· != '=')
  match text.toList.drop name.length with
  | [] => (text, none)
  | _ :: value => (String.ofList name, some (String.ofList value))

def isNegativeNumber (text : List Char) : Bool :=
  let isDigit (c : Char) : Bool := (Text.digitValue? c).isSome
  match text with
  | '-' :: rest =>
    let body := if rest.getLast? = some '\n' then rest.dropLast else rest
    match body.dropWhile isDigit with
    | [] => !body.isEmpty
    | '.' :: fraction => !fraction.isEmpty && fraction.all isDigit
    | _ => false
  | _ => false

/-- What follows `-h` in one argument: more letters `h` ask for help again, a letter that is no option
is of no account beside the help, and other text is an error. -/
def helpCluster : List Char → Option String
  | [] => none
  | '=' :: text => some (String.ofList text)
  | '-' :: text => some (String.ofList ('-' :: text))
  | 'h' :: rest => helpCluster rest
  | _ => none

/-- The options that an argument may be short for. -/
def matching (text : String) : List (String × Request) :=
  options.filter fun o => (splitEquals text).1.toList.isPrefixOf o.1.toList

def classify (text : String) : Except ArgumentError Token :=
  match text.toList with
  | '-' :: c :: rest =>
    match options.lookup text, options.lookup (splitEquals text).1 with
    | some r, _ => .ok (.request r none)
    | none, some .help =>
      .ok (.request .help (some ((splitEquals text).2.getD "")))
    | none, some r => .ok (.request r (splitEquals text).2)
    | none, none =>
      let other : Token :=
        if isNegativeNumber text.toList || text.toList.contains ' ' then .plain text
        else .unknown text
      if c = '-' then
        match matching text with
        | [] => .ok other
        | [(_, r)] => .ok (.request r (splitEquals text).2)
        | several => .error (.ambiguous text (several.map (·.1)))
      else if c = 'h' then .ok (.request .help (helpCluster rest))
      else .ok other
  | _ => .ok (.plain text)

def scan : List String → Except ArgumentError (List Token)
  | [] => .ok []
  | text :: rest =>
    if text = "--" then .ok (.separator :: rest.map .plain)
    else do
      let token ← classify text
      .ok (token :: (← scan rest))

/-! ## 3. Taking arguments -/

/-- What has been taken. `shapesDone` says that the plain argument has had its turn; the flags
`subjectSeen` and `focusSeen` say that an option counts as given, for the two exclude each other. -/
structure Given where
  shapesDone : Bool
  shapes : Option String
  shape : Option String
  format : Option String
  form : Option QueryForm
  subjectVariable : Option String
  focusNode : Option String
  objectPrefix : Option String
  output : Option String
  checkShapes : Option Bool
  logLevel : Option String
  subjectSeen : Bool
  focusSeen : Bool
  extras : List String
  deriving DecidableEq, Repr

namespace Given

def nothing : Given :=
  ⟨false, none, none, none, none, none, none, none, none, none, none, false, false, []⟩

/-- A focus node counts as given, unless it is the one character that is the default already. -/
def focusCounts (default : Option String) (value : String) : Bool :=
  !(default = some value && value.length = 1 && value.toList.all (·.toNat < 256))

def take (defaults : Config) (g : Given) (o : ValueOption) (value : String) :
    Except ArgumentError Given :=
  match o with
  | .shape => .ok { g with shape := some value }
  | .format => .ok { g with format := some value }
  | .form =>
    match QueryForm.ofWord? value with
    | .ok form => .ok { g with form := some form }
    | .error _ => .error (.invalidForm value)
  | .subjectVariable =>
    if g.focusSeen then .error (.notAllowed .subjectVariable .focusNode)
    else .ok { g with subjectVariable := some value, subjectSeen := true }
  | .focusNode =>
    if !focusCounts defaults.focusNode value then .ok { g with focusNode := some value }
    else if g.subjectSeen then .error (.notAllowed .focusNode .subjectVariable)
    else .ok { g with focusNode := some value, focusSeen := true }
  | .objectPrefix => .ok { g with objectPrefix := some value }
  | .output => .ok { g with output := some value }
  | .logLevel => .ok { g with logLevel := some value }

def takePlain (g : Given) (text : String) : Given :=
  if g.shapesDone then { g with extras := g.extras ++ [text] }
  else { g with shapesDone := true, shapes := some text }

end Given

inductive Stop
  | help
  | error (e : ArgumentError)
  deriving DecidableEq, Repr

/-- Takes arguments from left to right. A separator next to the shapes file belongs to it. -/
def consume (defaults : Config) : List Token → Given → Except Stop Given
  | [], g => .ok g
  | .plain text :: .separator :: rest, g =>
    if g.shapesDone then
      consume defaults rest { g with extras := g.extras ++ [text, "--"] }
    else consume defaults rest (g.takePlain text)
  | .plain text :: rest, g => consume defaults rest (g.takePlain text)
  | .separator :: rest, g =>
    if g.shapesDone then consume defaults rest { g with extras := g.extras ++ ["--"] }
    else
      match rest with
      | .plain text :: rest => consume defaults rest (g.takePlain text)
      | rest => consume defaults rest { g with shapesDone := true }
  | .unknown text :: rest, g => consume defaults rest { g with extras := g.extras ++ [text] }
  | .request .help none :: _, _ => .error .help
  | .request (.check on) none :: rest, g => consume defaults rest { g with checkShapes := some on }
  | .request (.value o) none :: .plain value :: rest, g =>
    match g.take defaults o value with
    | .ok g => consume defaults rest g
    | .error e => .error (.error e)
  | .request (.value o) none :: _, _ => .error (.error (.expectedOne o))
  | .request (.value o) (some value) :: rest, g =>
    match g.take defaults o value with
    | .ok g => consume defaults rest g
    | .error e => .error (.error e)
  | .request r (some text) :: _, _ => .error (.error (.ignoredExplicit r text))

/-! ## 4. The configuration -/

/-- The configuration of what was given on top of the defaults. A subject variable puts the focus node
of the defaults out of force, even when it is empty. -/
def configure (defaults : Config) (g : Given) (shapes : PathName) : Config where
  shapes := some shapes
  shape := g.shape.or defaults.shape
  form := g.form.getD defaults.form
  subjectVariable := (g.subjectVariable.filter (!·.isEmpty)).getD defaults.subjectVariable
  focusNode := if g.subjectVariable.isSome then none else g.focusNode.or defaults.focusNode
  objectPrefix := g.objectPrefix.getD defaults.objectPrefix
  format := g.format.or defaults.format
  output := (g.output.map .ofText).or defaults.output
  checkShapes := g.checkShapes.getD defaults.checkShapes
  logLevel := Text.upper (g.logLevel.getD defaults.logLevel)

def read (env : Config.Environment) (arguments : List String) : Except Stop Config := do
  let defaults ← (Config.ofEnvironment env).mapError fun e => Stop.error (.config e)
  let tokens ← (scan arguments).mapError Stop.error
  let given ← consume defaults tokens .nothing
  if !given.extras.isEmpty then .error (.error (.unrecognized given.extras))
  else
    match (given.shapes.map PathName.ofText).or defaults.shapes with
    | none => .error (.error .noShapes)
    | some shapes => .ok (configure defaults given shapes)

end ShaclQuery.Arguments
