import ShaclQuery.Files.PathName
import ShaclQuery.Log
import ShaclQuery.Text.Letter
import ShaclQuery.Text.Quoted

/-! # Configuration

What a run of the command is told: by its environment here, and by its arguments elsewhere. A variable
of the environment that is empty counts as not set. Variables that come from a `.env` file are part of
the environment; finding and reading such files is left to whoever starts the run.
-/

namespace ShaclQuery

structure Config where
  shapes : Option PathName
  shape : Option String
  form : QueryForm
  subjectVariable : String
  focusNode : Option String
  objectPrefix : String
  format : Option String
  output : Option PathName
  checkShapes : Bool
  logLevel : String
  deriving DecidableEq, Repr

inductive ConfigError
  | unknownForm (word : String)
  deriving DecidableEq, Repr

def ConfigError.message : ConfigError → String
  | .unknownForm word =>
    "Unknown query form " ++ Text.quoted word ++ "; expected one of ('select', 'construct')"

def QueryForm.ofWord? (word : String) : Except ConfigError QueryForm :=
  if word = "select" then .ok .select
  else if word = "construct" then .ok .construct
  else .error (.unknownForm word)

namespace Config

def standard : Config := ⟨none, none, .select, "node", none, "", none, none, false, "WARNING"⟩

/-- An environment: names and values; of a name that occurs twice the last value counts. -/
abbrev Environment := List (String × String)

/-- The value of one of the command's variables, unless it is empty. -/
def setting? (env : Environment) (name : String) : Option String :=
  (env.reverse.lookup ("SHAPE_TO_QUERY_" ++ name)).filter (!·.isEmpty)

def settingNames : List String :=
  ["SHAPES", "SHAPE", "FORM", "SUBJECT_VARIABLE", "FOCUS_NODE", "OBJECT_VARIABLE_PREFIX", "FORMAT",
    "OUTPUT", "CHECK_SHAPES", "LOG_LEVEL"]

def ofEnvironment (env : Environment) : Except ConfigError Config := do
  let form ← QueryForm.ofWord? (Text.lower ((setting? env "FORM").getD "select"))
  .ok {
    shapes := (setting? env "SHAPES").map .ofText
    shape := setting? env "SHAPE"
    form
    subjectVariable := (setting? env "SUBJECT_VARIABLE").getD "node"
    focusNode := setting? env "FOCUS_NODE"
    objectPrefix := (setting? env "OBJECT_VARIABLE_PREFIX").getD ""
    format := setting? env "FORMAT"
    output := (setting? env "OUTPUT").map .ofText
    checkShapes := Text.lower ((setting? env "CHECK_SHAPES").getD "false") == "true"
    logLevel := Text.upper ((setting? env "LOG_LEVEL").getD "WARNING") }

end Config

end ShaclQuery
