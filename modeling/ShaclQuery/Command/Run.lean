import ShaclQuery.Command.Arguments
import ShaclQuery.Document
import ShaclQuery.Query.Text
import ShaclQuery.Shape.Selection

/-! # Running the command

A run reads a shapes file, selects a shape and writes its query to the standard output or to a file.
It is a function of the arguments, the environment and the files, and of its host: the labels that blank
nodes get in this run, the readers of formats that are not read here, and the check of shapes graphs.
-/

namespace ShaclQuery.Command

open Text

/-! ## 1. Hosts -/

inductive Verdict
  | conforms
  /-- The shapes do not keep the rules; `noted` says whether the check stopped there and tells so. -/
  | violated (noted : Bool)
  /-- The check itself fails. -/
  | failed (message : String)
  deriving DecidableEq, Repr

/-- What a run leaves to others. Nothing is assumed of them but that different blank nodes get different
labels. -/
structure Host where
  labels : Labels
  other : OtherReader
  validate : Graph → Verdict

/-! ## 2. Errors -/

/-- Names of log levels that are names of something else. -/
inductive LevelError
  | pattern
  | styles
  deriving DecidableEq, Repr

def LevelError.message : LevelError → String
  | .pattern => "Unknown level: '%(levelname)s:%(name)s:%(message)s'"
  | .styles =>
    "Level not an integer or a valid string: \x7b'%': (<class 'logging.PercentStyle'>, "
      ++ "'%(levelname)s:%(name)s:%(message)s'), '\x7b': (<class 'logging.StrFormatStyle'>, "
      ++ "'\x7blevelname\x7d:\x7bname\x7d:\x7bmessage\x7d'), "
      ++ "'$': (<class 'logging.StringTemplateStyle'>, "
      ++ "'$\x7blevelname\x7d:$\x7bname\x7d:$\x7bmessage\x7d')\x7d"

inductive RunError
  | level (e : LevelError)
  | missingFile (path : PathName)
  | lookup (e : FileError)
  | unparsable (path : PathName)
  | illFormed
  | validation (message : String)
  | selection (e : SelectionError)
  | compile (e : CompileError)
  | render (e : RenderError)
  | output (e : FileError)
  | encoding (e : EncodingError)
  deriving DecidableEq, Repr

def RunError.message : RunError → String
  | .level e => e.message
  | .missingFile path => "SHACL shapes file not found: " ++ path.text
  | .lookup e => e.message
  | .unparsable path => "Failed to parse shapes from " ++ path.text ++ ":"
  | .illFormed => "Shapes graph is not well-formed:"
  | .validation message => message
  | .selection e => e.message
  | .compile e => e.message
  | .render e => e.message
  | .output e => e.message
  | .encoding e => e.message

/-- Errors that a run reports by itself; the others end it without a word of its own. -/
def RunError.isReported : RunError → Bool
  | .missingFile _ | .unparsable _ | .illFormed => true
  | .selection (.order _) => false
  | .selection _ => true
  | .render .missingTerm => true
  | .render _ => false
  | .level _ | .lookup _ | .validation _ | .compile _ | .output _ | .encoding _ => false

/-! ## 3. From a shapes file to a query -/

def suffixFormats : List (String × String) := [
  ("xml", "xml"), ("rdf", "xml"), ("owl", "xml"), ("n3", "n3"), ("ttl", "turtle"), ("nt", "nt"),
  ("trix", "trix"), ("xhtml", "rdfa"), ("html", "rdfa"), ("svg", "rdfa"), ("nq", "nquads"),
  ("nquads", "nquads"), ("trig", "trig"), ("json", "json-ld"), ("jsonld", "json-ld"),
  ("json-ld", "json-ld")]

/-- The format of a shapes file: the one that is asked for, or else the one of its suffix. Files with
other suffixes are taken for Turtle. -/
def formatName (asked : Option String) (path : PathName) : String :=
  let ofSuffix := path.suffix?.bind fun suffix => suffixFormats.lookup (Text.lower suffix)
  asked.getD (ofSuffix.getD "turtle")

/-- Stand-ins for surrogates that occur neither in the shapes file nor in the settings. -/
def standIns (config : Config) (found : Except FileProblem Entry) : Surrogates :=
  let text := match found with
    | .ok (.file (.text text)) => text
    | _ => ""
  Surrogates.outside (text ++ config.subjectVariable ++ config.focusNode.getD ""
    ++ config.objectPrefix ++ config.shape.getD "").toList

variable [ForeignTypes] (host : Host)

def load (workingDirectory : PathName) (config : Config) (path : PathName)
    (found : Except FileProblem Entry) : Except RunError Document :=
  match found with
  | .error problem =>
    if problem.isAbsence then .error (.missingFile path) else .error (.lookup ⟨problem, path⟩)
  | .ok (.file content) =>
    match Document.ofContent? host.other (standIns config found) (formatName config.format path)
      (PathName.fileIri workingDirectory path) content with
    | some d => .ok (d.relabel host.labels)
    | none => .error (.unparsable path)
  | .ok _ => .error (.unparsable path)

def Verdict.logged : Verdict → Logged RunError Bool
  | .conforms => .ok true
  | .violated noted => ⟨if noted then [.illFormed] else [], .ok false⟩
  | .failed message => .fail (.validation message)

def check (config : Config) (d : Document) : Logged RunError Unit :=
  if !config.checkShapes then .ok ()
  else (host.validate d.graph).logged.andThen fun conforms =>
    if conforms then .ok () else .fail .illFormed

def compile (config : Config) (d : Document) : Logged RunError String :=
  ((d.graph.resolveShape config.shape).mapError .selection).andThen fun view =>
    let focusNode := (config.focusNode.filter (!·.isEmpty)).map Term.iri
    let subject := if focusNode.isSome then none else some config.subjectVariable
    ((view.unfold.compile subject focusNode config.objectPrefix).mapError .compile).andThen
      fun compiled =>
        (Logged.note (.compiled view.id config.form)).andThen fun _ =>
          let prefixes := some d.prefixes
          let text := match config.form with
            | .select => renderSelect prefixes compiled.wherePattern
            | .construct =>
              renderConstruct prefixes (compiled.template.map .triple) compiled.wherePattern
          .ofExcept (text.mapError .render)

def query (workingDirectory : PathName) (config : Config) (path : PathName)
    (found : Except FileProblem Entry) : Logged RunError String :=
  (Logged.ofExcept (load host workingDirectory config path found)).andThen fun d =>
    (check host config d).andThen fun _ => compile config d

/-- The least level of notices that a level name lets through. An unknown name counts as a warning. -/
def threshold (name : String) : Except LevelError Nat :=
  let levels : List (String × Nat) := [("NOTSET", 0), ("DEBUG", 10), ("INFO", 20), ("WARN", 30),
    ("WARNING", 30), ("ERROR", 40), ("CRITICAL", 50), ("FATAL", 50)]
  if name = "BASIC_FORMAT" then .error .pattern
  else if name = "_STYLES" then .error .styles
  else .ok ((levels.lookup name).getD 30)

def prepare (workingDirectory : PathName) (config : Config) (path : PathName)
    (found : Except FileProblem Entry) : Logged RunError String :=
  match threshold config.logLevel with
  | .error e => .fail (.level e)
  | .ok least =>
    let made := query host workingDirectory config path found
    ⟨made.notices.filter fun n => least ≤ n.level.number, made.result⟩

/-! ## 4. The end of a run -/

/-- How a run ends: with an exit code, or by an error that it does not report. -/
inductive Ending
  | exit (code : Nat)
  | escaped (e : RunError)
  deriving DecidableEq, Repr

inductive LastStep
  | nothing
  | print (text : String)
  | report (text : String)
  | save (path : PathName) (text : String)
  deriving DecidableEq, Repr

/-- The last step, and the ending if nothing goes wrong with it. -/
structure Conclusion where
  step : LastStep
  ending : Ending
  deriving DecidableEq, Repr

def conclude (config : Config) (row : Surrogates) : Except RunError String → Conclusion
  | .error e =>
    if e.isReported then ⟨.report ("shape-to-query: " ++ row.shown e.message ++ "\n"), .exit 1⟩
    else ⟨.nothing, .escaped e⟩
  | .ok text =>
    match row.encode text, config.output with
    | .ok text, none => ⟨.print (text ++ "\n"), .exit 0⟩
    | .ok text, some path => ⟨.save path (text ++ "\n"), .exit 0⟩
    | .error e, none => ⟨.nothing, .escaped (.encoding e)⟩
    -- the output file is opened before its text is encoded
    | .error e, some path => ⟨.save path "", .escaped (.encoding e)⟩

def refusal (e : Arguments.ArgumentError) : String := "shape-to-query: error: " ++ e.message ++ "\n"

/-- The settings of a run, or its conclusion when it ends before it has any. -/
def start (env : Config.Environment) (arguments : List String) : Except Conclusion Config :=
  (Arguments.read env arguments).mapError fun
    | .help => ⟨.nothing, .exit 0⟩
    | .error e => ⟨.report (refusal e), .exit 2⟩

def shapesFile (config : Config) : PathName := config.shapes.getD (.ofText "")

def finish (workingDirectory : PathName) (config : Config) (found : Except FileProblem Entry) :
    List Notice × Conclusion :=
  let made := prepare host workingDirectory config (shapesFile config) found
  (made.notices, conclude config (standIns config found) made.result)

/-! ## 5. A run -/

structure Outcome where
  standardOutput : String
  standardError : String
  ending : Ending
  notices : List Notice
  files : FileTree
  deriving DecidableEq, Repr

def perform (files : FileTree) (notices : List Notice) (c : Conclusion) : Outcome :=
  match c.step with
  | .nothing => ⟨"", "", c.ending, notices, files⟩
  | .print text => ⟨text, "", c.ending, notices, files⟩
  | .report text => ⟨"", text, c.ending, notices, files⟩
  | .save path text =>
    match files.save path text with
    | (written, none) => ⟨"", "", c.ending, notices, written⟩
    | (left, some e) => ⟨"", "", .escaped (.output e), notices, left⟩

def run (env : Config.Environment) (arguments : List String) (files : FileTree) : Outcome :=
  match start env arguments with
  | .error c => perform files [] c
  | .ok config =>
    let (notices, c) :=
      finish host files.workingDirectory config (files.find (shapesFile config))
    perform files notices c

end ShaclQuery.Command
