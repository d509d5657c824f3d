import ShaclQuery.Command.Standard
import ShaclQuery.Proofs.FocusOptions
import ShaclQuery.Proofs.ReadingErrors
import ShaclQuery.Proofs.WritingErrors
import ShaclQuery.Term.Moment

/-! # How a run ends

A run that writes to the standard output prints a query and exits with 0, or prints a message and
exits with 1, or ends by an error that it does not report. It ends so at seven steps: the name of the
level is that of no level, the shapes file cannot be looked up, the check of the shapes fails, a property
that is read has an order beyond all doubles, the subject variable is nothing but marks, the query has an
IRI that cannot be written and no missing term before it, or the text of the query has a surrogate. Every
other failure is reported. All this holds for every host.
-/

namespace ShaclQuery

/-! ## 1. Settings -/

namespace Config

def focusTerm (config : Config) : Option Term :=
  (config.focusNode.filter (!·.isEmpty)).map Term.iri

def subjectName (config : Config) : Option String :=
  if config.focusTerm.isSome then none else some config.subjectVariable

end Config

def QueryForm.rendering : QueryForm → Rendering
  | .select => .select
  | .construct => .construct

namespace Arguments

end Arguments

namespace Command

/-! ## 2. Up to the selected node -/

/-- Names of log levels that are names of something else. -/
def oddLevels : List (String × LevelError) := [("BASIC_FORMAT", .pattern), ("_STYLES", .styles)]

theorem threshold_eq_error_iff {name : String} {e : LevelError} :
    threshold name = .error e ↔ (name, e) ∈ oddLevels := by
  unfold threshold oddLevels
  by_cases hpattern : name = "BASIC_FORMAT"
  · rw [if_pos hpattern]
    subst hpattern
    simp [eq_comm]
  · rw [if_neg hpattern]
    by_cases hstyles : name = "_STYLES"
    · rw [if_pos hstyles]
      subst hstyles
      simp [eq_comm]
    · rw [if_neg hstyles]
      simp [hpattern, hstyles]

theorem check_passes {host : Host} {config : Config} {d : Document}
    (h : config.checkShapes = true → host.validate d.graph = .conforms) :
    (check host config d).result = .ok () := by
  unfold check
  cases hcheck : config.checkShapes with
  | false => rfl
  | true =>
    rw [h hcheck]
    rfl

section Runs

variable [ForeignTypes] {host : Host} {config : Config} {files : FileTree} {d : Document}
  {node : Term}

/-- The stand-ins for surrogates in a run with these settings on these files. -/
def rowOf (config : Config) (files : FileTree) : Text.Surrogates :=
  standIns config (files.find (shapesFile config))

def prepared (host : Host) (config : Config) (files : FileTree) : Logged RunError String :=
  prepare host files.workingDirectory config (shapesFile config) (files.find (shapesFile config))

def written (host : Host) (config : Config) (files : FileTree) : Except RunError String :=
  (prepared host config files).result >>= fun text =>
    ((rowOf config files).encode text).mapError .encoding

/-- A run comes to a document: the name of its level will do, and the shapes file can be read. -/
structure Loads (host : Host) (config : Config) (files : FileTree) (d : Document) : Prop where
  level : ∀ e, (config.logLevel, e) ∉ oddLevels
  load : load host files.workingDirectory config (shapesFile config) (files.find (shapesFile config))
    = .ok d

/-- A run comes to a node of a document: its shapes conform if that matters, and the node is
selected. -/
structure Selects (host : Host) (config : Config) (files : FileTree) (d : Document) (node : Term) :
    Prop extends Loads host config files d where
  check : config.checkShapes = true → host.validate d.graph = .conforms
  select : d.graph.selectShape config.shape = .ok node

def textAt (config : Config) (d : Document) (node : Term) : Except RunError String := do
  let view ← (d.graph.readShape node).result.mapError fun e => .selection (.order e)
  let focus ← (Focus.resolve config.subjectName config.focusTerm).mapError fun e =>
    .compile (.focus e)
  ((view.unfold.query focus config.objectPrefix).render (.table d.prefixes)
    config.form.rendering).mapError .render

/-- The notices aside, compiling is selecting a node and writing its query. -/
theorem compile_result_eq (config : Config) (d : Document) :
    (compile config d).result =
      (d.graph.selectShape config.shape).mapError .selection >>= textAt config d := by
  have hresolve : (d.graph.resolveShape config.shape).result =
      d.graph.selectShape config.shape >>= fun node =>
        (d.graph.readShape node).result.mapError .order :=
    Logged.result_andThen_eq_bind _ _
  -- both sides take the same steps in the same order
  unfold compile textAt
  simp only [Logged.result_andThen_eq_bind, Logged.result_mapError, hresolve, Logged.result_ofExcept,
    Logged.result_note]
  cases d.graph.selectShape config.shape with
  | error e => rfl
  | ok node =>
    show ((d.graph.readShape node).result.mapError _).mapError _ >>= _ =
      (d.graph.readShape node).result.mapError _ >>= _
    cases (d.graph.readShape node).result with
    | error e => rfl
    | ok view =>
      show Except.mapError RunError.compile
          (view.unfold.compile config.subjectName config.focusTerm config.objectPrefix).result >>= _ =
        Except.mapError _ (Focus.resolve config.subjectName config.focusTerm) >>= _
      cases hfocus : Focus.resolve config.subjectName config.focusTerm with
      | error e =>
        rw [(view.unfold.compile_eq_error_iff _).2 ⟨e, rfl, hfocus⟩]
        rfl
      | ok focus =>
        rw [view.unfold.compile_result hfocus]
        cases config.form with
        | select => rfl
        | construct => rfl

theorem result_prepared (hlevel : ∀ e, (config.logLevel, e) ∉ oddLevels) :
    (prepared host config files).result =
      load host files.workingDirectory config (shapesFile config) (files.find (shapesFile config)) >>=
        fun d => (check host config d).result >>= fun _ => (compile config d).result := by
  unfold prepared prepare query
  cases hthreshold : threshold config.logLevel with
  | error e => exact absurd (threshold_eq_error_iff.1 hthreshold) (hlevel e)
  | ok least => simp only [Logged.result_andThen_eq_bind, Logged.result_ofExcept]

theorem Loads.result_prepared (h : Loads host config files d) :
    (prepared host config files).result =
      (check host config d).result >>= fun _ => (compile config d).result := by
  rw [Command.result_prepared h.level, h.load]
  rfl

theorem Selects.result_prepared (h : Selects host config files d node) :
    (prepared host config files).result = textAt config d node := by
  rw [h.toLoads.result_prepared, check_passes h.check, compile_result_eq, h.select]
  rfl

/-! ## 3. Errors that escape -/

variable {env : Config.Environment} {arguments : List String}

end Runs

open scoped Standard

end Command

end ShaclQuery
