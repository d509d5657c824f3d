import ShaclQuery.Command.Arguments
import ShaclQuery.Proofs.LetterCase
import ShaclQuery.Proofs.WritingErrors

/-! # Precedence of settings

A command line is read as a sequence of parts: options with their values, the switch for the shapes
check, and the shapes file. Each setting takes the last value that the parts have for it, else the value
of the environment, else its default, and in which order parts of different settings stand makes no
difference. Two settings deviate: an empty name of the subject variable counts as none, and any subject
variable puts the focus node out of force.
-/

namespace ShaclQuery.Arguments

/-! ## 1. Command lines -/

inductive Part
  /-- An option and its value in the argument behind it. -/
  | spaced (o : ValueOption) (value : String)
  /-- An option and its value behind an equals sign. -/
  | joined (o : ValueOption) (value : String)
  | check (on : Bool)
  | plain (text : String)
  deriving DecidableEq, Repr

inductive Setting
  | value (o : ValueOption)
  | check
  | shapes
  deriving DecidableEq, Repr

/-- A text that cannot be taken for an option: it does not start with a hyphen, or is one. -/
def isPlain (text : String) : Bool :=
  match text.toList with
  | '-' :: _ :: _ => false
  | _ => true

namespace Part

def setting : Part → Setting
  | .spaced o _ => .value o
  | .joined o _ => .value o
  | .check _ => .check
  | .plain _ => .shapes

def arguments : Part → List String
  | .spaced o value => [o.flag, value]
  | .joined o value => [o.flag ++ "=" ++ value]
  | .check on => [if on then "--check-shapes" else "--no-check-shapes"]
  | .plain text => [text]

def isProper : Part → Bool
  | .spaced _ value => isPlain value
  | .plain text => isPlain text
  | _ => true

def value? (o : ValueOption) : Part → Option String
  | .spaced o' value => if o' = o then some value else none
  | .joined o' value => if o' = o then some value else none
  | _ => none

def check? : Part → Option Bool
  | .check on => some on
  | _ => none

def shapes? : Part → Option String
  | .plain text => some text
  | _ => none

end Part

def last {α : Type} (f : Part → Option α) (line : List Part) : Option α := (line.filterMap f).getLast?

def formOf (word : Option String) : QueryForm :=
  if word.any fun w => Number.spells "construct" w.toList then .construct else .select

def precedence (env : Config.Environment) (line : List Part) : Config :=
  let told (o : ValueOption) (name : String) : Option String :=
    (last (Part.value? o) line).or (Config.setting? env name)
  let subject := last (Part.value? .subjectVariable) line
  { shapes := ((last Part.shapes? line).or (Config.setting? env "SHAPES")).map .ofText
    shape := told .shape "SHAPE"
    form := formOf (told .form "FORM")
    subjectVariable :=
      ((subject.filter (!·.isEmpty)).or (Config.setting? env "SUBJECT_VARIABLE")).getD "node"
    focusNode := if subject.isSome then none else told .focusNode "FOCUS_NODE"
    objectPrefix := (told .objectPrefix "OBJECT_VARIABLE_PREFIX").getD ""
    format := told .format "FORMAT"
    output := (told .output "OUTPUT").map .ofText
    checkShapes := (last Part.check? line).getD
      ((Config.setting? env "CHECK_SHAPES").any fun w => Number.spells "true" w.toList)
    logLevel := Text.upper ((told .logLevel "LOG_LEVEL").getD "WARNING") }

structure Acceptable (env : Config.Environment) (line : List Part) : Prop where
  environmentForm : ∀ word, Config.setting? env "FORM" = some word →
    Number.spells "select" word.toList = true ∨ Number.spells "construct" word.toList = true
  proper : ∀ p ∈ line, p.isProper = true
  forms : ∀ p ∈ line, ∀ word, p.value? .form = some word → word = "select" ∨ word = "construct"
  exclusive : (∀ p ∈ line, p.setting ≠ .value .subjectVariable) ∨
    ∀ p ∈ line, p.setting ≠ .value .focusNode
  single : (line.filter (·.setting = .shapes)).length ≤ 1
  shapes : (∃ p ∈ line, p.setting = .shapes) ∨ (Config.setting? env "SHAPES").isSome = true

/-! ## 2. Sorting the arguments -/

def Part.tokens : Part → List Token
  | .spaced o value => [.request (.value o) none, .plain value]
  | .joined o value => [.request (.value o) (some value)]
  | .check on => [.request (.check on) none]
  | .plain text => [.plain text]

theorem ne_separator_of_isPlain {text : String} (h : isPlain text = true) : text ≠ "--" := by
  rintro rfl
  cases h

theorem classify_of_isPlain {text : String} (h : isPlain text = true) :
    classify text = .ok (.plain text) := by
  unfold classify
  split
  · rename_i c rest htext
    rw [isPlain, htext] at h
    cases h
  · rfl

theorem classify_flag (o : ValueOption) : classify o.flag = .ok (.request (.value o) none) := by
  cases o <;> rfl

theorem flag_ne_separator (o : ValueOption) : o.flag ≠ "--" := by
  cases o <;> decide

/-- The first equals sign ends the name of an option. -/
theorem splitEquals_append {name : String} (h : '=' ∉ name.toList) (value : String) :
    splitEquals (name ++ "=" ++ value) = (name, some value) := by
  have htext : (name ++ "=" ++ value).toList = name.toList ++ '=' :: value.toList := by simp
  have hfront : ∀ c ∈ name.toList, (c != '=') = true := by
    intro c hc
    rw [bne_iff_ne]
    rintro rfl
    exact h hc
  have hname : (name.toList ++ '=' :: value.toList).takeWhile (· != '=') = name.toList := by
    rw [List.takeWhile_append_of_pos hfront]
    exact List.append_nil _
  unfold splitEquals
  simp only [htext, hname, List.drop_left, String.ofList_toList]

theorem equals_notMem_flag (o : ValueOption) : '=' ∉ o.flag.toList := by
  cases o <;> decide

theorem lookup_flag (o : ValueOption) : options.lookup o.flag = some (.value o) := by
  cases o <;> rfl

/-- No option has an equals sign in its name. -/
theorem lookup_joined (o : ValueOption) (value : String) :
    options.lookup (o.flag ++ "=" ++ value) = none := by
  have hnames : ∀ e ∈ options, '=' ∉ e.1.toList := by decide
  rw [List.lookup_eq_none_iff]
  intro e he
  rw [bne_iff_ne]
  intro heq
  apply hnames e he
  rw [← heq]
  simp

theorem classify_joined (o : ValueOption) (value : String) :
    classify (o.flag ++ "=" ++ value) = .ok (.request (.value o) (some value)) := by
  obtain ⟨rest, hrest⟩ : ∃ rest, o.flag.toList = '-' :: '-' :: rest := by
    cases o <;> exact ⟨_, rfl⟩
  have htext : (o.flag ++ "=" ++ value).toList = '-' :: '-' :: (rest ++ '=' :: value.toList) := by
    simp [hrest]
  unfold classify
  rw [htext]
  simp only [lookup_joined, splitEquals_append (equals_notMem_flag o), lookup_flag]

theorem scan_cons {text : String} {token : Token} (hseparator : text ≠ "--")
    (htoken : classify text = .ok token) (rest : List String) :
    scan (text :: rest) = (scan rest).map (token :: ·) := by
  rw [scan, if_neg hseparator, htoken]
  cases scan rest <;> rfl

/-- Each part of a command line is sorted by itself, whatever follows. -/
theorem scan_arguments {p : Part} (h : p.isProper = true) (rest : List String) :
    scan (p.arguments ++ rest) = (scan rest).map (p.tokens ++ ·) := by
  cases p with
  | spaced o value =>
    change scan (o.flag :: value :: rest) = _
    rw [scan_cons (flag_ne_separator o) (classify_flag o),
      scan_cons (ne_separator_of_isPlain h) (classify_of_isPlain h)]
    cases scan rest <;> rfl
  | joined o value =>
    have hseparator : o.flag ++ "=" ++ value ≠ "--" := by
      intro heq
      have hclassify := classify_joined o value
      rw [heq] at hclassify
      cases hclassify
    exact scan_cons hseparator (classify_joined o value) rest
  | check on =>
    cases on
    · exact scan_cons (by decide) rfl rest
    · exact scan_cons (by decide) rfl rest
  | plain text => exact scan_cons (ne_separator_of_isPlain h) (classify_of_isPlain h) rest

theorem scan_line {line : List Part} (h : ∀ p ∈ line, p.isProper = true) :
    scan (line.flatMap Part.arguments) = .ok (line.flatMap Part.tokens) := by
  induction line with
  | nil => rfl
  | cons p line ih =>
    obtain ⟨hp, hline⟩ := List.forall_mem_cons.1 h
    rw [List.flatMap_cons, scan_arguments hp, ih hline]
    rfl

/-! ## 3. Taking the arguments -/

namespace Given

def text (g : Given) : ValueOption → Option String
  | .shape => g.shape
  | .format => g.format
  | .form => g.form.map QueryForm.word
  | .subjectVariable => g.subjectVariable
  | .focusNode => g.focusNode
  | .objectPrefix => g.objectPrefix
  | .output => g.output
  | .logLevel => g.logLevel

structure Tells (g : Given) (line : List Part) : Prop where
  text : ∀ o, g.text o = last (Part.value? o) line
  checkShapes : g.checkShapes = last Part.check? line
  shapes : g.shapes = last Part.shapes? line
  shapesDone : g.shapesDone = g.shapes.isSome
  extras : g.extras = []
  subjectSeen : g.subjectSeen = true → ∃ p ∈ line, p.setting = .value .subjectVariable
  focusSeen : g.focusSeen = true → ∃ p ∈ line, p.setting = .value .focusNode

/-- Taking a value changes what has been taken for its option, which may count as given then. -/
structure Took (o : ValueOption) (value : String) (g g' : Given) : Prop where
  text : ∀ o', g'.text o' = if o = o' then some value else g.text o'
  checkShapes : g'.checkShapes = g.checkShapes
  shapes : g'.shapes = g.shapes
  shapesDone : g'.shapesDone = g.shapesDone
  extras : g'.extras = g.extras
  subjectSeen : g'.subjectSeen = true → g.subjectSeen = true ∨ o = .subjectVariable
  focusSeen : g'.focusSeen = true → g.focusSeen = true ∨ o = .focusNode

/-- A value that is valid and not excluded is taken. -/
theorem exists_take_eq_ok (defaults : Config) (g : Given) {o : ValueOption} {value : String}
    (hform : o = .form → value = "select" ∨ value = "construct")
    (hsubject : o = .subjectVariable → g.focusSeen = false)
    (hfocus : o = .focusNode → g.subjectSeen = false) :
    ∃ g', g.take defaults o value = .ok g' ∧ Took o value g g' := by
  cases o
  case form =>
    rcases hform rfl with rfl | rfl
    · exact ⟨_, rfl, fun o' => by cases o' <;> rfl, rfl, rfl, rfl, rfl, .inl, .inl⟩
    · exact ⟨_, rfl, fun o' => by cases o' <;> rfl, rfl, rfl, rfl, rfl, .inl, .inl⟩
  case subjectVariable =>
    rw [take, if_neg (Bool.eq_false_iff.1 (hsubject rfl))]
    exact ⟨_, rfl, fun o' => by cases o' <;> rfl, rfl, rfl, rfl, rfl, fun _ => .inr rfl, .inl⟩
  case focusNode =>
    -- a focus node is taken in any case, and need not count as given
    cases hcounts : focusCounts defaults.focusNode value
    · rw [take, hcounts]
      exact ⟨_, rfl, fun o' => by cases o' <;> rfl, rfl, rfl, rfl, rfl, .inl, .inl⟩
    · rw [take, hcounts, if_neg (by decide), if_neg (Bool.eq_false_iff.1 (hfocus rfl))]
      exact ⟨_, rfl, fun o' => by cases o' <;> rfl, rfl, rfl, rfl, rfl, .inl, fun _ => .inr rfl⟩
  all_goals exact ⟨_, rfl, fun o' => by cases o' <;> rfl, rfl, rfl, rfl, rfl, .inl, .inl⟩

theorem tells_nothing : nothing.Tells [] where
  text o := by cases o <;> rfl
  checkShapes := rfl
  shapes := rfl
  shapesDone := rfl
  extras := rfl
  subjectSeen h := by cases h
  focusSeen h := by cases h

end Given

theorem last_concat {α : Type} (f : Part → Option α) (line : List Part) (p : Part) :
    last f (line ++ [p]) = (f p).or (last f line) := by
  unfold last
  rw [List.filterMap_append]
  cases hp : f p with
  | none => simp [hp]
  | some a => simp [hp]

theorem last_eq_none_iff {α : Type} {f : Part → Option α} {line : List Part} :
    last f line = none ↔ ∀ p ∈ line, f p = none := by
  rw [last, List.getLast?_eq_none_iff, List.filterMap_eq_nil_iff]

theorem exists_mem_concat {line : List Part} {s : Setting} {p : Part}
    (h : ∃ q ∈ line, q.setting = s) : ∃ q ∈ line ++ [p], q.setting = s := by
  obtain ⟨q, hq, hsetting⟩ := h
  exact ⟨q, List.mem_append_left _ hq, hsetting⟩

namespace Given.Tells

/-- What has been taken together with the value of one more part. -/
theorem took {g g' : Given} {line : List Part} (hg : g.Tells line) {p : Part}
    {o : ValueOption} {value : String} (htook : Took o value g g') (hsetting : p.setting = .value o)
    (hvalue : ∀ o', p.value? o' = if o = o' then some value else none) (hcheck : p.check? = none)
    (hshapes : p.shapes? = none) : g'.Tells (line ++ [p]) where
  text o' := by
    rw [htook.text, last_concat, hvalue, hg.text]
    split <;> rfl
  checkShapes := by rw [htook.checkShapes, last_concat, hcheck, hg.checkShapes, Option.none_or]
  shapes := by rw [htook.shapes, last_concat, hshapes, hg.shapes, Option.none_or]
  shapesDone := by rw [htook.shapesDone, htook.shapes, hg.shapesDone]
  extras := by rw [htook.extras, hg.extras]
  subjectSeen h := by
    rcases htook.subjectSeen h with hseen | rfl
    · exact exists_mem_concat (hg.subjectSeen hseen)
    · exact ⟨p, List.mem_append_right _ List.mem_cons_self, hsetting⟩
  focusSeen h := by
    rcases htook.focusSeen h with hseen | rfl
    · exact exists_mem_concat (hg.focusSeen hseen)
    · exact ⟨p, List.mem_append_right _ List.mem_cons_self, hsetting⟩

theorem checked {g : Given} {line : List Part} (hg : g.Tells line) (on : Bool) :
    Tells { g with checkShapes := some on } (line ++ [.check on]) where
  text o := by
    rw [last_concat, show Part.value? o (.check on) = none from rfl, Option.none_or, ← hg.text]
    cases o <;> rfl
  checkShapes := by rw [last_concat, show Part.check? (.check on) = some on from rfl, Option.some_or]
  shapes := by rw [last_concat, show Part.shapes? (.check on) = none from rfl, Option.none_or, hg.shapes]
  shapesDone := hg.shapesDone
  extras := hg.extras
  subjectSeen h := exists_mem_concat (hg.subjectSeen h)
  focusSeen h := exists_mem_concat (hg.focusSeen h)

/-- The plain argument is the shapes file, and its turn comes once. -/
theorem tookPlain {g : Given} {line : List Part} (hg : g.Tells line) (hdone : g.shapesDone = false)
    (text : String) : (g.takePlain text).Tells (line ++ [.plain text]) := by
  rw [takePlain, if_neg (Bool.eq_false_iff.1 hdone)]
  exact {
    text := by
      intro o
      rw [last_concat, show Part.value? o (.plain text) = none from rfl, Option.none_or, ← hg.text]
      cases o <;> rfl
    checkShapes := by
      rw [last_concat, show Part.check? (.plain text) = none from rfl, Option.none_or, ← hg.checkShapes]
    shapes := by
      rw [last_concat, show Part.shapes? (.plain text) = some text from rfl, Option.some_or]
    shapesDone := rfl
    extras := hg.extras
    subjectSeen := fun h => exists_mem_concat (hg.subjectSeen h)
    focusSeen := fun h => exists_mem_concat (hg.focusSeen h) }

end Given.Tells

theorem Part.shapes?_eq_none {p : Part} (h : p.setting ≠ .shapes) : p.shapes? = none := by
  cases p with
  | plain text => exact absurd rfl h
  | spaced o value => rfl
  | joined o value => rfl
  | check on => rfl

theorem Part.shapes?_ne_none {p : Part} (h : p.setting = .shapes) : p.shapes? ≠ none := by
  cases p with
  | plain text => exact Option.some_ne_none text
  | spaced o value => cases h
  | joined o value => cases h
  | check on => cases h

/-- A separator belongs to the plain argument before it. -/
theorem consume_plain (defaults : Config) (text : String) {rest : List Token}
    (h : rest.head? ≠ some .separator) (g : Given) :
    consume defaults (.plain text :: rest) g = consume defaults rest (g.takePlain text) := by
  cases rest with
  | nil => rfl
  | cons token rest => cases token <;> first | rfl | exact absurd rfl h

theorem head?_tokens_ne_separator (line : List Part) :
    (line.flatMap Part.tokens).head? ≠ some .separator := by
  cases line with
  | nil => simp
  | cons p line => cases p <;> simp [Part.tokens]

section Step

variable {env : Config.Environment} {line before after : List Part} {p : Part} {g : Given}
  (h : Acceptable env line) (hline : line = before ++ p :: after) (hg : g.Tells before)
include h hline hg

/-- The value of a part is taken: the form is valid, and of subject variable and focus node only one
has been seen. -/
theorem exists_take_part (defaults : Config) {o : ValueOption} {value : String}
    (hp : p = .spaced o value ∨ p = .joined o value) :
    ∃ g', g.take defaults o value = .ok g' ∧ g'.Tells (before ++ [p]) := by
  have hmem : p ∈ line := by simp [hline]
  have hbefore {q : Part} (hq : q ∈ before) : q ∈ line := by simp [hline, hq]
  have hsetting : p.setting = .value o := by rcases hp with rfl | rfl <;> rfl
  have hvalue : ∀ o', p.value? o' = if o = o' then some value else none := by
    rcases hp with rfl | rfl <;> exact fun o' => rfl
  have hform : o = .form → value = "select" ∨ value = "construct" := by
    rintro rfl
    exact h.forms p hmem value (by rw [hvalue, if_pos rfl])
  -- a flag that is set tells of an earlier part, beside which the line has no other of the two
  have hsubject : o = .subjectVariable → g.focusSeen = false := by
    rintro rfl
    rw [Bool.eq_false_iff]
    intro hseen
    obtain ⟨q, hq, hfocus⟩ := hg.focusSeen hseen
    exact h.exclusive.elim (fun hnone => hnone p hmem hsetting)
      fun hnone => hnone q (hbefore hq) hfocus
  have hfocus : o = .focusNode → g.subjectSeen = false := by
    rintro rfl
    rw [Bool.eq_false_iff]
    intro hseen
    obtain ⟨q, hq, hsubject⟩ := hg.subjectSeen hseen
    exact h.exclusive.elim (fun hnone => hnone q (hbefore hq) hsubject)
      fun hnone => hnone p hmem hsetting
  obtain ⟨g', htake, htook⟩ := g.exists_take_eq_ok defaults hform hsubject hfocus
  refine ⟨g', htake, hg.took htook hsetting hvalue ?_ ?_⟩
  · rcases hp with rfl | rfl <;> rfl
  · rcases hp with rfl | rfl <;> rfl

/-- There is no shapes file before the only one. -/
theorem shapesDone_eq_false (hp : p.setting = .shapes) : g.shapesDone = false := by
  have hnone : before.filter (·.setting = .shapes) = [] := by
    have hsingle := h.single
    rw [hline, List.filter_append, List.filter_cons_of_pos (by simp [hp]), List.length_append,
      List.length_cons] at hsingle
    exact List.length_eq_zero_iff.1 (by omega)
  have hlast : last Part.shapes? before = none := by
    rw [last_eq_none_iff]
    intro q hq
    exact Part.shapes?_eq_none (by simpa using List.filter_eq_nil_iff.1 hnone q hq)
  rw [hg.shapesDone, hg.shapes, hlast]
  rfl

/-- Taking one part. -/
theorem exists_consume_part (defaults : Config) :
    ∃ g', g'.Tells (before ++ [p]) ∧
      consume defaults (p.tokens ++ after.flatMap Part.tokens) g =
        consume defaults (after.flatMap Part.tokens) g' := by
  cases p with
  | spaced o value =>
    obtain ⟨g', htake, hg'⟩ := exists_take_part h hline hg defaults (.inl rfl)
    refine ⟨g', hg', ?_⟩
    change consume defaults (.request (.value o) none :: .plain value :: _) g = _
    rw [consume, htake]
    rfl
  | joined o value =>
    obtain ⟨g', htake, hg'⟩ := exists_take_part h hline hg defaults (.inr rfl)
    refine ⟨g', hg', ?_⟩
    change consume defaults (.request (.value o) (some value) :: _) g = _
    rw [consume, htake]
    rfl
  | check on =>
    exact ⟨{ g with checkShapes := some on }, hg.checked on, rfl⟩
  | plain text =>
    have hdone := shapesDone_eq_false h hline hg rfl
    exact ⟨g.takePlain text, hg.tookPlain hdone text,
      consume_plain defaults text (head?_tokens_ne_separator after) g⟩

end Step

/-- Taking a whole command line. -/
theorem exists_consume_line {env : Config.Environment} {line : List Part} (h : Acceptable env line)
    (defaults : Config) :
    ∃ g : Given, g.Tells line ∧ consume defaults (line.flatMap Part.tokens) .nothing = .ok g := by
  -- on the parts that are left, for every beginning of the line that has been taken
  suffices hrun : ∀ after before g, line = before ++ after → Given.Tells g before →
      ∃ g' : Given, g'.Tells line ∧ consume defaults (after.flatMap Part.tokens) g = .ok g' from
    hrun line [] .nothing rfl Given.tells_nothing
  intro after
  induction after with
  | nil =>
    intro before g hline hg
    rw [List.append_nil] at hline
    exact ⟨g, hline ▸ hg, rfl⟩
  | cons p after ih =>
    intro before g hline hg
    obtain ⟨g₁, hg₁, hstep⟩ := exists_consume_part h hline hg defaults
    obtain ⟨g', hg', hrest⟩ := ih (before ++ [p]) g₁ (by simp [hline]) hg₁
    exact ⟨g', hg', by rw [List.flatMap_cons, hstep, hrest]⟩

/-! ## 4. The environment -/

theorem formOf_word (form : QueryForm) : formOf (some form.word) = form := by
  cases form <;> rfl

theorem ofWord?_lower {word : String} (h : Number.spells "select" word.toList = true ∨
    Number.spells "construct" word.toList = true) :
    QueryForm.ofWord? (Text.lower word) = .ok (formOf (some word)) := by
  rcases h with hselect | hconstruct
  · have hother : Number.spells "construct" word.toList = false := by
      rw [Number.spells, beq_iff_eq] at hselect
      rw [Number.spells, hselect]
      decide
    rw [(Text.lower_eq_iff_spells (by decide) word).2 hselect, formOf, Option.any_some, hother]
    rfl
  · rw [(Text.lower_eq_iff_spells (by decide) word).2 hconstruct, formOf, Option.any_some, hconstruct]
    rfl

theorem lower_getD_beq_true (value : Option String) :
    (Text.lower (value.getD "false") == "true") =
      value.any fun w => Number.spells "true" w.toList := by
  cases value with
  | none => decide
  | some word =>
    rw [Option.getD_some, Option.any_some, Bool.eq_iff_iff, beq_iff_eq,
      Text.lower_eq_iff_spells (by decide)]

/-- The environment gives the settings of the empty command line. -/
theorem ofEnvironment_eq_precedence {env : Config.Environment} {line : List Part}
    (h : Acceptable env line) : Config.ofEnvironment env = .ok (precedence env []) := by
  have hform : QueryForm.ofWord? (Text.lower ((Config.setting? env "FORM").getD "select")) =
      .ok (formOf (Config.setting? env "FORM")) := by
    cases hword : Config.setting? env "FORM" with
    | none => exact ofWord?_lower (.inl rfl)
    | some word => exact ofWord?_lower (h.environmentForm word hword)
  unfold Config.ofEnvironment
  rw [hform, lower_getD_beq_true]
  rfl

attribute [ext] Config

/-- What has been taken from a command line puts the settings of the environment out of force. -/
theorem configure_eq_precedence {env : Config.Environment} {line : List Part} {g : Given}
    (hg : g.Tells line) {shapes : PathName}
    (hshapes : (g.shapes.map PathName.ofText).or (precedence env []).shapes = some shapes) :
    configure (precedence env []) g shapes = precedence env line := by
  have hsubject : g.subjectVariable = last (Part.value? .subjectVariable) line :=
    hg.text .subjectVariable
  apply Config.ext
  case shapes =>
    change some shapes = ((last Part.shapes? line).or (Config.setting? env "SHAPES")).map _
    rw [← hshapes, ← hg.shapes, Option.map_or]
    rfl
  case shape => exact congrArg (·.or (Config.setting? env "SHAPE")) (hg.text .shape)
  case form =>
    have hform : g.form.map QueryForm.word = last (Part.value? .form) line := hg.text .form
    change g.form.getD (formOf (Config.setting? env "FORM")) = formOf ((last _ line).or _)
    rw [← hform]
    cases g.form with
    | none => rfl
    | some form => exact (formOf_word form).symm
  case subjectVariable =>
    change (g.subjectVariable.filter (!·.isEmpty)).getD
      ((Config.setting? env "SUBJECT_VARIABLE").getD "node") = Option.getD (Option.or _ _) _
    rw [hsubject, Option.getD_or]
  case focusNode =>
    have hfocus : g.focusNode = last (Part.value? .focusNode) line := hg.text .focusNode
    change (if g.subjectVariable.isSome then none
      else g.focusNode.or (Config.setting? env "FOCUS_NODE")) = if _ then none else Option.or _ _
    rw [hsubject, hfocus]
  case objectPrefix =>
    have hobject : g.objectPrefix = last (Part.value? .objectPrefix) line := hg.text .objectPrefix
    change g.objectPrefix.getD ((Config.setting? env "OBJECT_VARIABLE_PREFIX").getD "") =
      Option.getD (Option.or _ _) _
    rw [hobject, Option.getD_or]
  case format => exact congrArg (·.or (Config.setting? env "FORMAT")) (hg.text .format)
  case output =>
    have houtput : g.output = last (Part.value? .output) line := hg.text .output
    change (g.output.map PathName.ofText).or ((Config.setting? env "OUTPUT").map PathName.ofText) =
      Option.map _ (Option.or _ _)
    rw [houtput, Option.map_or]
  case checkShapes => exact congrArg (Option.getD · _) hg.checkShapes
  case logLevel =>
    have hlevel : g.logLevel = last (Part.value? .logLevel) line := hg.text .logLevel
    change Text.upper (g.logLevel.getD (Text.upper ((Config.setting? env "LOG_LEVEL").getD "WARNING"))) =
      Text.upper (Option.getD (Option.or _ _) _)
    rw [← hlevel, Option.getD_or]
    -- the level of the environment is in upper case already
    cases g.logLevel with
    | none => exact Text.upper_upper _
    | some level => rfl

/-- An acceptable command line is read, and each setting is the last one given. -/
theorem read_of_acceptable {env : Config.Environment} {line : List Part} (h : Acceptable env line) :
    read env (line.flatMap Part.arguments) = .ok (precedence env line) := by
  obtain ⟨g, hg, hconsume⟩ := exists_consume_line h (precedence env [])
  have hgiven : (g.shapes.map PathName.ofText).or (precedence env []).shapes ≠ none := by
    rw [Ne, Option.or_eq_none_iff, Option.map_eq_none_iff, hg.shapes, last_eq_none_iff]
    rintro ⟨hline, henv⟩
    rcases h.shapes with ⟨p, hp, hsetting⟩ | hset
    · exact absurd (hline p hp) (Part.shapes?_ne_none hsetting)
    · have hnone : Config.setting? env "SHAPES" = none := Option.map_eq_none_iff.1 henv
      rw [hnone] at hset
      cases hset
  obtain ⟨shapes, hshapes⟩ := Option.ne_none_iff_exists'.1 hgiven
  unfold read
  refine bind_eq_ok_iff.2 ⟨precedence env [], ?_, bind_eq_ok_iff.2 ⟨line.flatMap Part.tokens, ?_,
    bind_eq_ok_iff.2 ⟨g, hconsume, ?_⟩⟩⟩
  · rw [ofEnvironment_eq_precedence h]
    rfl
  · rw [scan_line h.proper]
    rfl
  · rw [hg.extras, hshapes, if_neg (by decide)]
    exact congrArg Except.ok (configure_eq_precedence hg hshapes)

/-! ## 5. Moving parts -/

/-- Command lines that have the same parts for each setting, in the same order. -/
def Interleaved (line line' : List Part) : Prop :=
  ∀ s : Setting, line'.filter (·.setting = s) = line.filter (·.setting = s)

theorem last_filter {α : Type} {f : Part → Option α} {s : Setting}
    (h : ∀ p : Part, p.setting ≠ s → f p = none) (line : List Part) :
    last f (line.filter (·.setting = s)) = last f line := by
  unfold last
  rw [List.filterMap_filter]
  refine congrArg List.getLast? (List.filterMap_congr fun p _ => ?_)
  by_cases hs : p.setting = s
  · simp [hs]
  · simp [hs, h p hs]

theorem Part.value?_eq_none {o : ValueOption} {p : Part} (h : p.setting ≠ .value o) :
    p.value? o = none := by
  cases p with
  | spaced o' value => exact if_neg fun heq => h (congrArg Setting.value heq)
  | joined o' value => exact if_neg fun heq => h (congrArg Setting.value heq)
  | check on => rfl
  | plain text => rfl

theorem Part.check?_eq_none {p : Part} (h : p.setting ≠ .check) : p.check? = none := by
  cases p with
  | check on => exact absurd rfl h
  | spaced o value => rfl
  | joined o value => rfl
  | plain text => rfl

namespace Interleaved

variable {line line' : List Part} (h : Interleaved line line')
include h

theorem mem_iff (p : Part) : p ∈ line' ↔ p ∈ line := by
  have hfilter (l : List Part) : p ∈ l ↔ p ∈ l.filter (·.setting = p.setting) := by simp
  rw [hfilter line', h, ← hfilter]

theorem last_eq {α : Type} {f : Part → Option α} {s : Setting}
    (hf : ∀ p : Part, p.setting ≠ s → f p = none) : last f line' = last f line := by
  rw [← last_filter hf, h, last_filter hf]

theorem precedence_eq (env : Config.Environment) : precedence env line' = precedence env line := by
  have hvalue (o : ValueOption) : last (Part.value? o) line' = last (Part.value? o) line :=
    h.last_eq fun _ => Part.value?_eq_none
  have hcheck : last Part.check? line' = last Part.check? line :=
    h.last_eq fun _ => Part.check?_eq_none
  have hshapes : last Part.shapes? line' = last Part.shapes? line :=
    h.last_eq fun _ => Part.shapes?_eq_none
  unfold precedence
  simp only [hvalue, hcheck, hshapes]

theorem acceptable {env : Config.Environment} (hline : Acceptable env line) : Acceptable env line' where
  environmentForm := hline.environmentForm
  proper p hp := hline.proper p ((h.mem_iff p).1 hp)
  forms p hp := hline.forms p ((h.mem_iff p).1 hp)
  exclusive := hline.exclusive.imp (fun hnone p hp => hnone p ((h.mem_iff p).1 hp))
    fun hnone p hp => hnone p ((h.mem_iff p).1 hp)
  single := by rw [h]; exact hline.single
  shapes := hline.shapes.imp_left fun ⟨p, hp, hsetting⟩ => ⟨p, (h.mem_iff p).2 hp, hsetting⟩

end Interleaved

/-- Reading an acceptable command line gives each setting its last value there, else that of the
environment, else its default, and so does any interleaving of its parts that keeps the order of the
parts for each setting. -/
theorem read_eq_precedence (env : Config.Environment) (line : List Part) (h : Acceptable env line) :
    read env (line.flatMap Part.arguments) = .ok (precedence env line) ∧
    ∀ line', Interleaved line line' →
      read env (line'.flatMap Part.arguments) = read env (line.flatMap Part.arguments) := by
  refine ⟨read_of_acceptable h, fun line' hmoved => ?_⟩
  rw [read_of_acceptable h, read_of_acceptable (hmoved.acceptable h), hmoved.precedence_eq]

def sessionEnvironment : Config.Environment :=
  [("SHAPE_TO_QUERY_FORM", "Construct"), ("SHAPE_TO_QUERY_FOCUS_NODE", "http://example.org/a"),
    ("SHAPE_TO_QUERY_CHECK_SHAPES", "TRUE"), ("SHAPE_TO_QUERY_LOG_LEVEL", "debug"),
    ("SHAPE_TO_QUERY_SHAPE", "")]

def sessionLine : List Part :=
  [.joined .subjectVariable "", .spaced .format "nt", .plain "shapes.ttl", .check false,
    .joined .format "turtle", .spaced .output "-"]

theorem sessionLine_acceptable : Acceptable sessionEnvironment sessionLine where
  environmentForm word h := by
    have hform : Config.setting? sessionEnvironment "FORM" = some "Construct" := by decide +kernel
    rw [hform, Option.some.injEq] at h
    subst h
    decide +kernel
  proper := by decide
  forms p hp word hword := by
    have hnone : ∀ q ∈ sessionLine, q.value? .form = none := by decide
    rw [hnone p hp] at hword
    cases hword
  exclusive := .inr (by decide)
  single := by decide
  shapes := .inl (by decide)

theorem read_sessionLine :
    Acceptable sessionEnvironment sessionLine ∧
    precedence sessionEnvironment sessionLine =
      ⟨some (.ofText "shapes.ttl"), none, .construct, "node", none, "", some "turtle",
        some (.ofText "-"), false, "DEBUG"⟩ ∧
    read sessionEnvironment (sessionLine.flatMap Part.arguments) =
      .ok (precedence sessionEnvironment sessionLine) ∧
    ∀ line', Interleaved sessionLine line' →
      read sessionEnvironment (line'.flatMap Part.arguments) =
        read sessionEnvironment (sessionLine.flatMap Part.arguments) := by
  have hread := read_eq_precedence sessionEnvironment sessionLine sessionLine_acceptable
  exact ⟨sessionLine_acceptable, by decide +kernel, hread⟩

end ShaclQuery.Arguments
