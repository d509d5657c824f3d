/-! # Path names

A path is a root and the names of its steps. Empty steps and single points are left out, double points
stay. Exactly two slashes at the front make a root of their own.
-/

namespace ShaclQuery

/-- A path: its root, which is empty for a relative path, and its steps. -/
structure PathName where
  root : String
  steps : List String
  deriving DecidableEq, Repr

namespace PathName

def pieces (separator : Char) : List Char → List (List Char)
  | [] => [[]]
  | c :: rest =>
    if c = separator then [] :: pieces separator rest
    else
      match pieces separator rest with
      | [] => [[c]]
      | piece :: more => (c :: piece) :: more

def ofText (text : String) : PathName :=
  let chars := text.toList
  let root :=
    if "///".toList.isPrefixOf chars then "/"
    else if "//".toList.isPrefixOf chars then "//"
    else if "/".toList.isPrefixOf chars then "/"
    else ""
  ⟨root, ((pieces '/' chars).map String.ofList).filter fun s => s != "" && s != "."⟩

def text (p : PathName) : String :=
  if p.root = "" && p.steps.isEmpty then "." else p.root ++ String.intercalate "/" p.steps

def parent (p : PathName) : PathName := ⟨p.root, p.steps.dropLast⟩

theorem parent_steps_length_lt {p : PathName} (h : p.steps ≠ []) :
    p.parent.steps.length < p.steps.length := by
  have hpos : 0 < p.steps.length := List.length_pos_iff.2 h
  simp only [parent, List.length_dropLast]
  omega

def isAbsolute (p : PathName) : Bool := p.root != ""

/-- The last step behind its last point, if a character other than a point comes before that. -/
def suffix? (p : PathName) : Option String := do
  let name := (← p.steps.getLast?).toList
  let tail := (name.reverse.takeWhile (· != '.')).reverse
  let stem := name.take (name.length - tail.length - 1)
  if tail.length < name.length && stem.any (· != '.') then some (String.ofList tail) else none

/-! ## As an IRI -/

def utf8 (c : Char) : List Nat :=
  let n := c.toNat
  if n < 0x80 then [n]
  else if n < 0x800 then [0xc0 + n / 0x40, 0x80 + n % 0x40]
  else if n < 0x10000 then [0xe0 + n / 0x1000, 0x80 + n / 0x40 % 0x40, 0x80 + n % 0x40]
  else
    [0xf0 + n / 0x40000, 0x80 + n / 0x1000 % 0x40, 0x80 + n / 0x40 % 0x40, 0x80 + n % 0x40]

def percentByte (n : Nat) : List Char :=
  ['%', (Nat.digitChar (n / 16)).toUpper, (Nat.digitChar (n % 16)).toUpper]

def percentEncode (step : String) : List Char :=
  step.toList.flatMap fun c =>
    if c.isAlphanum || c = '_' || c = '.' || c = '-' || c = '~' then [c]
    else (utf8 c).flatMap percentByte

/-- The steps that remain when each double point takes the one before it away. -/
def withoutClimbs (steps : List String) : List String :=
  (steps.foldl (fun done s => if s = ".." then done.drop 1 else s :: done) []).reverse

def fileIri (workingDirectory p : PathName) : String :=
  let steps := if p.isAbsolute then p.steps else workingDirectory.steps ++ p.steps
  "file://" ++ String.ofList ((withoutClimbs steps).flatMap fun s => '/' :: percentEncode s)

def directoryIri (p : PathName) : String := fileIri p p ++ "/"

end PathName

end ShaclQuery
