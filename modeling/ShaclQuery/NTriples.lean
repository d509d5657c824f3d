import ShaclQuery.Graph
import ShaclQuery.Turtle.Token

/-! # Reading N-Triples

One triple on a line. Blank nodes are numbered in the order in which their labels appear.
-/

namespace ShaclQuery.NTriples

open Text

variable [ForeignTypes] (row : Surrogates)

/-! ## 1. Lines -/

/-- The lines of a text; `line` holds, last first, what the current one has so far. A last line
without an end counts when it has anything but white space. -/
def linesFrom (line : List Char) : List Char → List (List Char)
  | [] => if line.all isSpace then [] else [line.reverse]
  | '\r' :: '\n' :: rest => line.reverse :: linesFrom [] rest
  | c :: rest =>
    if c = '\r' || c = '\n' then line.reverse :: linesFrom [] rest else linesFrom (c :: line) rest

def lines (text : List Char) : List (List Char) := linesFrom [] text

def isGap (c : Char) : Bool := c = ' ' || c = '\t'

/-! ## 2. Terms -/

/-- Replaces the escapes of a text; others stay. The first `done` characters belong to an escape that
has been replaced. -/
def unescapeFrom : Nat → List Char → Option (List Char)
  | _, [] => some []
  | done + 1, _ :: rest => unescapeFrom done rest
  | 0, c :: rest =>
    let table : List (Char × Char) := [('t', '\t'), ('b', '\x08'), ('n', '\n'), ('r', '\r'),
      ('f', '\x0c'), ('\x22', '\x22'), ('\x27', '\x27'), ('\\', '\\')]
    let code (width : Nat) : Option Nat :=
      let digits := (rest.drop 1).take width
      if digits.length < width then none else Turtle.hexNumber? digits
    let replaced : Option (Option Char × Nat) :=
      if c != '\\' then none
      else
        match rest with
        | 'u' :: _ => (code 4).map fun n => (row.charOf? n, 5)
        | 'U' :: _ => (code 8).map fun n => (row.charOf? n, 9)
        | e :: _ => (table.lookup e).map fun d => (some d, 1)
        | [] => none
    match replaced with
    | some (some d, used) => (unescapeFrom used rest).map (d :: ·)
    | some (none, _) => none
    | none => (unescapeFrom 0 rest).map (c :: ·)

def unescape? (text : List Char) : Option String := (unescapeFrom row 0 text).map String.ofList

/-- An absolute IRI in angle brackets, and the rest. The part before the colon may hold anything. -/
def iri? : List Char → Option (String × List Char)
  | '<' :: text => do
    let scheme := text.takeWhile (· != ':')
    let body := (text.drop scheme.length).takeWhile fun c =>
      !(isSpace c || c = '\x22' || c = '<' || c = '>')
    match text.drop (scheme.length + body.length) with
    | '>' :: rest =>
      if scheme.isEmpty || body.isEmpty then none
      return (← unescape? row (scheme ++ body), rest)
    | _ => none
  | _ => none

/-- The inside of a string up to its closing quote, escapes left as they are. -/
def quotedBody : List Char → Option (List Char × List Char)
  | [] => none
  | ['\\'] => none
  | '\\' :: c :: rest => (quotedBody rest).map fun (s, r) => ('\\' :: c :: s, r)
  | c :: rest =>
    if c = '\x22' then some ([], rest) else (quotedBody rest).map fun (s, r) => (c :: s, r)

def literal? : List Char → Option (Literal × List Char)
  | '\x22' :: text => do
    let (body, rest) ← quotedBody text
    let value ← unescape? row body
    let tagged := match rest with
      | '@' :: rest => Turtle.language? rest
      | _ => none
    let typed := match rest with
      | '^' :: '^' :: rest => iri? row rest
      | _ => none
    match tagged, typed with
    | some (tag, rest), _ => return (⟨value, some (String.ofList tag), none⟩, rest)
    | none, some (datatype, rest) => return (Literal.typed value datatype, rest)
    | none, none => return (⟨value, none, none⟩, rest)
  | _ => none

def label? : List Char → Option (String × List Char)
  | '_' :: ':' :: text =>
    let inside (c : Char) : Bool := c.isAlphanum || c = '_' || c = ':' || c = '-' || c = '.'
    let name := ((text.takeWhile inside).reverse.dropWhile (· == '.')).reverse
    match name with
    | [] => none
    | c :: _ =>
      if c = '-' || c = '.' then none else some (String.ofList name, text.drop name.length)
  | _ => none

/-! ## 3. Triples -/

def labelled (labels : List String) (label : String) : Term × List String :=
  let number := labels.findIdx (· == label)
  (.blank ("b" ++ toString (number + 1)),
    if number < labels.length then labels else labels ++ [label])

def node? (labels : List String) (text : List Char) : Option (Term × List String × List Char) :=
  match iri? row text with
  | some (iri, rest) => some (.iri iri, labels, rest)
  | none => do
    let (label, rest) ← label? text
    let (t, labels) := labelled labels label
    return (t, labels, rest)

def gap? (text : List Char) : Option (List Char) :=
  if text.head?.any isGap then some (text.dropWhile isGap) else none

def isTail (text : List Char) : Bool :=
  match text.dropWhile isGap with
  | '.' :: rest =>
    match rest.dropWhile isGap with
    | [] => true
    | c :: _ => c = '#'
  | _ => false

/-- The triple on a line, if there is one, and the labels met. -/
def readLine? (labels : List String) (line : List Char) : Option (List Triple × List String) := do
  let text := line.dropWhile isGap
  if text.isEmpty || text.head? = some '#' then return ([], labels)
  let (s, labels, rest) ← node? row labels text
  let (p, rest) ← iri? row (← gap? rest)
  let rest ← gap? rest
  match literal? row rest with
  | some (l, rest) => if isTail rest then some ([⟨s, .iri p, .literal l⟩], labels) else none
  | none =>
    let (o, labels, rest) ← node? row labels rest
    if isTail rest then some ([⟨s, .iri p, o⟩], labels) else none

def readLines? (labels : List String) : List (List Char) → Option (List Triple)
  | [] => some []
  | line :: more => do
    let (ts, labels) ← readLine? row labels line
    return ts ++ (← readLines? labels more)

def read? (text : String) : Option (List Triple) := readLines? row [] (lines text.toList)

end ShaclQuery.NTriples
