import ShaclQuery.Term.Bytes
import ShaclQuery.Text.Surrogate

/-! # Turtle tokens

The smallest parts of a Turtle document, each as a function that takes its characters off the front
of a text. `none` means that the text does not start with such a part, or that the part is malformed.
-/

namespace ShaclQuery.Turtle

open Text

/-! ## 1. Blanks and characters -/

/-- Drops blanks, line ends and comments, and semicolons too when `semicolons` is set. A carriage
return counts only before a line feed. -/
def skip (semicolons comment : Bool) : List Char → List Char
  | [] => []
  | c :: rest =>
    if comment then skip semicolons (c != '\n') rest
    else if c = ' ' || c = '\t' || c = '\n' || (semicolons && c = ';') then
      skip semicolons false rest
    else if c = '\r' && rest.head? = some '\n' then skip semicolons false rest
    else if c = '#' then skip semicolons true rest
    else c :: rest

def skipBlank (text : List Char) : List Char := skip false false text

def skipSeparators (text : List Char) : List Char := skip true false text

def endsName (c : Char) : Bool :=
  "\t\r\n !\"#$&'()*,+/;<=>?@[\\]^\x60{|}~".toList.contains c

def endsKeyword (c : Char) : Bool := endsName c || c = '.'

def endsPrefix (c : Char) : Bool := endsName c || c = ':'

/-- Characters a number may start with, and a name may not. -/
def startsNumber (c : Char) : Bool := c.isDigit || c = '-' || c = '+' || c = '.'

def keyword? (ends : Char → Bool) (word : String) (text : List Char) : Option (List Char) :=
  let rest := text.drop word.toList.length
  if word.toList.isPrefixOf text && rest.head?.any ends then some rest else none

def atKeyword? (word : String) (text : List Char) : Option (List Char) :=
  match text with
  | '@' :: rest => keyword? endsKeyword word rest
  | _ => keyword? endsKeyword word text

/-! ## 2. Escapes -/

def hexNumber? (digits : List Char) : Option Nat :=
  digits.foldl (fun n c => do return (← n) * 16 + (← hexValue? c)) (some 0)

variable (row : Surrogates)

/-- The characters a numeric escape stands for; what is not hexadecimal stays as it is. -/
def numericEscape? (mark : Char) (width : Nat) (text : List Char) : Option (List Char) :=
  let digits := text.take width
  if digits.length < width then none
  else
    match hexNumber? digits with
    | some code => (row.charOf? code).map fun c => [c]
    | none => some ('\\' :: mark :: digits)

/-- Replaces numeric escapes with a mark in an IRI; the first `done` characters belong to an escape
that has been replaced. -/
def expandFrom (mark : Char) (width : Nat) : Nat → List Char → Option (List Char)
  | _, [] => some []
  | done + 1, _ :: rest => expandFrom mark width done rest
  | 0, c :: rest =>
    let digits := (rest.drop 1).take width
    if c = '\\' && rest.head? = some mark && digits.length = width && (hexNumber? digits).isSome then
      do
        let expanded ← (hexNumber? digits).bind row.charOf?
        return expanded :: (← expandFrom mark width (width + 1) rest)
    else (expandFrom mark width 0 rest).map (c :: ·)

/-- An IRI without numeric escapes, the long ones first. -/
def expandIri? (iri : List Char) : Option (List Char) :=
  (expandFrom row 'U' 8 0 iri).bind (expandFrom row 'u' 4 0)

/-- The characters of an escape in a string, and how many characters behind the backslash it
takes. -/
def stringEscape? : List Char → Option (List Char × Nat)
  | [] => none
  | 'u' :: rest => (numericEscape? row 'u' 4 rest).map (·, 5)
  | 'U' :: rest => (numericEscape? row 'U' 8 rest).map (·, 9)
  | c :: _ =>
    let table : List (Char × Char) := [('a', '\x07'), ('b', '\x08'), ('f', '\x0c'), ('r', '\r'),
      ('t', '\t'), ('v', '\x0b'), ('n', '\n'), ('\\', '\\'), ('\x22', '\x22'), ('\x27', '\x27')]
    (table.lookup c).map fun e => ([e], 1)

/-! ## 3. Strings -/

/-- What follows the opening quotes of a string: its text and the rest. A long string ends at the
last three of at most five quotes. The first `done` characters belong to an escape that has been
read. -/
def stringFrom (long : Bool) (quote : Char) : Nat → List Char → Option (List Char × List Char)
  | _, [] => none
  | done + 1, _ :: rest => stringFrom long quote done rest
  | 0, c :: rest =>
    if c = quote then
      if !long then some ([], rest)
      else
        let more := ((rest.take 4).takeWhile (· == quote)).length
        if 2 ≤ more then some (List.replicate (more - 2) quote, rest.drop more)
        else (stringFrom long quote 0 rest).map fun (s, r) => (c :: s, r)
    else if !long && (c = '\n' || c = '\r') then none
    else if c = '\\' then do
      let (chars, used) ← stringEscape? row rest
      let (s, r) ← stringFrom long quote used rest
      return (chars ++ s, r)
    else (stringFrom long quote 0 rest).map fun (s, r) => (c :: s, r)

def string? : List Char → Option (List Char × List Char)
  | [] => none
  | quote :: rest =>
    if quote != '\x22' && quote != '\x27' then none
    else if [quote, quote].isPrefixOf rest then stringFrom row true quote 0 (rest.drop 2)
    else stringFrom row false quote 0 rest

/-- Subtags of letters and digits, each behind a hyphen. `open_` holds, last first, what was taken
since the last complete subtag. -/
def subtags (open_ : List Char) : List Char → List Char × List Char
  | [] => if open_.length ≤ 1 then ([], open_.reverse) else (open_.reverse, [])
  | c :: rest =>
    if c.isAlphanum && !open_.isEmpty then subtags (c :: open_) rest
    else if c = '-' && open_.length != 1 then
      let (taken, left) := subtags ['-'] rest
      (open_.reverse ++ taken, left)
    else if open_.length ≤ 1 then ([], open_.reverse ++ c :: rest)
    else (open_.reverse, c :: rest)

def language? (text : List Char) : Option (List Char × List Char) :=
  match text.takeWhile Char.isAlpha with
  | [] => none
  | letters =>
    let (more, rest) := subtags [] (text.drop letters.length)
    some (letters ++ more, rest)

/-! ## 4. Numbers -/

inductive NumberKind
  | integer
  | decimal
  | double
  deriving DecidableEq, Repr

def digits (text : List Char) : List Char × List Char :=
  (text.takeWhile Char.isDigit, text.dropWhile Char.isDigit)

def sign : List Char → List Char × List Char
  | '+' :: rest => (['+'], rest)
  | '-' :: rest => (['-'], rest)
  | text => ([], text)

def exponent? : List Char → Option (List Char × List Char)
  | [] => none
  | e :: text =>
    if e != 'e' && e != 'E' then none
    else
      let (s, unsigned) := sign text
      let (ds, rest) := digits unsigned
      if ds.isEmpty then none else some (e :: s ++ ds, rest)

/-- A number: with an exponent it is a double, with digits behind a point a decimal, otherwise an
integer. -/
def number? (text : List Char) : Option (NumberKind × List Char × List Char) :=
  let (s, unsigned) := sign text
  let (whole, behind) := digits unsigned
  match behind with
  | '.' :: afterPoint =>
    let (fraction, rest) := digits afterPoint
    let mantissa := s ++ whole ++ '.' :: fraction
    match if whole.isEmpty && fraction.isEmpty then none else exponent? rest with
    | some (e, rest) => some (.double, mantissa ++ e, rest)
    | none =>
      if !fraction.isEmpty then some (.decimal, mantissa, rest)
      else if whole.isEmpty then none
      else some (.integer, s ++ whole, behind)
  | _ =>
    if whole.isEmpty then none
    else
      match exponent? behind with
      | some (e, rest) => some (.double, s ++ whole ++ e, rest)
      | none => some (.integer, s ++ whole, behind)

/-! ## 5. Names -/

def isEscapable (c : Char) : Bool := "_~.-!$&'()*+,;=/?#@%".toList.contains c

def isHex (c : Char) : Bool := (hexValue? c).isSome

/-- A local name up to a character that ends it. A percent sign needs two hexadecimal digits. -/
def localName? (ends : Char → Bool) : List Char → Option (List Char × List Char)
  | [] => some ([], [])
  | ['\\'] => none
  | '\\' :: c :: rest =>
    if isEscapable c then (localName? ends rest).map fun (s, r) => (c :: s, r) else none
  | c :: rest =>
    if ends c then some ([], c :: rest)
    else if c = '%' && !((rest.take 2).length = 2 && (rest.take 2).all isHex) then none
    else (localName? ends rest).map fun (s, r) => (c :: s, r)

/-- A prefixed name: its prefix and its local name, and the rest. A point at the end of the local
name is not part of it, and a local name may not be a single point. -/
def prefixedName? (text : List Char) : Option (List Char × List Char × List Char) :=
  if text.head?.any startsNumber then none
  else
    let name := text.takeWhile fun c => !endsPrefix c
    match text.drop name.length with
    | ':' :: rest => do
      if name.getLast? = some '.' then none
      let (local_, rest) ← localName? (if name = ['_'] then endsPrefix else endsName) rest
      if local_.getLast? != some '.' then some (name, local_, rest)
      else if local_.length = 1 then none
      else some (name, local_.dropLast, '.' :: rest)
    | _ => none

def bracketed? : List Char → Option (List Char × List Char)
  | '<' :: text =>
    let iri := text.takeWhile (· != '>')
    match text.drop iri.length with
    | '>' :: rest => some (iri, rest)
    | _ => none
  | _ => none

end ShaclQuery.Turtle
