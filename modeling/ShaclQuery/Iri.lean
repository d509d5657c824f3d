/-! # IRI references

A reference in a document stands for an IRI relative to the document's base. Resolution is textual:
a leading `./` or `../` is taken off the reference, and each `..` drops a directory of the base, but
never its root. Steps further inside the reference stay as they are.
-/

namespace ShaclQuery.Iri

def isAbsolute (reference : List Char) : Bool :=
  (reference.takeWhile (· != '/')).contains ':'

def splitFragment (reference : List Char) : List Char × List Char :=
  if reference.contains '#' then
    let tail := (reference.reverse.takeWhile (· != '#')).reverse
    (reference.take (reference.length - tail.length - 1), '#' :: tail)
  else (reference, [])

def directory (path : List Char) : List Char :=
  (path.reverse.dropWhile (· != '/')).reverse

def parent (dir : List Char) : List Char :=
  match directory dir.dropLast with
  | [] => dir
  | up => up

/-- Takes leading steps off a path, starting in a directory. One `./` may come before each `..` and
before the rest. -/
def climb (dir : List Char) : List Char → List Char
  | '.' :: '/' :: '.' :: '.' :: '/' :: rest => climb (parent dir) rest
  | ['.', '/', '.', '.'] => parent dir
  | ['.', '/', '.'] => dir
  | '.' :: '/' :: rest => dir ++ rest
  | '.' :: '.' :: '/' :: rest => climb (parent dir) rest
  | ['.', '.'] => parent dir
  | ['.'] => dir
  | path => dir ++ path

/-- A base IRI in two parts: scheme and host, and the path, which starts with a slash. There is no
such division without a slash behind the scheme. -/
def splitBase? (base : List Char) : Option (List Char × List Char) :=
  let scheme := base.takeWhile (· != ':')
  match base.drop scheme.length with
  | ':' :: '/' :: '/' :: rest =>
    let host := rest.takeWhile (· != '/')
    let path := rest.drop host.length
    some (scheme ++ ':' :: '/' :: '/' :: host, if path.isEmpty then ['/'] else path)
  | ':' :: '/' :: rest => some (scheme ++ [':'], '/' :: rest)
  | _ => none

/-- The IRI that a reference stands for. A base with a fragment resolves nothing, and a base without
a path resolves only absolute references and fragments. -/
def resolve? (base reference : List Char) : Option (List Char) :=
  if base.contains '#' then none
  else if isAbsolute reference then some reference
  else if !base.contains ':' then none
  else
    let (path, fragment) := splitFragment reference
    if path.isEmpty then some (base ++ fragment)
    else do
      let (root, basePath) ← splitBase? base
      match reference with
      | '/' :: '/' :: _ => some (base.takeWhile (· != ':') ++ ':' :: reference)
      | '/' :: _ => some (root ++ reference)
      | _ => some (root ++ climb (directory basePath) path ++ fragment)

end ShaclQuery.Iri
