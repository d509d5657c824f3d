import ShaclQuery.Iri
import ShaclQuery.Iri.Address

/-! # The base of a document

A document that comes with an identifier takes it, less its fragment, as its base. An identifier
without a scheme names a file, and its path is then looked up in a directory: `.` and `..` disappear,
and so do empty steps of a relative path. An identifier with another scheme is kept as it is written.
-/

namespace ShaclQuery.Iri

/-- An IRI taken apart. An empty part is absent. -/
structure Parts where
  /-- In lower case, without its colon. -/
  scheme : List Char
  host : List Char
  path : List Char
  /-- Without its question mark. -/
  query : List Char
  deriving DecidableEq, Repr

/-- Schemes whose IRIs always have a host, which may be empty. -/
def hostSchemes : List String :=
  ["ftp", "http", "gopher", "nntp", "telnet", "imap", "wais", "file", "mms", "https", "shttp",
    "snews", "prospero", "rtsp", "rtsps", "rtspu", "rsync", "svn", "svn+ssh", "sftp", "nfs", "git",
    "git+ssh", "ws", "wss"]

/-- Schemes in whose paths a semicolon divides the last step from its parameters. -/
def parameterSchemes : List String :=
  ["ftp", "hdl", "prospero", "http", "imap", "https", "shttp", "rtsp", "rtsps", "rtspu", "sip",
    "sips", "mms", "sftp", "tel"]

def scheme? (iri : List Char) : Option (List Char) :=
  let name := iri.takeWhile (· != ':')
  let isInside (c : Char) : Bool := c.isAlphanum || c = '+' || c = '.' || c = '-'
  if name.length < iri.length && name.head?.any Char.isAlpha && name.all isInside then some name
  else none

/-- Characters that stand for one of the marks `/?#@:` between the parts of an IRI. -/
def markLookalikes : List Char :=
  ['\u2047', '\u2048', '\u2049', '\u2100', '\u2101', '\u2105', '\u2106', '\u2a74', '\ufe13',
    '\ufe16', '\ufe55', '\ufe56', '\ufe5f', '\ufe6b', '\uff03', '\uff0f', '\uff1a', '\uff1f',
    '\uff20']

/-- A host has no character that could be taken for a mark, and both brackets or none, with an
address between them. -/
def isHost (host : List Char) : Bool :=
  let inside := ((host.dropWhile (· != '[')).drop 1).takeWhile (· != ']')
  !host.any markLookalikes.contains &&
    if host.contains '[' then host.contains ']' && isBracketed inside else !host.contains ']'

/-- Takes an IRI apart; one without a scheme gets the given one. Control characters and blanks in
front are skipped, and tabs and line ends everywhere. -/
def Parts.ofIri? (scheme iri : List Char) : Option Parts :=
  let bare := (iri.dropWhile (·.toNat ≤ 32)).filter fun c => c != '\t' && c != '\r' && c != '\n'
  let (name, rest) :=
    match scheme? bare with
    | some name => (name.map Char.toLower, bare.drop (name.length + 1))
    | none => (scheme, bare)
  let (host, rest) :=
    match rest with
    | '/' :: '/' :: rest => rest.span fun c => c != '/' && c != '?' && c != '#'
    | _ => ([], rest)
  if isHost host then
    let (path, query) := rest.span (· != '?')
    some ⟨name, host, path, query.drop 1⟩
  else none

def Parts.toIri (parts : Parts) : List Char :=
  let path :=
    if parts.host.isEmpty && !hostSchemes.contains (String.ofList parts.scheme)
        && parts.path.take 2 ≠ ['/', '/'] then parts.path
    else if parts.path.isEmpty || parts.path.head? = some '/' then
      '/' :: '/' :: parts.host ++ parts.path
    else '/' :: '/' :: parts.host ++ '/' :: parts.path
  parts.scheme ++ ':' :: path ++ (if parts.query.isEmpty then [] else '?' :: parts.query)

/-- Drops a semicolon that no parameters follow. -/
def Parts.withoutEmptyParameters (parts : Parts) : Parts :=
  let last := parts.path.drop (directory parts.path).length
  if parameterSchemes.contains (String.ofList parts.scheme)
      && last.findIdx? (· = ';') = some (last.length - 1) then
    { parts with path := parts.path.dropLast }
  else parts

/-- The IRI without its fragment. One that has a fragment is put together anew. -/
def withoutFragment? (iri : List Char) : Option (List Char) :=
  if iri.contains '#' then
    (Parts.ofIri? [] (iri.takeWhile (· != '#'))).map fun parts =>
      parts.withoutEmptyParameters.toIri
  else some iri

/-- Steps of a path without `.` and `..`; an end in one of them is a directory. -/
def withoutDots (steps : List (List Char)) : List (List Char) :=
  let kept := steps.foldl (fun done step =>
    if step = ['.', '.'] then done.drop 1
    else if step = ['.'] then done
    else step :: done) []
  let endsInDots := steps.getLast?.any fun step => step = ['.'] || step = ['.', '.']
  (if endsInDots then [] :: kept else kept).reverse

def pathIn (directory path : List Char) : List Char :=
  let steps :=
    if path.head? = some '/' then path.splitOn '/'
    else
      let steps := (Iri.directory directory ++ path).splitOn '/'
      -- the first step is the empty one in front of the root, the last one may be a directory's
      steps.take 1 ++ ((steps.drop 1).dropLast.filter fun step => !step.isEmpty)
        ++ (steps.drop 1).getLast?.toList
  match ['/'].intercalate (withoutDots steps) with
  | [] => ['/']
  | found => found

/-- The base of a document with an identifier, which may be empty, in a directory. -/
def documentBase? (directory identifier : List Char) : Option (List Char) :=
  if identifier.isEmpty then withoutFragment? directory
  else do
    let place ← Parts.ofIri? [] directory
    let named ← Parts.ofIri? place.scheme identifier
    let whole :=
      if named.scheme ≠ place.scheme then identifier
      else if !named.host.isEmpty then named.toIri
      else if named.path.isEmpty then
        let query := if named.query.isEmpty then place.query else named.query
        Parts.toIri { place with query }
      else Parts.toIri { place with path := pathIn place.path named.path, query := named.query }
    withoutFragment? whole

end ShaclQuery.Iri
