import ShaclQuery.Files.PathName
import ShaclQuery.Text.Quoted

/-! # File trees

The files and directories that a command sees, and its working directory. Reading, making directories
and writing are functions on trees.
-/

namespace ShaclQuery

/-- What a file holds: a text, or octets that are none. -/
inductive Content
  | text (s : String)
  | octets (bytes : List UInt8)
  deriving DecidableEq, Repr

inductive Entry
  | file (content : Content)
  | directory
  /-- A directory that may not be entered. -/
  | locked
  deriving DecidableEq, Repr

def Entry.isDirectory : Entry → Bool
  | .file _ => false
  | .directory | .locked => true

/-- Entries by their steps from the root, which is always a directory. -/
structure FileTree where
  workingDirectory : PathName
  entries : List (List String × Entry)
  deriving DecidableEq, Repr

inductive FileProblem
  | notFound
  | exists
  | notADirectory
  | isADirectory
  | nameTooLong
  | denied
  | nullInside
  deriving DecidableEq, Repr

/-- Problems that say no more than that there is nothing. -/
def FileProblem.isAbsence : FileProblem → Bool
  | .notFound | .notADirectory | .nullInside => true
  | .exists | .isADirectory | .nameTooLong | .denied => false

structure FileError where
  problem : FileProblem
  path : PathName
  deriving DecidableEq, Repr

def FileError.message (e : FileError) : String :=
  let about (what : String) : String := what ++ Text.quoted e.path.text
  match e.problem with
  | .notFound => about "[Errno 2] No such file or directory: "
  | .denied => about "[Errno 13] Permission denied: "
  | .exists => about "[Errno 17] File exists: "
  | .notADirectory => about "[Errno 20] Not a directory: "
  | .isADirectory => about "[Errno 21] Is a directory: "
  | .nameTooLong => about "[Errno 36] File name too long: "
  | .nullInside => "embedded null byte"

def octetCount (text : String) : Nat := text.toList.foldl (fun n c => n + c.utf8Size) 0

namespace FileTree

/-! ## 1. Places -/

def entryAt? (t : FileTree) (place : List String) : Option Entry :=
  if place.isEmpty then some .directory else t.entries.lookup place

/-- Follows steps from a directory. All but the last step must lead to directories. -/
def follow (t : FileTree) (here : List String) : List String → Except FileProblem (List String)
  | [] => .ok here
  | ".." :: rest => t.follow here.dropLast rest
  | name :: rest =>
    let next := here ++ [name]
    if 255 < octetCount name then .error .nameTooLong
    else
      match t.entryAt? next with
      | some .directory => t.follow next rest
      | some .locked => if rest.isEmpty then .ok next else .error .denied
      | some (.file _) => if rest.isEmpty then .ok next else .error .notADirectory
      | none => if rest.isEmpty then .ok next else .error .notFound

def place (t : FileTree) (p : PathName) : Except FileProblem (List String) :=
  if p.text.toList.contains '\x00' then .error .nullInside
  else if 4095 < octetCount p.text then .error .nameTooLong
  else t.follow (if p.isAbsolute then [] else t.workingDirectory.steps) p.steps

def find (t : FileTree) (p : PathName) : Except FileProblem Entry :=
  match t.place p with
  | .error e => .error e
  | .ok place =>
    match t.entryAt? place with
    | some e => .ok e
    | none => .error .notFound

def isDirectory (t : FileTree) (p : PathName) : Bool :=
  (t.find p).toOption.any Entry.isDirectory

def put (t : FileTree) (place : List String) (e : Entry) : FileTree :=
  { t with entries := (t.entries.filter fun old => old.1 != place) ++ [(place, e)] }

/-! ## 2. Making directories and writing -/

def makeDirectory (t : FileTree) (p : PathName) : Except FileProblem FileTree :=
  match t.place p with
  | .error e => .error e
  | .ok place =>
    match t.entryAt? place with
    | some _ => .error .exists
    | none => .ok (t.put place .directory)

def ensureDirectory (t : FileTree) (p : PathName) : Except FileProblem FileTree :=
  match t.makeDirectory p with
  | .ok t => .ok t
  | .error e => if t.isDirectory p then .ok t else .error e

/-- Tries to make a directory and those above it. Directories made before a failure stay, so that there
is a tree in any case. -/
def attemptDirectories (t : FileTree) (p : PathName) : FileTree × Option FileError :=
  match t.ensureDirectory p with
  | .ok made => (made, none)
  | .error .notFound =>
    if _h : p.steps = [] then (t, some ⟨.notFound, p⟩)
    else
      match t.attemptDirectories p.parent with
      | (made, some e) => (made, some e)
      | (made, none) =>
        match made.ensureDirectory p with
        | .ok whole => (whole, none)
        | .error e => (made, some ⟨e, p⟩)
  | .error e => (t, some ⟨e, p⟩)
  termination_by p.steps.length
  decreasing_by exact PathName.parent_steps_length_lt _h

def makeDirectories (t : FileTree) (p : PathName) : Except FileError FileTree :=
  match t.attemptDirectories p with
  | (made, none) => .ok made
  | (_, some e) => .error e

def write (t : FileTree) (p : PathName) (text : String) : Except FileError FileTree :=
  match t.place p with
  | .error e => .error ⟨e, p⟩
  | .ok place =>
    if (t.entryAt? place).any Entry.isDirectory then .error ⟨.isADirectory, p⟩
    else .ok (t.put place (.file (.text text)))

/-- Makes the directories above a path and writes a file there. What has been done before a failure
stays. -/
def save (t : FileTree) (p : PathName) (text : String) : FileTree × Option FileError :=
  match t.attemptDirectories p.parent with
  | (made, some e) => (made, some e)
  | (made, none) =>
    match made.write p text with
    | .ok written => (written, none)
    | .error e => (made, some e)

def ofFiles (workingDirectory : PathName) (files : List (PathName × String)) : FileTree :=
  let directories := (List.range (workingDirectory.steps.length + 1)).map fun n =>
    (workingDirectory.steps.take n, Entry.directory)
  files.foldl (fun t file =>
    match t.makeDirectories file.1.parent with
    | .error _ => t
    | .ok t =>
      match t.write file.1 file.2 with
      | .error _ => t
      | .ok t => t) ⟨workingDirectory, directories⟩

/-! ## 3. What there is -/

def below (t : FileTree) : List (String × Entry) :=
  let base := t.workingDirectory.steps
  t.entries.filterMap fun (place, e) =>
    if base.isPrefixOf place && base.length < place.length then
      some (String.intercalate "/" (place.drop base.length), e)
    else none

/-- The texts below the working directory that an earlier tree does not have like that. -/
def writtenSince (t before : FileTree) : List (String × String) :=
  t.below.filterMap fun (path, e) =>
    match e with
    | .file (.text text) => if before.below.contains (path, e) then none else some (path, text)
    | _ => none

def directories (t : FileTree) : List String :=
  t.below.filterMap fun (path, e) => if e = .directory then some path else none

end FileTree

end ShaclQuery
