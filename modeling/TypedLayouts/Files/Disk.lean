import TypedLayouts.Files.Sink
import TypedLayouts.OrderedMap

/-!
# Directories on a disk

A `Disk` is a tree of files and directories with a working directory in it, and with the operations
of a file system: to make a directory needs the one above it, to write a file needs its directory,
and a path leads through directories only. There are no permissions; names and paths may have a
greatest length, in bytes.

The tree is kept as the finite map from the names on the way from its root to each node; the working
directory and those above it are always there.
-/

namespace TypedLayouts

/-- What a path can lead to. -/
inductive Disk.Node where
  /-- A directory. -/
  | directory
  /-- A file with its text. -/
  | file (text : String)
  deriving DecidableEq, Repr

/-- The greatest lengths that a file system takes, in bytes. -/
structure Disk.Limits where
  /-- The greatest length of a name. -/
  name : Nat := 255
  /-- The greatest length of a path. -/
  path : Nat := 4095
  deriving DecidableEq, Repr

/-- The files and directories around a working directory. -/
structure Disk where
  /-- The names on the way from the root to the working directory. -/
  home : List String := ["home", "project"]
  /-- The greatest lengths, unless there are none. -/
  limits : Option Disk.Limits := some {}
  /-- The nodes by the names on the way to them. -/
  nodes : OrderedMap (List String) Disk.Node := ∅

namespace Disk

/-- The node at the end of some names. -/
def node? (d : Disk) (names : List String) : Option Node :=
  if names.isPrefixOf d.home then some .directory else d.nodes.get? names

/-- The name is too long for the file system. -/
def refusesName (d : Disk) (name : String) : Bool :=
  d.limits.any fun limits => limits.name < name.utf8ByteSize

/-- The path is too long for the file system. -/
def refusesPath (d : Disk) (p : Path) : Bool :=
  d.limits.any fun limits => limits.path < p.text.utf8ByteSize

/-- Follow the segments of a path from a directory that `here` names. Each must be reached through
directories; the last may be anything. -/
def walk (d : Disk) (here : List String) : List String → Except FileError (List String)
  | [] => .ok here
  | segment :: rest =>
    match d.node? here with
    | none => .error .notFound
    | some (.file _) => .error .notADirectory
    | some .directory =>
      if segment = "." then walk d here rest
      else if segment = ".." then walk d here.dropLast rest
      else if d.refusesName segment then .error .nameTooLong
      else walk d (here ++ [segment]) rest

/-- Where a path starts: at the root, or in the working directory. -/
def start (d : Disk) (p : Path) : List String :=
  if p.isAbsolute then [] else d.home

/-- Refuse the texts that are no paths for the file system. -/
def checkText (d : Disk) (p : Path) : Except FileError Unit := do
  if '\x00' ∈ p.text.toList then throw .nulInName
  if d.refusesPath p then throw .nameTooLong

/-- The path ends in a slash, and so can lead to a directory only. -/
def endsInSlash (p : Path) : Bool :=
  p.text.toList.getLast? == some '/'

/-- What a path leads to. -/
def lookUp (d : Disk) (p : Path) : Except FileError Node := do
  d.checkText p
  if p.text.isEmpty then throw .notFound
  match d.node? (← d.walk (d.start p) p.segments) with
  | none => throw .notFound
  | some (.file text) =>
    if endsInSlash p then throw .notADirectory
    return .file text
  | some .directory => return .directory

/-- There is something at the path. -/
def contains (d : Disk) (p : Path) : Bool :=
  (d.lookUp p).isOk

/-- The text of a file. -/
def readText (d : Disk) (p : Path) : Except FileError String := do
  match ← d.lookUp p with
  | .file text => return text
  | .directory => throw .isADirectory

/-- Whether the path leads to a file. -/
def isFile (d : Disk) (p : Path) : Except FileError Bool := do
  match ← d.lookUp p with
  | .file _ => return true
  | .directory => return false

/-- The path of the working directory. -/
def workingDir (d : Disk) : Path :=
  .ofNames d.home

/-- The directory in which the last of the segments behind `here` stands, and that segment. -/
def locate (d : Disk) (here segments : List String) :
    Except FileError (List String × String) := do
  match segments.getLast? with
  | none => throw .alreadyExists
  | some last =>
    let directory ← d.walk here segments.dropLast
    match d.node? directory with
    | none => throw .notFound
    | some (.file _) => throw .notADirectory
    | some .directory => return (directory, last)

/-- The segment is no name of its own. -/
def isDots (segment : String) : Bool :=
  segment == "." || segment == ".."

/-- Make one directory, where there is nothing yet. -/
def makeDir (d : Disk) (here segments : List String) : Except FileError Disk := do
  let (directory, last) ← d.locate here segments
  if isDots last then throw .alreadyExists
  if d.refusesName last then throw .nameTooLong
  let names := directory ++ [last]
  match d.node? names with
  | some _ => throw .alreadyExists
  | none => return { d with nodes := d.nodes.insert names .directory }

/-- The segments lead to a directory. -/
def leadsToDirectory (d : Disk) (here segments : List String) : Bool :=
  match d.walk here segments with
  | .ok names => d.node? names == some .directory
  | .error _ => false

/-- The segments of the directory above: a `.` at the end stands for nothing. -/
def above (segments : List String) : List String :=
  let named := (segments.reverse.dropWhile (· == ".")).reverse
  if named.isEmpty then [] else named.dropLast

/-- Make a directory and those above it, where they are missing. The number of segments bounds the
number of directories above. -/
def makeDirs (d : Disk) (here : List String) : Nat → List String → Except FileError Disk
  | _, [] => .ok d
  | 0, _ => .error .notFound
  | n + 1, segments =>
    match d.makeDir here segments with
    | .ok d => .ok d
    | .error .notFound =>
      match makeDirs d here n (above segments) with
      | .error e => .error e
      | .ok d =>
        match d.makeDir here segments with
        | .ok d => .ok d
        | .error e => if d.leadsToDirectory here segments then .ok d else .error e
    | .error e => if d.leadsToDirectory here segments then .ok d else .error e

/-- Make sure that a directory exists. -/
def ensureDir (d : Disk) (p : Path) : Except FileError Disk := do
  d.checkText p
  d.makeDirs (d.start p) p.segments.length p.segments

/-- Write a file; what was there before is replaced. -/
def writeFile (d : Disk) (p : Path) (text : String) : Except FileError Disk := do
  d.checkText p
  if p.text.isEmpty then throw .notFound
  let segments := p.segments
  if segments.isEmpty then throw .isADirectory
  let (directory, last) ← d.locate (d.start p) segments
  if isDots last || endsInSlash p then throw .isADirectory
  if d.refusesName last then throw .nameTooLong
  let names := directory ++ [last]
  if d.node? names = some .directory then throw .isADirectory
  return { d with nodes := d.nodes.insert names (.file text) }

/-- The disk that holds some files and the directories they need. A file whose directory cannot be
made is left out. -/
def ofFiles (files : List (Path × String)) : Disk :=
  files.foldl (fun d (p, text) =>
    let made := do
      let d ← d.makeDirs (d.start p) p.segments.length p.segments.dropLast
      d.writeFile p text
    made.toOption.getD d) {}

/-- Run an operation that may change the disk; a failed one leaves it as it is. -/
def change (f : Disk → Except FileError Disk) : StateM Disk (Except FileError Unit) :=
  modifyGet fun d =>
    match f d with
    | .ok d => (.ok (), d)
    | .error e => (.error e, d)

/-- A disk as a sink. -/
def sink : Sink FileError (StateM Disk) where
  ensureDir p := change (·.ensureDir p)
  writeFile p text := change (·.writeFile p text)

/-- The files below the working directory with their paths from there, in the order of the names. -/
def files (d : Disk) : List (String × String) :=
  d.nodes.entries.filterMap fun (names, node) =>
    match node with
    | .directory => none
    | .file text =>
      if d.home.isPrefixOf names then
        some (String.intercalate "/" (names.drop d.home.length), text)
      else none

end Disk

end TypedLayouts
