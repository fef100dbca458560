import UsageForecast.Checkpoint.Diagnosis
import UsageForecast.Checkpoint.Store
import UsageForecast.Json.Reader
import UsageForecast.Text.Digest

/-!
# Checkpoints in a directory

Every checkpoint is a file of its own, named by the digest of its key.  A save
writes a temporary file beside it and renames it, so that the file is replaced
as a whole or not at all.  The steps of a save are data: a save that stops
after some of them leaves what those steps have done.
-/

namespace UsageForecast

inductive Directory.Node where
  | file (text : String)
  | folder
deriving DecidableEq, Repr, Inhabited

/-- What is found at the path of a directory. -/
inductive Directory.Content where
  /-- Nothing yet; the directory can be created. -/
  | absent
  /-- A file stands at the path. -/
  | occupied
  /-- A file stands at a part of the path. -/
  | unreachable
  | present (nodes : SortedMap String Directory.Node)
deriving DecidableEq, Inhabited

/-- A directory of checkpoint files. -/
structure Directory where
  path : String
  content : Directory.Content
deriving DecidableEq, Inhabited

namespace Directory

inductive Cause where
  | fileExists
  | notADirectory
  | isADirectory
  /-- A file holds a text that is no checkpoint. -/
  | undecodable (text : String)
deriving DecidableEq, Repr, Inhabited

def Cause.message [Checkpoint.Diagnosis] : Cause → String
  | .fileExists => "File exists (os error 17)"
  | .notADirectory => "Not a directory (os error 20)"
  | .isADirectory => "Is a directory (os error 21)"
  | .undecodable text => Checkpoint.Diagnosis.explain text

/-- What was being done when an operation failed. -/
inductive Activity where
  | createDirectory
  | createTemporary (name : String)
  | rename (source target : String)
  | read (name : String)
  | decode (name : String)
  | list
  | remove (name : String)
deriving DecidableEq, Repr, Inhabited

structure Fault where
  activity : Activity
  cause : Cause
deriving DecidableEq, Repr, Inhabited

def quotedPath (directory : Directory) (name : String) : String :=
  Text.quote (String.join [directory.path, "/", name])

def failure [Checkpoint.Diagnosis] (directory : Directory) (fault : Fault) :
    Failure :=
  let folder := Text.quote directory.path
  let context :=
    match fault.activity with
    | .createDirectory => s!"Failed to create directory {folder}"
    | .createTemporary name =>
        String.join ["Failed to create temp file ",
          directory.quotedPath name]
    | .rename source target =>
        String.join ["Failed to rename ", directory.quotedPath source,
          " to ", directory.quotedPath target]
    | .read name =>
        String.join ["Failed to read ", directory.quotedPath name]
    | .decode name =>
        String.join ["Failed to decode checkpoint ",
          directory.quotedPath name]
    | .list => s!"Failed to list {folder}"
    | .remove name =>
        String.join ["Failed to remove ", directory.quotedPath name]
  .checkpoint (String.join [context, ": ", fault.cause.message])

/-- The name of the files of a key, without extension. -/
def stem (key : ProfileKey) : String :=
  Digest.hexadecimal key.toJson.render

def fileName (stem : String) : String := String.join [stem, ".json"]

def temporaryName (stem : String) : String := String.join [stem, ".tmp"]

/-- The extension of a file name: what follows its last point, unless the
point comes first. -/
def extension? (name : String) : Option String :=
  let (after, before) := name.toList.reverse.span fun letter => letter != '.'
  match before with
  | [] => none
  | [_] => none
  | _ => some (String.ofList after.reverse)

def nodes (directory : Directory) : SortedMap String Node :=
  match directory.content with
  | .present nodes => nodes
  | _ => ∅

def withNodes (directory : Directory) (nodes : SortedMap String Node) :
    Directory :=
  { directory with content := .present nodes }

def names (directory : Directory) : List String := directory.nodes.keys

inductive SaveStep where
  /-- Create the directory if it is absent. -/
  | createDirectory
  /-- Create the temporary file, or empty the one that is there. -/
  | openTemporary
  /-- A text is written from the start of the temporary file on. -/
  | write (text : String)
  /-- What has been written reaches the disk. -/
  | sync
  /-- The temporary file takes the place of the checkpoint file. -/
  | rename
deriving DecidableEq, Repr, Inhabited

def saveSteps (text : String) : List SaveStep :=
  [.createDirectory, .openTemporary, .write text, .sync, .rename]

def create (directory : Directory) : Except Fault Directory :=
  match directory.content with
  | .absent => .ok (directory.withNodes ∅)
  | .present _ => .ok directory
  | .occupied => .error ⟨.createDirectory, .fileExists⟩
  | .unreachable => .error ⟨.createDirectory, .notADirectory⟩

/-- What a file holds once a text has been written from its start on: a longer
text that it held before ends as it did. -/
def overwrite (held text : String) : String :=
  String.ofList (text.toList ++ held.toList.drop text.length)

def perform (directory : Directory) (stem : String) :
    SaveStep → Except Fault Directory
  | .createDirectory => directory.create
  | .openTemporary =>
      let name := temporaryName stem
      match directory.nodes.find? name with
      | some .folder => .error ⟨.createTemporary name, .isADirectory⟩
      | _ => .ok (directory.withNodes
          (directory.nodes.insert name (.file "")))
  | .write text =>
      let name := temporaryName stem
      match directory.nodes.find? name with
      | some (.file held) => .ok (directory.withNodes
          (directory.nodes.insert name (.file (overwrite held text))))
      | _ => .ok directory
  | .sync => .ok directory
  | .rename =>
      let source := temporaryName stem
      let target := fileName stem
      match directory.nodes.find? target with
      | some .folder => .error ⟨.rename source target, .isADirectory⟩
      | _ =>
          match directory.nodes.find? source with
          | some node => .ok (directory.withNodes
              ((directory.nodes.erase source).insert target node))
          | none => .ok directory

def performAll (directory : Directory) (stem : String) :
    List SaveStep → Directory × Except Fault Unit
  | [] => (directory, .ok ())
  | step :: rest =>
      match directory.perform stem step with
      | .ok next => next.performAll stem rest
      | .error fault => (directory, .error fault)

def reachable (directory : Directory) : Bool :=
  match directory.content with
  | .absent => true
  | .present _ => true
  | .occupied => false
  | .unreachable => false

section

variable {α : Type} [Scalar α]

def readFile (directory : Directory) (name : String) :
    Except Fault (Option (Checkpoint α)) :=
  if directory.reachable then
    match directory.nodes.find? name with
    | none => .ok none
    | some .folder => .error ⟨.read name, .isADirectory⟩
    | some (.file text) =>
        match Json.ofText? text >>= Checkpoint.ofJson? with
        | some checkpoint => .ok (some checkpoint)
        | none => .error ⟨.decode name, .undecodable text⟩
  else
    .error ⟨.read name, .notADirectory⟩

/-- Save a checkpoint under the digest of its key. -/
def save (directory : Directory) (checkpoint : Checkpoint α) :
    Directory × Except Fault Unit :=
  directory.performAll (stem checkpoint.key)
    (saveSteps checkpoint.toJson.render)

/-- The checkpoint of a key; a file that holds another key counts as none. -/
def load (directory : Directory) (key : ProfileKey) :
    Except Fault (Option (Checkpoint α)) :=
  match directory.readFile (fileName (stem key)) with
  | .ok (some checkpoint) =>
      .ok (if checkpoint.key = key then some checkpoint else none)
  | other => other

/-- What a listing tells of a file: nothing if it is unreadable or has
another extension. -/
def fileInfo? (α : Type) [Scalar α] (directory : Directory)
    (name : String) : Option Checkpoint.Info :=
  if extension? name = some "json" then
    match directory.readFile (α := α) name with
    | .ok (some checkpoint) => some checkpoint.info
    | _ => none
  else
    none

def list (α : Type) [Scalar α] (directory : Directory) :
    Except Fault (List Checkpoint.Info) :=
  if directory.reachable then
    .ok (directory.names.filterMap (directory.fileInfo? α))
  else
    .error ⟨.list, .notADirectory⟩

end

def delete (directory : Directory) (key : ProfileKey) :
    Directory × Except Fault Bool :=
  let name := fileName (stem key)
  if directory.reachable then
    match directory.nodes.find? name with
    | none => (directory, .ok false)
    | some .folder => (directory, .error ⟨.remove name, .isADirectory⟩)
    | some (.file _) =>
        (directory.withNodes (directory.nodes.erase name), .ok true)
  else
    (directory, .error ⟨.remove name, .notADirectory⟩)

instance {α : Type} [Scalar α] [Checkpoint.Diagnosis] :
    CheckpointStore Directory α where
  save directory checkpoint :=
    let (next, outcome) := directory.save checkpoint
    (next, outcome.mapError directory.failure)
  load directory key := (directory.load key).mapError directory.failure
  delete directory key :=
    let (next, outcome) := directory.delete key
    (next, outcome.mapError directory.failure)
  list directory := (directory.list α).mapError directory.failure

end Directory

end UsageForecast
