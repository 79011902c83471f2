/-
Module: Bytemark.Files.FileSystem
Purpose: A tree of files, and open files that outlive their names.
Trusted boundary: none
Main exports: FileId, Node, FileSystem, ReadHandle, WriteHandle,
  FileSystem.find, FileSystem.openRead, FileSystem.create, FileSystem.openAppend,
  FileSystem.view, FileSystem.write, FileSystem.createDirectories
-/
import Bytemark.Files.Content
import Bytemark.Files.Location
import Bytemark.Stream.Source

namespace Bytemark

/-!
A name leads to a node, and a file's content belongs to the node and not to
the name.  So an open file can still be read after its name is gone, a file
that is created anew under an old name keeps its node and loses its content,
and what is written through one handle is seen through every other.

A handle that was opened for appending writes at the end of the content as it
is at that moment.  A handle from `create` writes at an offset of its own, even
if the content has become shorter or longer in the meantime.
-/

/-- What identifies the content of a file. -/
abbrev FileId := Nat

/-- What a name leads to. -/
inductive Node where
  | directory
  | file (id : FileId)
  /-- A device that reads as zeros and has no room for a single octet. -/
  | fullDevice
deriving Repr, Inhabited, DecidableEq

/-- The names that exist, the contents of all files there ever were, and the
directory in which relative paths start. -/
structure FileSystem where
  entries : List (Location × Node)
  contents : List Content
  workingDirectory : Location
deriving Repr, Inhabited, DecidableEq

/-- A file that is open for reading. -/
structure ReadHandle where
  node : Node
  offset : Nat := 0
deriving Repr, Inhabited, DecidableEq

/-- Where a handle writes. -/
inductive WriteMode where
  | append
  | overwrite (offset : Nat)
deriving Repr, Inhabited, DecidableEq

/-- A file that is open for writing. -/
structure WriteHandle where
  node : Node
  mode : WriteMode
deriving Repr, Inhabited, DecidableEq

namespace FileSystem

/-- The device that is always full. -/
def fullDevice : Location := .ofNames ["dev", "full"]

/-- A tree with an empty working directory, which is given by its names. -/
def empty (names : List String) : FileSystem :=
  let above := (List.range names.length).map fun depth =>
    (Location.ofNames (names.take (depth + 1)), Node.directory)
  { entries := above ++ [(fullDevice.parent, .directory), (fullDevice, .fullDevice)]
    contents := []
    workingDirectory := .ofNames names }

/-- The node that entries name a location for. -/
def lookUp (location : Location) : List (Location × Node) → Option Node
  | [] => none
  | (place, node) :: rest =>
      if place.depth == location.depth && place.names == location.names then some node
      else lookUp location rest

/-- The node at a location. -/
def nodeAt (files : FileSystem) (location : Location) : Option Node :=
  if location.names.isEmpty then some .directory else lookUp location files.entries

/-- The content of a file. -/
def contentOf (files : FileSystem) (id : FileId) : Content :=
  files.contents[id]?.getD .empty

/-- The octets of a file. -/
def content (files : FileSystem) (id : FileId) : Octets := (files.contentOf id).octets

/-- Replaces the content of a file. -/
def setContent (files : FileSystem) (id : FileId) (content : Content) : FileSystem :=
  { files with contents := files.contents.set id content }

/-- Follows names from a node.  Each of them is looked up in a directory. -/
def walk (files : FileSystem) (location : Location) (node : Node) :
    List String → Except IoError (Location × Node)
  | [] => .ok (location, node)
  | name :: rest =>
      if node != .directory then .error .notADirectory
      else if name == "." then files.walk location node rest
      else if name == ".." then files.walk location.parent .directory rest
      else if Path.longestName < name.utf8ByteSize then .error .nameTooLong
      else
        match files.nodeAt (location.child name) with
        | some next => files.walk (location.child name) next rest
        | none => .error .notFound

/-- Where the names of a path start. -/
def start (files : FileSystem) (path : String) : Location :=
  if Path.isAbsolute path then .root else files.workingDirectory

/-- The node that a path leads to. -/
def find (files : FileSystem) (path : String) : Except IoError (Location × Node) := do
  Path.check path
  let (location, node) ← files.walk (files.start path) .directory (Path.names path)
  if Path.isSlashed path && node != .directory then .error .notADirectory
  else .ok (location, node)

/-- Whether anything exists at a path. -/
def exists? (files : FileSystem) (path : String) : Bool :=
  match files.find path with
  | .ok _ => true
  | .error _ => false

/-- Whether a path leads to a directory. -/
def isDirectory (files : FileSystem) (path : String) : Bool :=
  match files.find path with
  | .ok (_, node) => node == .directory
  | .error _ => false

/-- A place for a name: the node it leads to if the name is taken, and else
the location that it would get. -/
inductive Slot where
  | taken (node : Node)
  | free (location : Location)
deriving Repr, Inhabited, DecidableEq

/-- The directory in which the last name of a path stands, and that name.  Dots
and the root have no such directory: they lead to one that exists. -/
def place (files : FileSystem) (path : String) :
    Except IoError (Option (Location × String)) :=
  match (Path.names path).getLast? with
  | none => .ok none
  | some name => do
      let (location, node) ←
        files.walk (files.start path) .directory (Path.names path).dropLast
      if node != .directory then .error .notADirectory
      else if name == "." || name == ".." then .ok none
      else .ok (some (location, name))

/-- What a name stands for in a directory. -/
def slot (files : FileSystem) (location : Location) (name : String) : Except IoError Slot :=
  if Path.longestName < name.utf8ByteSize then .error .nameTooLong
  else
    match files.nodeAt (location.child name) with
    | some taken => .ok (.taken taken)
    | none => .ok (.free (location.child name))

/-- Opens a file for reading.  A directory can be opened too; reading it fails. -/
def openRead (files : FileSystem) (path : String) : Except IoError ReadHandle := do
  let (_, node) ← files.find path
  .ok { node }

/-- Opens a file for writing from its start, without its old content if there
was a file, as a new file otherwise.  A path that asks for a directory is
refused before its last name is looked at. -/
def create (files : FileSystem) (path : String) :
    Except IoError (WriteHandle × FileSystem) := do
  Path.check path
  match ← files.place path with
  | none => .error .isADirectory
  | some (directory, name) =>
      if Path.isSlashed path then .error .isADirectory
      else
        match ← files.slot directory name with
        | .taken .directory => .error .isADirectory
        | .taken (.file id) =>
            .ok (⟨.file id, .overwrite 0⟩, files.setContent id .empty)
        | .taken node => .ok (⟨node, .overwrite 0⟩, files)
        | .free location =>
            let id := files.contents.length
            .ok (⟨.file id, .overwrite 0⟩,
              { files with
                entries := files.entries ++ [(location, .file id)]
                contents := files.contents ++ [.empty] })

/-- Opens an existing file for writing at its end. -/
def openAppend (files : FileSystem) (path : String) : Except IoError WriteHandle := do
  let (_, node) ← files.find path
  if node == .directory then .error .isADirectory
  else .ok ⟨node, .append⟩

/-- What reading through a handle will deliver if nobody interferes.  The full
device is an endless run of zeros, of which a view holds one part. -/
def view (files : FileSystem) (handle : ReadHandle) : Source :=
  match handle.node with
  | .directory => ⟨[.failure .isADirectory]⟩
  | .file id => Source.ofOctets ((files.content id).drop handle.offset)
  | .fullDevice => Source.ofOctets (List.replicate 8192 0)

/-- How many octets the view of a handle holds. -/
def ahead (files : FileSystem) (handle : ReadHandle) : Nat :=
  match handle.node with
  | .directory => 0
  | .file id => (files.contentOf id).size - handle.offset
  | .fullDevice => 8192

theorem size_view (files : FileSystem) (handle : ReadHandle) :
    (files.view handle).size = files.ahead handle := by
  unfold view ahead
  split
  · rfl
  · rw [Source.size_ofOctets, List.length_drop, content, Content.length_octets]
  · rw [Source.size_ofOctets, List.length_replicate]

/-- The handle after its view was read down to what is left. -/
def advance (files : FileSystem) (handle : ReadHandle) (left : Source) : ReadHandle :=
  { handle with offset := handle.offset + (files.ahead handle - left.size) }

/-- Writes octets.  Writing nothing asks nothing of the device. -/
def write (files : FileSystem) (handle : WriteHandle) (octets : Octets) :
    Except IoError Unit × WriteHandle × FileSystem :=
  if octets.isEmpty then (.ok (), handle, files)
  else
    match handle.node, handle.mode with
    | .directory, _ => (.error .isADirectory, handle, files)
    | .fullDevice, _ => (.error .storageFull, handle, files)
    | .file id, .append =>
        (.ok (), handle, files.setContent id ((files.contentOf id).append octets))
    | .file id, .overwrite offset =>
        (.ok (), { handle with mode := .overwrite (offset + octets.length) },
          files.setContent id ((files.contentOf id).overwrite offset octets))

/-- The octets that a path leads to. -/
def readFile (files : FileSystem) (path : String) : Except IoError Octets := do
  let handle ← files.openRead path
  let drained := (files.view handle).drain.1
  match drained.failure with
  | some cause => .error cause
  | none => .ok drained.octets

/-- The text that a path leads to, which has to be UTF-8. -/
def readText (files : FileSystem) (path : String) : Except IoError String := do
  let octets ← files.readFile path
  match Codec.Utf8.decode octets with
  | .ok text => .ok (String.ofList text)
  | .error _ => .error .notText

/-- Gives a file a new content, and a name if it had none.  If the content
cannot be written, the file is left as it was opened. -/
def writeFile (files : FileSystem) (path : String) (octets : Octets) :
    Except IoError Unit × FileSystem :=
  match files.create path with
  | .error cause => (.error cause, files)
  | .ok (handle, created) =>
      let (result, _, written) := created.write handle octets
      (result, written)

/-- Makes a directory in a directory that exists. -/
def createDirectory (files : FileSystem) (path : String) : Except IoError FileSystem := do
  Path.check path
  match ← files.place path with
  | none => .error .alreadyExists
  | some (directory, name) =>
      match ← files.slot directory name with
      | .taken _ => .error .alreadyExists
      | .free location =>
          .ok { files with entries := files.entries ++ [(location, .directory)] }

/-- Makes a directory, and those above it as far as they are missing; the stems
are those of the paths above.  A directory that exists is as good as a new one. -/
def createDirectoriesFrom (path : String) :
    List Path.Stem → FileSystem → Except IoError Unit × FileSystem
  | above, files =>
      let settle (files : FileSystem) (cause : IoError) :=
        if files.isDirectory path then (.ok (), files) else (.error cause, files)
      match files.createDirectory path, above with
      | .ok made, _ => (.ok (), made)
      | .error .notFound, stem :: higher =>
          match createDirectoriesFrom (Path.ofStem stem) higher files with
          | (.error cause, raised) => (.error cause, raised)
          | (.ok (), raised) =>
              match raised.createDirectory path with
              | .ok made => (.ok (), made)
              | .error cause => settle raised cause
      | .error cause, _ => settle files cause

/-- Makes a directory and those above it.  The empty path names the directory
where everything starts, and that one exists. -/
def createDirectories (files : FileSystem) (path : String) :
    Except IoError Unit × FileSystem :=
  if path.isEmpty then (.ok (), files)
  else createDirectoriesFrom path (Path.stems path).tail files

/-- Makes the directory that a path is to stand in. -/
def createParent (files : FileSystem) (path : String) :
    Except IoError Unit × FileSystem :=
  match Path.parent? path with
  | some directory =>
      if directory.isEmpty then (.ok (), files) else files.createDirectories directory
  | none => (.ok (), files)

end FileSystem

end Bytemark
