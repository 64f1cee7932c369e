import DesignGauge.Fault
import DesignGauge.Path.Basic

/-!
# Files and folders

A disk is a value: the nodes below the working folder, by location. Reading, writing and making
folders give a new disk or the refusal that a file system gives. A path is walked component by
component, so that the first obstacle on the way decides which refusal it is.

A file that is written is opened first, which creates or empties it. The device can give up after
that, when it is full or broken; the file is then left with the octets that the device took.
-/

namespace DesignGauge

open Text

/-- A file or a folder, with the time of its last change. -/
inductive DiskNode where
  | file (octets : Octets) (time : Int)
  | folder (time : Int)
  deriving DecidableEq, Repr

/-- The time of the last change. -/
def DiskNode.time : DiskNode → Int
  | .file _ t => t
  | .folder t => t

/-- The components from the working folder, or from the root behind a leading slash. -/
abbrev Location := List String

/-- How the device gives up while a file is written: the number of octets that it takes, and why it
takes no more. -/
structure Outage where
  taken : Nat
  cause : OsCause
  deriving DecidableEq, Repr

/-- Files and folders by location, and the time that the next change gets. An outage at a location
befalls whatever is written to the file there. -/
structure Disk where
  nodes : List (Location × DiskNode) := []
  clock : Int := 0
  outages : List (Location × Outage) := []
  deriving DecidableEq, Repr

namespace Disk

/-- The working folder and the root, which are always there. -/
def isBase (location : Location) : Bool := location == [] || location == ["/"]

/-- The node at a location. -/
def node? (disk : Disk) (location : Location) : Option DiskNode :=
  if isBase location then some (.folder 0) else disk.nodes.lookup location

/-- Sets the node at a location. -/
def setNode (disk : Disk) (location : Location) (node : DiskNode) : Disk :=
  let others := disk.nodes.filter (·.1 != location)
  { disk with nodes := others ++ [(location, node)] }

/-- Half of a surrogate pair that stands for an octet of a name which is no text. -/
def isOctet (code : Nat) : Bool := 0xDC80 ≤ code && code ≤ 0xDCFF

/-- The number of octets of a name. -/
def octetCount (name : String) : Nat :=
  (codes name.toList).foldl
    (fun count code => count + if isOctet code then 1 else (Utf8.encodeCode code).length) 0

/-- The longest name of a node, in octets. -/
def nameLimit : Nat := 255

/-- Goes from a location to one of its children or to its parent. -/
def enter (disk : Disk) (location : Location) (name : String) : Except OsCause Location :=
  match disk.node? location with
  | none => .error .absent
  | some (.file _ _) => .error .notDirectory
  | some (.folder _) =>
    if name == ".." then .ok (if isBase location then location else location.dropLast)
    else if octetCount name > nameLimit then .error .nameTooLong
    else .ok (location ++ [name])

/-- The location that components lead to. -/
def walk (disk : Disk) : Location → List String → Except OsCause Location
  | location, [] => .ok location
  | location, name :: rest => do
    let next ← disk.enter location name
    disk.walk next rest

/-- A refusal about a path. -/
def refusal (path : Path) (cause : OsCause) : Fault := .os ⟨cause, some path.text⟩

/-- A path with a null character has no location. -/
def hasNull (path : Path) : Bool := path.parts.any (·.toList.contains (Char.ofNat 0))

/-- Half of a surrogate pair that stands for no octet of a name. -/
def isUnnamed (code : Nat) : Bool := isSurrogate code && !isOctet code

/-- The longest path, in octets. -/
def pathLimit : Nat := 4095

/-- The location of a path. -/
def locate (disk : Disk) (path : Path) : Except Fault Location :=
  if (codes path.text.toList).any isUnnamed then .error (.loneSurrogate path.text)
  else if hasNull path then .error .nullInPath
  else if octetCount path.text > pathLimit then .error (refusal path .nameTooLong)
  else match disk.walk (if path.isAbsolute then ["/"] else []) path.parts with
    | .ok location => .ok location
    | .error cause => .error (refusal path cause)

/-- The node of a path. -/
def look (disk : Disk) (path : Path) : Except Fault DiskNode := do
  match disk.node? (← disk.locate path) with
  | some node => return node
  | none => throw (refusal path .absent)

/-- A path leads to a node. A name that is too long is refused, other obstacles mean no. -/
def present (disk : Disk) (path : Path) : Except Fault Bool :=
  match disk.look path with
  | .ok _ => .ok true
  | .error (.os ⟨.nameTooLong, text⟩) => .error (.os ⟨.nameTooLong, text⟩)
  | .error _ => .ok false

/-- A path leads to a folder. -/
def isFolder (disk : Disk) (path : Path) : Bool :=
  match disk.look path with
  | .ok (.folder _) => true
  | _ => false

/-- The octets of a file. -/
def read (disk : Disk) (path : Path) : Except Fault Octets := do
  match ← disk.look path with
  | .file octets _ => return octets
  | .folder _ => throw (refusal path .isDirectory)

/-- Where the file of a path is, or would be, if it can be opened to be written: in a folder that is
there. -/
def openAt (disk : Disk) (path : Path) : Except Fault Location := do
  let location ← disk.locate path
  match disk.node? location with
  | some (.folder _) => throw (refusal path .isDirectory)
  | _ =>
    match disk.node? location.dropLast with
    | none => throw (refusal path .absent)
    | some _ => return location

/-- The disk with a file that holds some octets. -/
def withFile (disk : Disk) (location : Location) (octets : Octets) : Disk :=
  { disk.setNode location (.file octets disk.clock) with clock := disk.clock + 1 }

/-- Replaces or creates a file in a folder that is there. The disk keeps the file as it is when the
device gives up. -/
def write (disk : Disk) (path : Path) (octets : Octets) : Disk × Except Fault Unit :=
  match disk.openAt path with
  | .error fault => (disk, .error fault)
  | .ok location => match disk.outages.lookup location with
    | none => (disk.withFile location octets, .ok ())
    | some outage =>
      (disk.withFile location (octets.take outage.taken), .error (.os ⟨outage.cause, none⟩))

/-- Opens a file to be written and writes nothing. -/
def clear (disk : Disk) (path : Path) : Disk × Except Fault Unit :=
  match disk.openAt path with
  | .error fault => (disk, .error fault)
  | .ok location => (disk.withFile location [], .ok ())

/-- Makes a folder in a folder that is there. -/
def makeFolder (disk : Disk) (path : Path) : Except Fault Disk := do
  let location ← disk.locate path
  if (disk.node? location).isSome then throw (refusal path .occupied)
  else return { disk.setNode location (.folder disk.clock) with clock := disk.clock + 1 }

/-- Makes a folder, and first the folders above it that are missing; a folder that is there is no
obstacle. The disk keeps the folders that were made before a fault. The fuel is the number of
components. -/
def makeFoldersFrom (disk : Disk) (path : Path) : Nat → Disk × Except Fault Unit
  | 0 => match disk.makeFolder path with
    | .ok made => (made, .ok ())
    | .error fault => (disk, if disk.isFolder path then .ok () else .error fault)
  | fuel + 1 => match disk.makeFolder path with
    | .ok made => (made, .ok ())
    | .error (.os ⟨.absent, _⟩) => match disk.makeFoldersFrom path.parent fuel with
      | (changed, .error fault) => (changed, .error fault)
      | (changed, .ok ()) => match changed.makeFolder path with
        | .ok made => (made, .ok ())
        | .error fault => (changed, if changed.isFolder path then .ok () else .error fault)
    | .error fault => (disk, if disk.isFolder path then .ok () else .error fault)

/-- Makes a folder and those above it. -/
def makeFolders (disk : Disk) (path : Path) : Disk × Except Fault Unit :=
  disk.makeFoldersFrom path path.parts.length

/-- The name of a node in a folder. -/
def childName? (folder location : Location) : Option String :=
  if location.dropLast == folder && location != [] then location.getLast? else none

/-- The paths of the nodes in a folder whose names have an extension, sorted by name. -/
def listing (disk : Disk) (folder : Path) (extension : String) : List Path :=
  if disk.isFolder folder then
    match disk.locate folder with
    | .ok location =>
      let names := (disk.nodes.map Prod.fst).filterMap (childName? location)
      (sortTexts (names.filter fun n => extension.toList.isSuffixOf n.toList)).map
        fun n => ⟨folder.root, folder.parts ++ [n]⟩
    | .error _ => []
  else []

end Disk

end DesignGauge
