import DesignGauge.Component.Wire
import DesignGauge.Json.File
import DesignGauge.Log
import DesignGauge.Store.Basic

/-!
# The store on disk

One JSON file for each source file. Loading a folder puts the components of its files into the
store in the order of their names; a file that is unreadable, empty, malformed or of another shape
is skipped with a warning.
-/

namespace DesignGauge.Store

/-- What a component file tells, and its components if it has some. -/
def loadFile (disk : Disk) (path : Path) :
    Except Fault (Option FileComponents) × List LogLine :=
  match Json.contentAt disk path with
  | .error fault => (.error fault, [])
  | .ok (.unreadable os) =>
    (.ok none, [.warning ("Skipping unreadable file " ++ path.text ++ ": " ++ os.message)])
  | .ok .empty => (.ok none, [.warning ("Skipping empty file: " ++ path.text)])
  | .ok (.malformed detail) =>
    (.ok none, [⟨.warning, "Error parsing JSON file " ++ path.text, detail⟩])
  | .ok (.value datum) => match FileComponents.read datum with
    | .fits components => (.ok (some components), [])
    | .issues is =>
      (.ok none, [.warning ("Invalid component structure in " ++ path.text ++ ": "
        ++ toString is.length ++ " errors")])
    | .unkeyable kind => (.error (.unkeyable kind), [])

/-- The result of loading: the store with what was loaded, and how many files that were. -/
structure Loading where
  store : Store
  result : Except Fault Nat
  log : List LogLine

/-- The path under which loaded components are put: the file they record, or their own file. -/
def keyFor (path : Path) (components : FileComponents) : String :=
  components.fileName?.getD path.name

/-- Loads some files one after another. -/
def loadFiles (disk : Disk) (store : Store) (loaded : Nat) : List Path → Loading
  | [] => ⟨store, .ok loaded, []⟩
  | path :: rest => match loadFile disk path with
    | (.error fault, lines) => ⟨store, .error fault, lines⟩
    | (.ok none, lines) =>
      let more := loadFiles disk store loaded rest
      { more with log := lines ++ more.log }
    | (.ok (some components), lines) =>
      let more := loadFiles disk (store.put (keyFor path components) components) (loaded + 1) rest
      { more with log := lines ++ more.log }

/-- The component files of a folder. -/
def componentFiles (disk : Disk) (folder : Path) : List Path := disk.listing folder ".json"

/-- Loads all component files of a folder. -/
def load (disk : Disk) (store : Store) (folder : Path) : Loading :=
  match disk.present folder with
  | .error fault => ⟨store, .error fault, []⟩
  | .ok false =>
    ⟨store, .ok 0, [.warning ("Components directory does not exist: " ++ folder.text)]⟩
  | .ok true =>
    let loading := loadFiles disk store 0 (componentFiles disk folder)
    match loading.result with
    | .ok n =>
      { loading with log := loading.log
          ++ [.debug ("Loaded " ++ toString n ++ " component files from " ++ folder.text)] }
    | .error _ => loading

/-- The result of saving: the disk as it is then, and the files written. -/
structure Saving where
  disk : Disk
  result : Except Fault (List Path)
  log : List LogLine

/-- The file of an entry in a folder. -/
def fileOf (folder : Path) (path : String) : Path :=
  folder.below (SourceName.baseName path ++ ".json")

/-- A refusal of the file system as a failure to save. -/
def saveFault (folder : Path) : Fault → Fault
  | .os os => .save (.components folder.text os)
  | fault => fault

/-- Writes one entry. -/
def saveEntry (disk : Disk) (target : Path) (components : FileComponents) :
    Disk × Except Fault Unit :=
  match Json.fileOctets components.write with
  | .error fault => (disk, .error fault)
  | .ok octets => disk.write target octets

/-- Writes some entries one after another. -/
def saveEntries (folder : Path) (disk : Disk) : List (String × FileComponents) → Saving
  | [] => ⟨disk, .ok [], []⟩
  | (path, components) :: rest =>
    let target := fileOf folder path
    match saveEntry disk target components with
    | (changed, .error fault) => ⟨changed, .error (saveFault folder fault), []⟩
    | (changed, .ok ()) =>
      let more := saveEntries folder changed rest
      { more with
        result := more.result.map (target :: ·)
        log := .debug ("Saved parsed components for file: " ++ target.stem) :: more.log }

/-- Writes all entries into a folder. -/
def save (disk : Disk) (store : Store) (folder : Path) : Saving :=
  match disk.makeFolders folder with
  | (changed, .error fault) => ⟨changed, .error (saveFault folder fault), []⟩
  | (changed, .ok ()) => saveEntries folder changed store.entries

end DesignGauge.Store
