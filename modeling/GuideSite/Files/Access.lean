import GuideSite.Files.Fault
import GuideSite.Files.Tree
import GuideSite.Path.Basic

/-!
# Access to a file tree by paths

A path leads to a place by its names, one directory after the other; a relative path starts at the working directory,
and `..` goes back to the directory that holds the one reached. Every name but the last must be that of a directory, and
neither a name nor a path may be too long.
-/

namespace GuideSite.FileTree

/-! ## Finding places -/

/-- The most bytes of a name. -/
def maxNameSize : Nat := 255

/-- The most bytes of a path. -/
def maxPathSize : Nat := 4095

/-- The place that names lead to, from a place. -/
def walk (t : FileTree) (place : Location) : List String → Except FileObstacle Location
  | [] => .ok place
  | name :: rest =>
    match t.find? place with
    | some .directory =>
      if maxNameSize < name.utf8ByteSize then .error .nameTooLong
      else walk t (if name = ".." then place.tail else name :: place) rest
    | some (.file _) => .error .notDirectory
    | none => .error .missing

/-- The place that a path leads to; nothing need be there. -/
def locate (t : FileTree) (cwd : Location) (p : Path) : Except FileObstacle Location :=
  if p.names.any (·.toList.contains '\x00') then .error .nullCharacter
  else if maxPathSize < p.text.utf8ByteSize then .error .nameTooLong
  else t.walk (if p.isAbsolute then [] else cwd) p.names

/-- What stands at a path. -/
def entryAt? (t : FileTree) (cwd : Location) (p : Path) : Option Entry :=
  match t.locate cwd p with
  | .ok place => t.find? place
  | .error _ => none

/-- A directory stands at the path. -/
def isDirectoryAt (t : FileTree) (cwd : Location) (p : Path) : Bool :=
  t.entryAt? cwd p == some .directory

/-- A file stands at the path. -/
def isFileAt (t : FileTree) (cwd : Location) (p : Path) : Bool :=
  match t.entryAt? cwd p with
  | some (.file _) => true
  | _ => false

/-- The path cannot even be looked up. -/
def checkLength (t : FileTree) (cwd : Location) (p : Path) : Except FileFault Unit :=
  match t.locate cwd p with
  | .error .nameTooLong => .error ⟨.nameTooLong, p.text⟩
  | _ => .ok ()

/-! ## Reading -/

/-- The content of the file at a path. -/
def readText (t : FileTree) (cwd : Location) (p : Path) : Except FileFault String :=
  match t.locate cwd p with
  | .error obstacle => .error ⟨obstacle, p.text⟩
  | .ok place => match t.find? place with
    | some (.file content) => .ok content
    | some .directory => .error ⟨.isDirectory, p.text⟩
    | none => .error ⟨.missing, p.text⟩

/-! ## Writing -/

/-- The tree with a file written at a path, in a directory that is there. -/
def writeText (t : FileTree) (cwd : Location) (p : Path) (content : String) : Except FileFault FileTree :=
  match t.locate cwd p with
  | .error obstacle => .error ⟨obstacle, p.text⟩
  | .ok place =>
    if h : t.Admits place (.file content) then .ok (t.put place (.file content) h)
    else .error ⟨if t.isDirectory place then .isDirectory else .missing, p.text⟩

/-- The tree with a new directory at a path, in a directory that is there. -/
def makeDirectory (t : FileTree) (cwd : Location) (p : Path) : Except FileObstacle FileTree :=
  match t.locate cwd p with
  | .error obstacle => .error obstacle
  | .ok place =>
    if (t.find? place).isSome then .error .exists
    else if h : t.Admits place .directory then .ok (t.put place .directory h)
    else .error .missing

/-- The tree after an attempt to make a directory, with a fault unless a directory is there now. -/
def settled (t : FileTree) (cwd : Location) (p : Path) : Except FileObstacle FileTree → FileTree × Option FileFault
  | .ok t' => (t', none)
  | .error obstacle => (t, if t.isDirectoryAt cwd p then none else some ⟨obstacle, p.text⟩)

/-- The tree with a directory at the path of the reversed names, and with those above it if they are missing. On a
fault the directories made so far stay. -/
def makeDirectoriesFrom (t : FileTree) (cwd : Location) (anchor : Anchor) : List String → FileTree × Option FileFault
  | [] => t.settled cwd ⟨anchor, []⟩ (t.makeDirectory cwd ⟨anchor, []⟩)
  | name :: above =>
    let p : Path := ⟨anchor, (name :: above).reverse⟩
    match t.makeDirectory cwd p with
    | .error .missing =>
      match makeDirectoriesFrom t cwd anchor above with
      | (t', none) => t'.settled cwd p (t'.makeDirectory cwd p)
      | (t', some fault) => (t', some fault)
    | attempt => t.settled cwd p attempt

/-- The tree with a directory at a path, and with those above it if they are missing. -/
def makeDirectories (t : FileTree) (cwd : Location) (p : Path) : FileTree × Option FileFault :=
  t.makeDirectoriesFrom cwd p.anchor p.names.reverse

/-- The tree with a file written at a path, and with the directories above it if they are missing. -/
def writeWithDirectories (t : FileTree) (cwd : Location) (p : Path) (content : String) : FileTree × Option FileFault :=
  match t.makeDirectories cwd p.parent with
  | (t', some fault) => (t', some fault)
  | (t', none) => match t'.writeText cwd p content with
    | .ok t'' => (t'', none)
    | .error fault => (t', some fault)

/-! ## Removing and listing -/

/-- The tree without what stands at a path; the root stays. -/
def removeAt (t : FileTree) (cwd : Location) (p : Path) : FileTree :=
  match t.locate cwd p with
  | .error _ => t
  | .ok place => if h : place = [] then t else t.removeBelow place h

/-- The path of a place from a directory above it, with a slash after that of a directory. -/
def listed (t : FileTree) (cwd place : Location) : String :=
  let names := (place.take (place.length - cwd.length)).reverse
  String.intercalate "/" names ++ if t.isDirectory place then "/" else ""

/-- Everything below a directory, in the order of code points. -/
def listing (t : FileTree) (cwd : Location) : List String :=
  let below := t.places.filter fun place => isWithin place cwd && place ≠ cwd
  (below.map (t.listed cwd)).mergeSort fun a b => decide (a ≤ b)

end GuideSite.FileTree
