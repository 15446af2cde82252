import PromptStudio.Files.Content
import PromptStudio.Files.Path
import PromptStudio.Number.Binary

/-!
# The file tree

Folders with their entries in the order of their names, files with their contents, and links that
lead nowhere. Paths are followed part by part, so a path through something that is not a folder
fails even if a double dot leads back out of it.
-/

namespace PromptStudio

/-- What stands in a folder. -/
inductive Entry where
  /-- A file. It has no time of change yet while the step that wrote it lasts. -/
  | file (content : Content) (modified : Option Binary)
  | brokenLink
  | folder (entries : List (String × Entry))
deriving Inhabited, Repr

/-- Why an operation on a path failed. -/
inductive FileCause where
  | missing
  | occupied
  | notFolder
  | isFolder
  | nameTooLong
  /-- The path has a character that no path can have. -/
  | nul
deriving DecidableEq, Repr, Inhabited

/-- A failed operation and the path it was asked for. -/
structure FileFault where
  cause : FileCause
  path : String
deriving DecidableEq, Repr, Inhabited

namespace FileCause

def number : FileCause → Nat
  | missing => 2
  | occupied => 17
  | notFolder => 20
  | isFolder => 21
  | nameTooLong => 36
  | nul => 0

/-- The system's words for a cause. -/
def text : FileCause → String
  | missing => "No such file or directory"
  | occupied => "File exists"
  | notFolder => "Not a directory"
  | isFolder => "Is a directory"
  | nameTooLong => "File name too long"
  | nul => "embedded null byte"

end FileCause

def FileFault.message (fault : FileFault) : String :=
  if fault.cause = .nul then fault.cause.text
  else s!"[Errno {fault.cause.number}] " ++ fault.cause.text ++ ": " ++ Text.quoted fault.path

namespace Entry

def find (name : String) : List (String × Entry) → Option Entry
  | [] => none
  | (n, e) :: rest => if n = name then some e else find name rest

/-- Puts an entry under its name, in the order of names. -/
def put (name : String) (e : Entry) : List (String × Entry) → List (String × Entry)
  | [] => [(name, e)]
  | (n, old) :: rest =>
    if n = name then (name, e) :: rest
    else if name < n then (name, e) :: (n, old) :: rest
    else (n, old) :: put name e rest

def drop (name : String) : List (String × Entry) → List (String × Entry)
  | [] => []
  | (n, e) :: rest => if n = name then rest else (n, e) :: drop name rest

def at? (e : Entry) : List String → Option Entry
  | [] => some e
  | name :: rest =>
    match e with
    | folder entries => (find name entries).bind fun child => child.at? rest
    | _ => none

/-- The tree with another entry at a location whose folders all exist. -/
def set (e : Entry) (new : Entry) : List String → Entry
  | [] => new
  | name :: rest =>
    match e with
    | folder entries =>
      match rest with
      | [] => folder (put name new entries)
      | _ =>
        match find name entries with
        | some child => folder (put name (child.set new rest) entries)
        | none => e
    | _ => e

/-- The tree without the entry at a location. -/
def erase (e : Entry) : List String → Entry
  | [] => e
  | name :: rest =>
    match e with
    | folder entries =>
      match rest with
      | [] => folder (drop name entries)
      | _ =>
        match find name entries with
        | some child => folder (put name (child.erase rest) entries)
        | none => e
    | _ => e

mutual

def stamp (now : Binary) : Entry → Entry
  | file content none => file content (some now)
  | folder entries => folder (stampAll now entries)
  | e => e

def stampAll (now : Binary) : List (String × Entry) → List (String × Entry)
  | [] => []
  | (name, e) :: rest => (name, stamp now e) :: stampAll now rest

end

end Entry

/-- Why a copy failed. -/
inductive CopyFault where
  | file (fault : FileFault)
  | sameFile (source target : String)
deriving DecidableEq, Repr, Inhabited

def CopyFault.message : CopyFault → String
  | file fault => fault.message
  | sameFile source target =>
    Text.quoted source ++ " and " ++ Text.quoted target ++ " are the same file"

/-- The files: a root folder and the folder that relative paths start from. -/
structure FileTree where
  root : Entry := .folder []
  workingFolder : List String := []
deriving Inhabited, Repr

namespace FileTree

/-- Follows the parts of a path from a location. -/
def follow (root : Entry) : List String → List String → Except FileCause (List String)
  | location, [] => .ok location
  | location, part :: rest =>
    match root.at? location with
    | some (.folder _) =>
      if part = "" ∨ part = "." then follow root location rest
      else if part = ".." then follow root location.dropLast rest
      else if 255 < part.utf8ByteSize then .error .nameTooLong
      else follow root (location ++ [part]) rest
    | some (.file ..) => .error .notFolder
    | _ => .error .missing

/-- The length in bytes from which on a path is too long. -/
def pathLimit : Nat := 4096

/-- The location that a path names. Its folders exist; whether something stands there is open. -/
def locate (t : FileTree) (path : String) : Except FileCause (List String) :=
  if path.toList.contains '\x00' then .error .nul
  else if path.isEmpty then .error .missing
  else if pathLimit ≤ path.utf8ByteSize then .error .nameTooLong
  else if path.startsWith "/" then follow t.root [] (Path.parts path)
  else follow t.root t.workingFolder (Path.parts path)

/-- The entry at a path. -/
def entry (t : FileTree) (path : String) : Except FileCause Entry := do
  let location ← t.locate path
  match t.root.at? location with
  | some .brokenLink => .error .missing
  | some e => .ok e
  | none => .error .missing

def has (t : FileTree) (path : String) : Bool := (t.entry path).isOk

/-- Whether something stands at a path, be it only a link to nothing. -/
def occupied (t : FileTree) (path : String) : Bool :=
  match t.locate path with
  | .ok location => (t.root.at? location).isSome
  | .error _ => false

def isFolder (t : FileTree) (path : String) : Bool :=
  match t.entry path with
  | .ok (.folder _) => true
  | _ => false

def isFile (t : FileTree) (path : String) : Bool :=
  match t.entry path with
  | .ok (.file ..) => true
  | _ => false

def blame (path : String) (r : Except FileCause α) : Except FileFault α :=
  r.mapError fun cause => ⟨cause, path⟩

/-- The entries of the folder at a path. -/
def entries (t : FileTree) (path : String) : Except FileFault (List (String × Entry)) := do
  match ← blame path (t.entry path) with
  | .folder entries => .ok entries
  | _ => .error ⟨.notFolder, path⟩

/-- The names in the folder at a path, in order. -/
def names (t : FileTree) (path : String) : Except FileFault (List String) :=
  (t.entries path).map (·.map Prod.fst)

def read (t : FileTree) (path : String) : Except FileFault Content := do
  match ← blame path (t.entry path) with
  | .file content _ => .ok content
  | _ => .error ⟨.isFolder, path⟩

/-- The time of change at a path. A file written in this step has none yet, and the time of a folder
is always later than that of a file. -/
def modified (t : FileTree) (path : String) : Except FileFault (Option Binary) := do
  match ← blame path (t.entry path) with
  | .file _ time => .ok time
  | _ => .ok none

/-- Writes a file whose folder exists. -/
def write (t : FileTree) (path : String) (content : Content) (time : Option Binary) :
    Except FileFault FileTree := do
  let location ← blame path (t.locate path)
  match t.root.at? location with
  | some (.folder _) => .error ⟨.isFolder, path⟩
  | some .brokenLink => .error ⟨.missing, path⟩
  | _ =>
    if path.endsWith "/" then .error ⟨.isFolder, path⟩
    else .ok { t with root := t.root.set (.file content time) location }

/-- Makes one folder. -/
def makeFolder (t : FileTree) (path : String) : Except FileFault FileTree := do
  -- a slash at the end does not ask for the folder itself
  let bare := String.ofList (path.toList.reverse.dropWhile (· = '/')).reverse
  let location ← blame path (t.locate (if bare.isEmpty then path else bare))
  match t.root.at? location with
  | some _ => .error ⟨.occupied, path⟩
  | none => .ok { t with root := t.root.set (.folder []) location }

/-- Makes the last folder of a path, where `aboveIsNew` says that those above it were just made. A
dot at the end adds no folder to new ones. -/
def makeLastFolder (t : FileTree) (path last : String) (aboveIsNew existOk : Bool) :
    FileTree × Option FileFault :=
  if aboveIsNew && last = "." then (t, none)
  else match t.makeFolder path with
    | .ok t => (t, none)
    | .error fault => (t, if existOk && t.isFolder path then none else some fault)

/-- Makes a folder and the folders above it. `fuel` bounds the number of folders. -/
def makeFoldersFrom : Nat → FileTree → String → Bool → FileTree × Option FileFault
  | 0, t, _, _ => (t, none)
  | fuel + 1, t, path, existOk =>
    let (head, tail) := (Path.folderName path, Path.baseName path)
    let (head, tail) := if tail.isEmpty then (Path.folderName head, Path.baseName head)
      else (head, tail)
    if !head.isEmpty && !tail.isEmpty && !t.has head then
      match makeFoldersFrom fuel t head existOk with
      | (t, some fault) =>
        if fault.cause = .occupied then t.makeLastFolder path tail true existOk
        else (t, some fault)
      | (t, none) => t.makeLastFolder path tail true existOk
    else t.makeLastFolder path tail false existOk

/-- Makes a folder and the folders above it; one that stands there already is a fault unless
`existOk` says otherwise. Folders that were made stay when a later one cannot be made. -/
def makeFolders (t : FileTree) (path : String) (existOk : Bool) : FileTree × Option FileFault :=
  makeFoldersFrom (path.length + 1) t path existOk

/-- Removes the file or link at a path. -/
def remove (t : FileTree) (path : String) : Except FileFault FileTree := do
  let location ← blame path (t.locate path)
  match t.root.at? location with
  | some (.folder _) => .error ⟨.isFolder, path⟩
  | some _ => .ok { t with root := t.root.erase location }
  | none => .error ⟨.missing, path⟩

/-- Removes the folder at a path with all that is in it. -/
def removeFolder (t : FileTree) (path : String) : Except FileFault FileTree := do
  let location ← blame path (t.locate path)
  match t.root.at? location with
  | some (.folder _) => .ok { t with root := t.root.erase location }
  | some _ => .error ⟨.notFolder, path⟩
  | none => .error ⟨.missing, path⟩

def discard (t : FileTree) (path : String) : FileTree :=
  match t.locate path with
  | .ok location => { t with root := t.root.erase location }
  | .error _ => t

def absolute (t : FileTree) (path : String) : String :=
  Path.absolute ("/" ++ "/".intercalate t.workingFolder) path

def brokenTarget : List String := ["nonexistent", "target"]

/-- Follows the parts of a path and its links, whether or not anything stands there. -/
def followLinks (root : Entry) : List String → List String → List String
  | location, [] => location
  | location, part :: rest =>
    if part = "" ∨ part = "." then followLinks root location rest
    else if part = ".." then followLinks root location.dropLast rest
    else
      let next := location ++ [part]
      match root.at? next with
      | some .brokenLink => followLinks root brokenTarget rest
      | _ => followLinks root next rest

def realPath (t : FileTree) (path : String) : String :=
  let start := if path.startsWith "/" then [] else t.workingFolder
  "/" ++ "/".intercalate (followLinks t.root start (Path.parts path))

/-- Copies a file; a folder as target takes the file under its own name. -/
def copy (t : FileTree) (source target : String) : Except CopyFault FileTree := do
  let target := if t.isFolder target then Path.join target (Path.baseName source) else target
  if source.toList.contains '\x00' then .error (.file ⟨.nul, source⟩)
  if target.toList.contains '\x00' then .error (.file ⟨.nul, target⟩)
  match t.locate source, t.locate target with
  | .ok a, .ok b => if a = b && t.has source then .error (.sameFile source target)
  | _, _ => pure ()
  let content ← (t.read source).mapError .file
  (t.write target content none).mapError .file

end FileTree

end PromptStudio
