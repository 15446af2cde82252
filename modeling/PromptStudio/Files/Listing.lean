import PromptStudio.Files.Tree

/-!
# Listing images

The images of a folder, alone or with the folders below it, and files by their time of change.
-/

namespace PromptStudio

namespace Entry

def isFolder : Entry → Bool
  | folder _ => true
  | _ => false

def leafNames (entries : List (String × Entry)) : List String :=
  (entries.filter fun entry => !entry.2.isFolder).map Prod.fst

mutual

/-- The paths of all entries below that are not folders: those of a folder come before those of
the folders in it. A folder whose path is too long cannot be looked into. -/
def leavesBelow (base : String) : Entry → List String
  | folder entries =>
    if FileTree.pathLimit ≤ base.utf8ByteSize then []
    else (leafNames entries).map (Path.join base) ++ leavesInside base entries
  | _ => []

def leavesInside (base : String) : List (String × Entry) → List String
  | [] => []
  | (name, e) :: rest => leavesBelow (Path.join base name) e ++ leavesInside base rest

end

/-- Everything below a folder, by its path from there. The path of a folder ends with a slash. -/
def inventory (base : String) : List (String × Entry) → List (String × Entry)
  | [] => []
  | (name, e) :: rest =>
    (match e with
      | folder inner => (base ++ name ++ "/", folder inner) :: inventory (base ++ name ++ "/") inner
      | e => [(base ++ name, e)]) ++ inventory base rest

end Entry

namespace FileTree

/-- The paths of all entries below a path that are not folders; there are none below a path that is
no folder. -/
def leavesBelow (t : FileTree) (path : String) : List String :=
  match t.entry path with
  | .ok e => e.leavesBelow path
  | .error _ => []

def imagesIn (t : FileTree) (path : String) : Except FileFault (List String) :=
  (t.names path).map fun names => (names.filter Path.isImage).map (Path.join path)

/-- The image files in a folder, or at any depth below it. Folders and broken links with the names of
images are left out. -/
def imageFiles (t : FileTree) (path : String) (deep : Bool) : List String :=
  let paths := if deep then t.leavesBelow path
    else ((t.names path).toOption.getD []).map (Path.join path)
  paths.filter fun p => t.isFile p && Path.isImage p

/-- A time of change as it is kept: in whole nanoseconds, and given back as a number of seconds. -/
def keptTime (x : Binary) : Binary :=
  let whole := x.floor?.getD 0
  let nanos := ((x - Binary.ofInt whole) * Binary.ofInt 1000000000).floor?.getD 0
  Binary.ofInt whole + Binary.ofInt nanos * Binary.ofQuotient false 1 1000000000

/-- Whether the first of two times of change is not earlier. A file written in this step is the
newest. -/
def notEarlier (a b : Option Binary) : Bool :=
  match a, b with
  | none, _ => true
  | some _, none => false
  | some x, some y => decide (keptTime y ≤ keptTime x)

/-- Paths by their time of change, the newest first; equal times keep their order. -/
def newestFirst (t : FileTree) (paths : List String) : Except FileFault (List String) := do
  let timed ← paths.mapM fun path => (t.modified path).map fun time => (path, time)
  .ok ((timed.mergeSort fun a b => notEarlier a.2 b.2).map Prod.fst)

/-- The images of a folder, the newest first. -/
def newestImages (t : FileTree) (path : String) : Except FileFault (List String) := do
  t.newestFirst (← t.imagesIn path)

end FileTree

end PromptStudio
