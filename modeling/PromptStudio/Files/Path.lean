import PromptStudio.Text.Blank
import PromptStudio.Text.Quoted

/-!
# Paths

Paths are texts with slashes. The functions here work on the text alone; they do not ask whether
anything stands at the path.
-/

namespace PromptStudio.Path

def home : String := "/w"

def inHome? (text : String) : Option String :=
  if text = home || text.startsWith (home ++ "/") then
    some (String.ofList (text.toList.drop home.length))
  else none

/-- Whether `needle` is a part of `text`. The home folder may be anywhere in the system, so a path in
it is found only where a text begins, and its own name is not found in a path. -/
def contains (text needle : String) : Bool :=
  match inHome? text, inHome? needle with
  | some text, some needle => needle.toList.isPrefixOf text.toList
  | some text, none => Text.contains text needle
  | none, some _ => false
  | none, none => Text.contains text needle

/-- Joins two paths: an absolute second path replaces the first. -/
def join (a b : String) : String :=
  if b.startsWith "/" then b
  else if a.isEmpty || a.endsWith "/" then a ++ b
  else a ++ "/" ++ b

def joinAll (first : String) (rest : List String) : String := rest.foldl join first

/-- The parts between slashes, from a list of characters. -/
def partsOf (cs : List Char) : List (List Char) :=
  match cs with
  | [] => [[]]
  | c :: rest =>
    if c = '/' then [] :: partsOf rest
    else match partsOf rest with
      | [] => [[c]]
      | part :: parts => (c :: part) :: parts

/-- The parts of a path between its slashes; empty parts stay. -/
def parts (path : String) : List String := (partsOf path.toList).map String.ofList

def baseName (path : String) : String := (parts path).getLast?.getD ""

/-- A file name made of a start and a number. -/
def fileName (start : String) (number : Int) : String := start ++ "_" ++ toString number ++ ".png"

/-- What stands before the last slash, without slashes at its end unless it is all slashes. -/
def folderName (path : String) : String :=
  let head := (path.toList.reverse.dropWhile (· ≠ '/')).reverse
  if head.all (· = '/') then String.ofList head
  else String.ofList (head.reverse.dropWhile (· = '/')).reverse

/-- The last dot of a name and what follows it, unless only dots stand before it. -/
def extension (path : String) : String :=
  let name := (baseName path).toList
  let reversed := name.reverse
  let suffix := reversed.takeWhile (· ≠ '.')
  let before := (reversed.dropWhile (· ≠ '.')).drop 1
  if suffix.length = name.length then ""
  else if before.all (· = '.') then ""
  else String.ofList ('.' :: suffix.reverse)

/-- Drops empty parts and dots and lets each double dot take back the part before it. -/
def collapse (absolute : Bool) : List String → List String → List String
  | done, [] => done.reverse
  | done, part :: rest =>
    if part = "" ∨ part = "." then collapse absolute done rest
    else if part = ".." then
      match done with
      | [] => if absolute then collapse absolute [] rest else collapse absolute [".."] rest
      | last :: before =>
        if last = ".." then collapse absolute (".." :: done) rest
        else collapse absolute before rest
    else collapse absolute (part :: done) rest

/-- The path without needless parts. Exactly two leading slashes are kept. -/
def normal (path : String) : String :=
  if path.isEmpty then "."
  else
    let lead := if path.startsWith "//" && !path.startsWith "///" then "//"
      else if path.startsWith "/" then "/" else ""
    let body := "/".intercalate (collapse (!lead.isEmpty) [] (parts path))
    let all := lead ++ body
    if all.isEmpty then "." else all

def absolute (workingFolder path : String) : String := normal (join workingFolder path)

def imageExtensions : List String := [".png", ".jpg", ".jpeg", ".webp", ".bmp"]

/-- Whether a name has the extension of an image file, in capital or small letters. No letter
outside ASCII has one of these small letters. -/
def isImage (path : String) : Bool := imageExtensions.contains (Text.lowerAscii (extension path))

end PromptStudio.Path
