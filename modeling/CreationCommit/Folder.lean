/-!
# Folders of files

A folder holds files and further folders by their paths below it.  A text
leads to a path: its names are followed one by one, from the folder itself if
the text begins with a slash, and otherwise from a place within it.  An empty
name or a single dot stays, two dots go back, though not out of the folder,
and every name that is followed has to be left from a folder.
-/

namespace CreationCommit

/-- What is found at a path. -/
inductive Found
  | nothing
  | folder
  | file (content : ByteArray)

/-- A folder: its files and the folders below it, by their paths. -/
structure Folder where
  files : List (List String × ByteArray)
  folders : List (List String)

namespace Folder

def empty : Folder where
  files := []
  folders := []

/-- Whether a path leads to a folder; the empty path is the folder itself. -/
def hasFolder (folder : Folder) (path : List String) : Bool :=
  path.isEmpty || folder.folders.contains path

def file? (folder : Folder) (path : List String) : Option ByteArray :=
  (folder.files.find? fun entry => entry.1 == path).map (·.2)

/-- The paths that end with a name of the given path. -/
def passed : List String → List (List String)
  | [] => []
  | name :: rest => [name] :: (passed rest).map (name :: ·)

/-- Add a folder, and the folders on the way to it. -/
def addFolder (folder : Folder) (path : List String) : Folder :=
  { folder with folders := passed path ++ folder.folders }

/-- Store a file, in the place of the one stored before it. -/
def storeFile (folder : Folder) (path : List String) (content : ByteArray) :
    Folder :=
  { folder with
    files := (path, content) ::
      folder.files.filter (fun entry => entry.1 != path) }

def addFile (folder : Folder) (path : List String) (content : ByteArray) :
    Folder :=
  (folder.addFolder path.dropLast).storeFile path content

def nameLimit : Nat :=
  255

/-- The greatest size in bytes of a text that leads to a path. -/
def textLimit : Nat :=
  4095

def isName (name : String) : Bool :=
  name.utf8ByteSize ≤ nameLimit && !name.toList.contains '\x00'

/-- Follow names from a path below the folder. -/
def follow? (folder : Folder) : List String → List String →
    Option (List String)
  | path, [] => some path
  | path, name :: rest =>
      if folder.hasFolder path && isName name then
        if name = "" ∨ name = "." then follow? folder path rest
        else if name = ".." then follow? folder path.dropLast rest
        else follow? folder (path ++ [name]) rest
      else
        none

/-- The path to which a text leads from a place; an empty or overlong text
leads nowhere. -/
def path? (folder : Folder) (place : List String) (text : String) :
    Option (List String) :=
  if text.isEmpty || textLimit < text.utf8ByteSize then
    none
  else
    match text.splitOn "/" with
    | "" :: names => folder.follow? [] names
    | names => folder.follow? place names

def find (folder : Folder) (place : List String) (text : String) : Found :=
  match folder.path? place text with
  | none => .nothing
  | some path =>
      match folder.file? path with
      | some content => .file content
      | none => if folder.hasFolder path then .folder else .nothing

/-- Write a file where a text leads from a place, unless a folder is there or
the text leads nowhere. -/
def write? (folder : Folder) (place : List String) (text : String)
    (content : ByteArray) : Option Folder := do
  let path ← folder.path? place text
  if folder.hasFolder path then none
  else some (folder.storeFile path content)

end Folder

end CreationCommit
