import ComponentServer.Path

/-!
File trees: folders and files by the list of names that leads to them from the root. A path is
followed name by name, so `..` leads back only out of a folder that exists.
-/

namespace ComponentServer

/-- The names that lead to a file or a folder. -/
abbrev Place := List Path.Name

structure FileTree where
  folders : List Place
  /-- The text of each file; a file that is no text has none. -/
  files : List (Place × Option Text)
deriving DecidableEq, Repr

namespace FileTree

/-- The root alone. -/
def empty : FileTree := ⟨[], []⟩

def isFolder (tree : FileTree) (place : Place) : Bool :=
  place.isEmpty || tree.folders.contains place

def file? (tree : FileTree) (place : Place) : Option (Option Text) :=
  (tree.files.find? (·.1 = place)).map Prod.snd

/-- Follows names from a place; every name but the first needs a folder to start from. -/
def follow? (tree : FileTree) (place : Place) : List Path.Name → Option Place
  | [] => some place
  | name :: others =>
    if !tree.isFolder place then none
    else if name = [] ∨ name = Path.hereName then tree.follow? place others
    else if name = Path.aboveName then tree.follow? place.dropLast others
    else tree.follow? (place ++ [name]) others

/-- The place that an absolute path leads to. -/
def locate? (tree : FileTree) (path : Path) : Option Place :=
  if path.isAbsolute then tree.follow? [] (Path.split path.body) else none

/-- Whether a path leads to a file. -/
def isFile (tree : FileTree) (path : Path) : Bool :=
  ((tree.locate? path).bind tree.file?).isSome

/-- The text of the file that a path leads to. -/
def read? (tree : FileTree) (path : Path) : Option Text :=
  ((tree.locate? path).bind tree.file?).bind id

/-- The names of the folders in a folder. -/
def childFolders (tree : FileTree) (path : Path) : List Path.Name :=
  match tree.locate? path with
  | some place => tree.folders.filterMap fun folder =>
    if folder.length = place.length + 1 ∧ place.isPrefixOf folder then folder.getLast? else none
  | none => []

/-- Makes a folder and all folders around it. -/
def addFolder (tree : FileTree) (place : Place) : FileTree :=
  let around := (List.range place.length).map fun n => place.take (n + 1)
  { tree with folders := tree.folders ++ around.filter (!tree.folders.contains ·) }

/-- Writes a file, in folders that are made where they are missing. -/
def write (tree : FileTree) (place : Place) (text : Option Text) : FileTree :=
  let made := tree.addFolder place.dropLast
  { made with files := made.files.filter (·.1 != place) ++ [(place, text)] }

/-- Deletes a file, or a folder with all that is in it. -/
def delete (tree : FileTree) (place : Place) : FileTree :=
  { folders := tree.folders.filter (!place.isPrefixOf ·)
    files := tree.files.filter (!place.isPrefixOf ·.1) }

end FileTree

end ComponentServer
