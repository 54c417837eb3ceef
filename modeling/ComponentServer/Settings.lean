import ComponentServer.FileTree
import ComponentServer.Language
import ComponentServer.Toml.Document

/-!
Settings of a workspace. They stand in a file that is looked for in a folder, in the folders around
it and in the folders directly inside it; a file that cannot be read or understood counts as empty.
-/

namespace ComponentServer

structure Settings where
  /-- The attributes that keep a script in the page's scope. -/
  inlineAttributes : List Text
  /-- Files of declarations, seen from the folder of the settings. -/
  ambientDeclarations : List Text
  /-- The extensions of other frameworks' components. -/
  frameworks : List Text
  logLevel : Option Text
deriving DecidableEq, Repr

namespace Settings

def standard : Settings := ⟨[Block.inlineAttribute], [], [], none⟩

def fileName : Text := "astrols.toml".toList

/-- Where the settings of a folder stand. -/
def fileIn (folder : Path) : Path := folder.join (.ofText fileName)

/-- The one setting of a section, read by `read`; `some none` when it is not given. A section may
also be written as an array that holds its setting, and a date holds none. -/
def setting? {α : Type} (entries : List (Text × Toml.Value)) (sectionName name : String)
    (read : Toml.Value → Option α) : Option (Option α) :=
  match entries.lookup sectionName.toList with
  | none => some none
  | some .date => some none
  | some (.table inner) =>
    match inner.lookup name.toList with
    | none => some none
    | some value => (read value).map some
  | some (.array []) => some none
  | some (.array (value :: _)) => (read value).map some
  | some _ => none

/-- The settings in the entries of a document; what is not known is passed over. -/
def ofEntries? (entries : List (Text × Toml.Value)) : Option Settings := do
  let inlineAttributes ← setting? entries "compiler" "inline_attributes" Toml.Value.texts?
  let declarations ← setting? entries "typescript" "ambient_declarations" Toml.Value.texts?
  let frameworks ← setting? entries "frameworks" "enabled" Toml.Value.texts?
  let logLevel ← setting? entries "log" "level" Toml.Value.text?
  return {
    inlineAttributes := inlineAttributes.getD standard.inlineAttributes
    ambientDeclarations := declarations.getD standard.ambientDeclarations
    frameworks := frameworks.getD standard.frameworks
    logLevel := logLevel }

def parse? (text : Text) : Option Settings := (Toml.parse? text).bind ofEntries?

/-- The settings in a file. -/
def load (tree : FileTree) (path : Path) : Settings :=
  ((tree.read? path).bind parse?).getD standard

/-- The nearest of a folder and the folders around it that has a settings file; `fuel` bounds the
number of folders. -/
def searchUp (tree : FileTree) : Nat → Path → Option Path
  | 0, _ => none
  | fuel + 1, folder =>
    if tree.isFile (fileIn folder) then some folder
    else folder.parent?.bind (searchUp tree fuel)

/-- The first folder directly inside a folder, in the order of names, that has a settings file. -/
def searchDown (tree : FileTree) (folder : Path) : Option Path :=
  let names := (tree.childFolders folder).mergeSort
  (names.map fun name => folder.join ⟨name⟩).find? fun child => tree.isFile (fileIn child)

/-- The settings that hold in a folder, and the folder they were found in. -/
def discover (tree : FileTree) (folder : Path) : Settings × Path :=
  match (searchUp tree (folder.bytes.length + 1) folder).or (searchDown tree folder) with
  | some found => (load tree (fileIn found), found)
  | none => (standard, folder)

/-- The text of a file of declarations, ended by a newline. -/
def declarationsIn (tree : FileTree) (path : Path) : Text :=
  match tree.read? path with
  | none => []
  | some text => if text.getLast? == some '\n' then text else text ++ ['\n']

/-- All declarations that the settings name, files that cannot be read left out. -/
def declarations (settings : Settings) (tree : FileTree) (folder : Path) : Text :=
  settings.ambientDeclarations.flatMap fun path => declarationsIn tree (folder.join (.ofText path))

/-- The language that the settings describe. -/
def language (settings : Settings) (tree : FileTree) (folder : Path) : Language :=
  { (Language.ofInlineAttributes settings.inlineAttributes).withDeclarations
      (settings.declarations tree folder) with
    frameworks := .ofExtensions settings.frameworks }

end Settings

end ComponentServer
