import ComponentServer.Language

/-!
Snapshots: all that is derived from one version of a document.
-/

namespace ComponentServer

open Markup

structure Snapshot where
  fileName : Text
  /-- Counts the derivations of the document. -/
  version : Nat
  /-- The version that the editor gave, which goes back to it with the diagnostics. -/
  clientVersion : Int
  language : LanguageKind
  text : Text
  frontmatter : Frontmatter
  tree : Tree
  blocks : List Block
  generated : Generated

namespace Snapshot

def derive (fileName text : Text) (version : Nat) (clientVersion : Int) (language : Language) :
    Snapshot :=
  let kind := language.kindOf fileName
  let framework :=
    match kind with
    | .framework extension => language.generateFramework? text fileName extension version
    | .component => none
  match framework with
  | some generated =>
    { fileName, version, clientVersion, language := kind, text
      frontmatter := .absent
      tree := Tree.parse text text.size
      blocks := []
      generated }
  | none =>
    let parts := Tsx.Parts.of text
    { fileName, version, clientVersion, language := kind, text
      frontmatter := parts.frontmatter
      tree := parts.tree
      blocks := parts.blocks
      generated := language.generate text parts.blocks fileName version }

def primary (snapshot : Snapshot) : VirtualFile := snapshot.generated.primary

/-- The virtual file that serves an offset, with the offset in it. Files of single blocks go before
the file of the whole document. -/
def locate? (snapshot : Snapshot) (offset : Nat) (capability : Capability) :
    Option (VirtualFile × Nat) :=
  let generated := snapshot.generated
  (generated.satellites ++ generated.styles ++ [generated.primary]).findSome? fun file =>
    (file.mapping.toGenerated? (some capability) offset).map fun place => (file, place)

def virtualFile? (snapshot : Snapshot) (name : Text) : Option VirtualFile :=
  snapshot.generated.files.find? (·.name = name)

def blockAt? (snapshot : Snapshot) (offset : Nat) : Option Block :=
  snapshot.blocks.find? (·.contains offset)

/-- Whether tags can be completed at an offset: not in the frontmatter, not in a block, and not in
the opening tag of a component. -/
def allowsMarkup (snapshot : Snapshot) (offset : Nat) : Bool :=
  snapshot.language == .component && !snapshot.frontmatter.contains offset &&
    (snapshot.blockAt? offset).isNone &&
    !((snapshot.tree.elementAt? offset).any fun element =>
      element.isComponent && element.inStartTag offset)

end Snapshot

end ComponentServer
