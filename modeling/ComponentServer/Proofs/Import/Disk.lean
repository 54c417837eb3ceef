import ComponentServer.Proofs.Import.Paths

/-!
# Files that come and go

A disk is a file tree in which nothing lies below a file. Creating or deleting one file keeps it so,
and changes what a path without `..` leads to only if the path is that of the file.
-/

namespace ComponentServer

open ComponentServer.Path

namespace FileTree

structure LeafFiles (tree : FileTree) : Prop where
  notFolder : ∀ {place folder}, (tree.file? place).isSome → tree.isFolder folder = true →
    ¬ place <+: folder
  notFile : ∀ {place other}, (tree.file? place).isSome → (tree.file? other).isSome →
    place <+: other → place = other

/-- Whether a file can be put in a place: no folder and no other file is there, and no file above
or below it. -/
def Admits (tree : FileTree) (place : Place) : Prop :=
  place ≠ [] ∧ (∀ folder ∈ tree.folders, ¬ place <+: folder) ∧
    ∀ file ∈ tree.files, file.1 <+: place ∨ place <+: file.1 → file.1 = place

instance (tree : FileTree) (place : Place) : Decidable (tree.Admits place) :=
  inferInstanceAs (Decidable (_ ∧ _ ∧ _))

variable {tree : FileTree} {place : Place} {text : Option Text}

theorem isSome_file?_iff : (tree.file? place).isSome ↔ ∃ file ∈ tree.files, file.1 = place := by
  simp [file?, Option.isSome_map, List.find?_isSome]

theorem isFolder_iff {folder : Place} :
    tree.isFolder folder = true ↔ folder = [] ∨ folder ∈ tree.folders := by
  simp [isFolder]

theorem isSome_file?_write {other : Place} :
    ((tree.write place text).file? other).isSome ↔ place = other ∨ (tree.file? other).isSome := by
  rw [isSome_file?_iff, isSome_file?_iff]
  constructor
  · rintro ⟨file, hfile, rfl⟩
    rcases List.mem_append.mp hfile with hfile | hfile
    · exact Or.inr ⟨file, (List.mem_filter.mp hfile).1, rfl⟩
    · rw [List.mem_singleton.mp hfile]
      exact Or.inl rfl
  · intro hother
    by_cases hplace : place = other
    · exact ⟨(place, text), List.mem_append_right _ (List.mem_singleton_self _), hplace⟩
    · obtain ⟨file, hfile, rfl⟩ := hother.resolve_left hplace
      exact ⟨file, List.mem_append_left _ (List.mem_filter.mpr
        ⟨hfile, bne_iff_ne.mpr (Ne.symm hplace)⟩), rfl⟩

theorem isFolder_write {folder : Place} (hfolder : tree.isFolder folder = true) :
    (tree.write place text).isFolder folder = true := by
  rw [isFolder_iff] at hfolder ⊢
  exact hfolder.imp_right (List.mem_append_left _)

theorem isFolder_or_prefix_of_write {folder : Place}
    (hfolder : (tree.write place text).isFolder folder = true) :
    tree.isFolder folder = true ∨ folder <+: place.dropLast := by
  rw [isFolder_iff] at hfolder ⊢
  rcases hfolder with hroot | hfolder
  · exact Or.inl (Or.inl hroot)
  · rcases List.mem_append.mp hfolder with hold | hnew
    · exact Or.inl (Or.inr hold)
    · obtain ⟨n, -, rfl⟩ := List.mem_map.mp (List.mem_filter.mp hnew).1
      exact Or.inr (List.take_prefix _ _)

theorem isSome_file?_delete {other : Place} :
    ((tree.delete place).file? other).isSome ↔ (tree.file? other).isSome ∧ ¬ place <+: other := by
  simp only [isSome_file?_iff, delete, List.mem_filter, Bool.not_eq_true', ← Bool.not_eq_true,
    List.isPrefixOf_iff_prefix]
  constructor
  · rintro ⟨file, ⟨hfile, hplace⟩, rfl⟩
    exact ⟨⟨file, hfile, rfl⟩, hplace⟩
  · rintro ⟨⟨file, hfile, rfl⟩, hplace⟩
    exact ⟨file, ⟨hfile, hplace⟩, rfl⟩

theorem isFolder_delete_iff {folder : Place} :
    (tree.delete place).isFolder folder = true ↔
      folder = [] ∨ folder ∈ tree.folders ∧ ¬ place <+: folder := by
  simp [isFolder_iff, delete, ← List.isPrefixOf_iff_prefix]

theorem isFolder_of_delete {folder : Place}
    (hfolder : (tree.delete place).isFolder folder = true) : tree.isFolder folder = true := by
  rw [isFolder_delete_iff] at hfolder
  exact isFolder_iff.mpr (hfolder.imp_right And.left)

theorem LeafFiles.write (hleaf : tree.LeafFiles) (hadmits : tree.Admits place) :
    (tree.write place text).LeafFiles where
  notFolder {file folder} hfile hfolder hunder := by
    obtain ⟨hroot, hfolders, hfiles⟩ := hadmits
    rcases isFolder_or_prefix_of_write hfolder with hfolder | habove
    · rcases isSome_file?_write.mp hfile with rfl | hfile
      · rcases isFolder_iff.mp hfolder with rfl | hfolder
        · exact hroot (List.prefix_nil.mp hunder)
        · exact hfolders folder hfolder hunder
      · exact hleaf.notFolder hfile hfolder hunder
    · -- A folder made for the new file is shorter than its place, and so is what lies above it.
      have hshort := (hunder.trans habove).length_le
      have hpositive := List.length_pos_iff.mpr hroot
      have hlong : place.length ≤ file.length := by
        rcases isSome_file?_write.mp hfile with rfl | hfile
        · exact le_rfl
        · obtain ⟨old, hold, rfl⟩ := isSome_file?_iff.mp hfile
          rw [hfiles old hold (Or.inl ((hunder.trans habove).trans (List.dropLast_prefix _)))]
      rw [List.length_dropLast] at hshort
      omega
  notFile {file other} hfile hother hunder := by
    obtain ⟨-, -, hfiles⟩ := hadmits
    rcases isSome_file?_write.mp hfile with rfl | hfile <;>
      rcases isSome_file?_write.mp hother with rfl | hother
    · rfl
    · obtain ⟨old, hold, rfl⟩ := isSome_file?_iff.mp hother
      exact (hfiles old hold (Or.inr hunder)).symm
    · obtain ⟨old, hold, rfl⟩ := isSome_file?_iff.mp hfile
      exact hfiles old hold (Or.inl hunder)
    · exact hleaf.notFile hfile hother hunder

theorem LeafFiles.delete (hleaf : tree.LeafFiles) : (tree.delete place).LeafFiles where
  notFolder hfile hfolder :=
    hleaf.notFolder (isSome_file?_delete.mp hfile).1 (isFolder_of_delete hfolder)
  notFile hfile hother :=
    hleaf.notFile (isSome_file?_delete.mp hfile).1 (isSome_file?_delete.mp hother).1

theorem isFile_iff {path : Path} :
    tree.isFile path = true ↔
      ∃ target, tree.locate? path = some target ∧ (tree.file? target).isSome := by
  rw [isFile, Option.isSome_bind]
  cases tree.locate? path <;> simp

theorem locate?_mono {other : FileTree} {path : Path} {target : Place}
    (hfolders : ∀ folder, tree.isFolder folder = true → other.isFolder folder = true)
    (htarget : tree.locate? path = some target) : other.locate? path = some target := by
  rw [locate?] at htarget ⊢
  split at htarget
  next habsolute =>
    rw [if_pos habsolute]
    exact follow?_mono hfolders htarget
  next => cases htarget

end FileTree

/-! ### Disks -/

structure Disk where
  tree : FileTree
  leaves : tree.LeafFiles

/-- The path of a file itself, which has no `..`. -/
structure FilePath where
  path : Path
  absolute : path.isAbsolute = true
  direct : aboveName ∉ path.parts.names

def FilePath.place (file : FilePath) : Place := file.path.parts.names

namespace Disk

/-- The root alone. -/
def empty : Disk where
  tree := .empty
  leaves := ⟨fun hfile => (by cases hfile), fun hfile => (by cases hfile)⟩

/-- Puts a file in a place that admits it. -/
def create (disk : Disk) (place : Place) (text : Option Text) : Disk :=
  if hadmits : disk.tree.Admits place then
    ⟨disk.tree.write place text, disk.leaves.write hadmits⟩
  else disk

/-- Deletes the file in a place, if there is one. -/
def delete (disk : Disk) (place : Place) : Disk :=
  if (disk.tree.file? place).isSome then ⟨disk.tree.delete place, disk.leaves.delete⟩ else disk

variable (disk : Disk) {path : Path}

theorem isFile_create (place : Place) (text : Option Text) (hfile : disk.tree.isFile path = true) :
    (disk.create place text).tree.isFile path = true := by
  rw [create]
  split
  next hadmits =>
    obtain ⟨target, hlocate, htarget⟩ := FileTree.isFile_iff.mp hfile
    exact FileTree.isFile_iff.mpr ⟨target,
      FileTree.locate?_mono (fun _ => FileTree.isFolder_write) hlocate,
      FileTree.isSome_file?_write.mpr (Or.inr htarget)⟩
  next => exact hfile

/-- A path without `..` leads to its file until that is deleted. -/
theorem isFile_delete {place : Place} (hfile : disk.tree.isFile path = true)
    (hdirect : aboveName ∉ path.parts.names) (hother : path.parts.names ≠ place) :
    (disk.delete place).tree.isFile path = true := by
  rw [delete]
  split
  next hdeleted =>
    obtain ⟨-, hlocate, htarget⟩ := disk.tree.file?_names_of_isFile hfile hdirect
    have hfolders : ∀ folder, disk.tree.isFolder folder = true →
        (disk.tree.delete place).isFolder folder = true := by
      intro folder hfolder
      have hplace := disk.leaves.notFolder hdeleted hfolder
      exact FileTree.isFolder_delete_iff.mpr
        ((FileTree.isFolder_iff.mp hfolder).imp_right fun hmem => ⟨hmem, hplace⟩)
    have hplace : ¬ place <+: path.parts.names := fun hunder =>
      hother (disk.leaves.notFile hdeleted htarget hunder).symm
    exact FileTree.isFile_iff.mpr ⟨path.parts.names, FileTree.locate?_mono hfolders hlocate,
      FileTree.isSome_file?_delete.mpr ⟨htarget, hplace⟩⟩
  next => exact hfile

end Disk

end ComponentServer
