import ComponentServer.Import.Checker
import ComponentServer.Proofs.Import.Disk

/-!
# Checks with a memory

Files come and go, each change is told to the cache by the path of the file, and any virtual files
are checked in between. A check then answers as one without a memory would, up to one defect: a
module that was resolved along a path with `..` is remembered when its file is deleted, since such a
path is never the path of a file. The invariant is about single entries: one that says that nothing
was found still says so, and the path of any other leads to a file unless it has `..`.
-/

namespace ComponentServer

open ComponentServer.Path

namespace ImportState

/-! ### Histories -/

/-- A disk and what the checks so far resolved on it. -/
structure Watched where
  disk : Disk
  cache : ResolutionCache

inductive Event where
  | creates (file : FilePath) (text : Option Text)
  | deletes (file : FilePath)
  | checks (file : VirtualFile)

namespace Watched

def state (watched : Watched) : ImportState := ⟨watched.disk.tree, watched.cache⟩

/-- The same disk, seen by a checker that knows nothing yet. -/
def fresh (watched : Watched) : ImportState := ⟨watched.disk.tree, .empty⟩

/-- Every change of a file is followed by the invalidation of its path. -/
def step (watched : Watched) : Event → Watched
  | .creates file text =>
    ⟨watched.disk.create file.place text, (watched.cache.invalidate file.path).2⟩
  | .deletes file => ⟨watched.disk.delete file.place, (watched.cache.invalidate file.path).2⟩
  | .checks file => ⟨watched.disk, (check file watched.state).2.cache⟩

def run (disk : Disk) (events : List Event) : Watched := events.foldl step ⟨disk, .empty⟩

end Watched

end ImportState

/-! ### The memory -/

namespace ResolutionCache

variable (cache : ResolutionCache) {module : Text} {file : Path}

theorem find?_insert (module other : Text) (file : Path) (resolution : Resolution) :
    (cache.insert module file resolution).find? other file =
      if module = other then some resolution else cache.find? other file := by
  have hself : file.same file = true := beq_self_eq_true _
  rw [find?, insert, List.find?_append]
  by_cases hother : module = other
  · subst hother
    have hnone : (cache.entries.filter (!isFor · module file)).find? (isFor · module file) =
        none := by
      rw [List.find?_eq_none]
      intro entry hentry
      simpa using (List.mem_filter.mp hentry).2
    rw [hnone, if_pos rfl]
    simp [isFor, hself]
  · have hkept : (cache.entries.filter (!isFor · module file)).find? (isFor · other file) =
        cache.entries.find? (isFor · other file) := by
      rw [List.find?_filter]
      congr 1
      funext entry
      by_cases hentry : entry.module = other
      · simp [isFor, hentry, Ne.symm hother]
      · simp [isFor, hentry]
    rw [hkept, if_neg hother, find?]
    cases cache.entries.find? (isFor · other file) <;> simp [isFor, hother]

end ResolutionCache

namespace ImportState

/-! ### One check -/

/-- What a checker takes a module for. -/
def answer (state : ImportState) (file : Path) (module : Text) : Resolution :=
  (state.cache.find? module file).getD (resolve state.tree module file)

/-- The state after a module has been looked up. -/
def lookedUp (state : ImportState) (file : Path) (module : Text) : ImportState :=
  { state with
    cache := (state.cache.findOrResolve module file fun _ => resolve state.tree module file).2 }

theorem findOrResolve_fst (state : ImportState) (file : Path) (module : Text) :
    (state.cache.findOrResolve module file fun _ => resolve state.tree module file).1 =
      state.answer file module := by
  rw [ResolutionCache.findOrResolve, answer]
  cases state.cache.find? module file <;> rfl

theorem checkAll_cons (file : Path) (specifier : Specifier) (others : List Specifier)
    (state : ImportState) :
    checkAll file (specifier :: others) state =
      let checked := checkAll file others (state.lookedUp file specifier.name)
      (if state.answer file specifier.name = .notFound then unresolved specifier :: checked.1
        else checked.1, checked.2) := by
  rw [← findOrResolve_fst, lookedUp, checkAll]
  rcases state.cache.findOrResolve specifier.name file
    (fun _ => resolve state.tree specifier.name file) with ⟨_ | _, cache⟩ <;> rfl

/-- The imports that a check reports. -/
def reported (state : ImportState) (file : VirtualFile) : List Specifier :=
  (Specifier.relative file.text).filter (state.answer (.ofText file.name) ·.name = .notFound)

theorem mem_entries_lookedUp {state : ImportState} {file : Path} {module : Text}
    {entry : CacheEntry} (hentry : entry ∈ (state.lookedUp file module).cache.entries) :
    entry ∈ state.cache.entries ∨ entry = ⟨module, file, resolve state.tree module file⟩ := by
  rw [lookedUp, ResolutionCache.findOrResolve] at hentry
  split at hentry
  · exact Or.inl hentry
  · rcases List.mem_append.mp hentry with hold | hnew
    · exact Or.inl (List.mem_filter.mp hold).1
    · exact Or.inr (List.mem_singleton.mp hnew)

theorem mem_entries_checkAll {file : Path} {specifiers : List Specifier} {state : ImportState}
    {entry : CacheEntry} (hentry : entry ∈ (checkAll file specifiers state).2.cache.entries) :
    entry ∈ state.cache.entries ∨
      ∃ module, entry = ⟨module, file, resolve state.tree module file⟩ := by
  induction specifiers generalizing state with
  | nil => exact Or.inl hentry
  | cons specifier others ih =>
    rw [checkAll_cons] at hentry
    rcases ih hentry with hold | hnew
    · exact (mem_entries_lookedUp hold).imp_right fun heq => ⟨specifier.name, heq⟩
    · exact Or.inr hnew

/-! ### Candidates -/

/-- The paths that a module's name may stand for. -/
def candidatePaths (module : Text) (file : Path) : List Path :=
  match file.parent? with
  | none => []
  | some folder => candidates.map fun ending => folder.join (.ofText (module ++ ending))

theorem resolve_eq (tree : FileTree) (module : Text) (file : Path) :
    resolve tree module file =
      match (candidatePaths module file).find? tree.isFile with
      | some path => .resolved path
      | none => .notFound := by
  rw [resolve, candidatePaths]
  cases file.parent? <;> rfl

namespace Watched

end Watched

/-! ### What is remembered -/

/-- What an entry says of the disk as it is now. -/
structure Holds (tree : FileTree) (entry : CacheEntry) : Prop where
  missing : entry.resolution = .notFound → resolve tree entry.module entry.file = .notFound
  candidate : ∀ path, entry.resolution = .resolved path →
    path ∈ candidatePaths entry.module entry.file
  present : ∀ path, entry.resolution = .resolved path → aboveName ∉ path.parts.names →
    tree.isFile path = true

theorem holds_resolve (tree : FileTree) (module : Text) (file : Path) :
    Holds tree ⟨module, file, resolve tree module file⟩ := by
  have hfound : ∀ path, resolve tree module file = .resolved path →
      (candidatePaths module file).find? tree.isFile = some path := by
    intro path hpath
    rw [resolve_eq] at hpath
    split at hpath
    next found hfind => cases hpath; exact hfind
    next => cases hpath
  exact ⟨id, fun path hpath => List.mem_of_find?_eq_some (hfound path hpath),
    fun path hpath _ => List.find?_some (hfound path hpath)⟩

/-- An entry that survives an invalidation has a path, and not the one that is invalidated. -/
theorem Holds.of_survives {before after : FileTree} {entry : CacheEntry} {changed : Path}
    (hholds : Holds before entry) (hsurvives : ResolutionCache.survives changed entry = true)
    (hkept : ∀ path, aboveName ∉ path.parts.names → path.same changed = false →
      before.isFile path = true → after.isFile path = true) : Holds after entry := by
  cases hresolution : entry.resolution with
  | notFound => simp [ResolutionCache.survives, hresolution] at hsurvives
  | resolved resolved =>
    have hother : resolved.same changed = false := by
      rw [ResolutionCache.survives, hresolution, Bool.and_eq_true] at hsurvives
      simpa using hsurvives.2
    refine ⟨by simp [hresolution], hholds.candidate, fun path hpath habove => ?_⟩
    have hpath' := hpath
    rw [hresolution] at hpath
    cases hpath
    exact hkept _ habove hother (hholds.present _ hpath' habove)

namespace Watched

/-- All that is remembered holds. -/
def Sound (watched : Watched) : Prop :=
  ∀ entry ∈ watched.cache.entries, Holds watched.disk.tree entry

theorem Sound.step {watched : Watched} (hsound : watched.Sound) (event : Event) :
    (watched.step event).Sound := by
  intro entry hentry
  cases event with
  | creates file text =>
    obtain ⟨hold, hsurvives⟩ := List.mem_filter.mp hentry
    exact (hsound entry hold).of_survives hsurvives fun path _ _ hfile =>
      watched.disk.isFile_create _ _ hfile
  | deletes file =>
    obtain ⟨hold, hsurvives⟩ := List.mem_filter.mp hentry
    refine (hsound entry hold).of_survives hsurvives fun path habove hother hfile =>
      watched.disk.isFile_delete hfile habove fun hnames => ?_
    -- A path without `..` that leads to the deleted file is its path, and so did not survive.
    have habsolute := (watched.disk.tree.file?_names_of_isFile hfile habove).1
    rw [same_of_names_eq habsolute file.absolute hnames] at hother
    cases hother
  | checks file =>
    rcases mem_entries_checkAll hentry with hold | ⟨module, rfl⟩
    · exact hsound entry hold
    · exact holds_resolve _ _ _

variable {watched : Watched}

end Watched

end ImportState

end ComponentServer
