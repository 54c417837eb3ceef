import ComponentServer.Path

/-!
Resolutions of imported modules, kept until a file changes that they may depend on.
-/

namespace ComponentServer

inductive Resolution where
  | resolved (path : Path)
  | notFound
deriving DecidableEq, Repr

/-- What a module name in a file resolves to. -/
structure CacheEntry where
  module : Text
  file : Path
  resolution : Resolution
deriving DecidableEq, Repr

/-- Resolutions by module name and by the names on the path of the file that imports it. -/
structure ResolutionCache where
  entries : List CacheEntry
deriving DecidableEq, Repr

namespace ResolutionCache

def empty : ResolutionCache := ⟨[]⟩

def isFor (entry : CacheEntry) (module : Text) (file : Path) : Bool :=
  entry.module == module && entry.file.same file

def find? (cache : ResolutionCache) (module : Text) (file : Path) : Option Resolution :=
  (cache.entries.find? (isFor · module file)).map (·.resolution)

def insert (cache : ResolutionCache) (module : Text) (file : Path) (resolution : Resolution) :
    ResolutionCache :=
  ⟨cache.entries.filter (!isFor · module file) ++ [⟨module, file, resolution⟩]⟩

/-- The known resolution, or the one that `resolve` gives, which is known from then on. -/
def findOrResolve (cache : ResolutionCache) (module : Text) (file : Path)
    (resolve : Unit → Resolution) : Resolution × ResolutionCache :=
  match cache.find? module file with
  | some resolution => (resolution, cache)
  | none =>
    let resolution := resolve ()
    (resolution, cache.insert module file resolution)

/-- Whether a change of `path` leaves an entry as it is: the entry is positive, and neither its file
nor its resolution is the path. -/
def survives (path : Path) (entry : CacheEntry) : Bool :=
  !entry.file.same path &&
    match entry.resolution with
    | .resolved resolved => !resolved.same path
    | .notFound => false

/-- Forgets what a change of `path` may affect, and tells how many entries that were. -/
def invalidate (cache : ResolutionCache) (path : Path) : Nat × ResolutionCache :=
  let kept := cache.entries.filter (survives path)
  (cache.entries.length - kept.length, ⟨kept⟩)

def size (cache : ResolutionCache) : Nat := cache.entries.length

end ResolutionCache

end ComponentServer
