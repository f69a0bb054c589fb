/-
  GoAtlas.Module.Manifest — the files that mark modules.

  A directory with a module file is a module root. Directories that predate modules are known by the
  manifests of older tools or by a vendor directory. A module file is written only where there is
  none, and removing takes the checksum file along.
-/
import GoAtlas.Files.Basic

namespace GoAtlas.Module

def moduleFile : String := "go.mod"

def sumFile : String := "go.sum"

def vendorDir : String := "vendor"

def legacyManifests : List String :=
  [ "GLOCKFILE", "Godeps/Godeps.json", "Gopkg.lock", "dependencies.tsv", "glide.lock", "vendor.conf", "vendor.yml",
    "vendor/manifest", "vendor/vendor.json" ]

variable {σ : Type} [FileSystem σ]

def hasModuleFile (s : σ) (dir : Path) : Bool := present s (dir.join moduleFile)

def hasLegacyManifest (s : σ) (dir : Path) : Bool := legacyManifests.any fun m => present s (dir.join m)

def hasVendorDir (s : σ) (dir : Path) : Bool := present s (dir.join vendorDir)

def directive (modulePath : String) : String := "module " ++ modulePath

/-- Writes the module file unless there is one; tells whether it was written. -/
def writeModuleFile (dir : Path) (modulePath : String) (s : σ) : Except Failure Bool × σ :=
  if hasModuleFile s dir then (.ok false, s)
  else
    match FileSystem.write (dir.join moduleFile) (Text.bytesOf (directive modulePath)) s with
    | (.ok _, s) => (.ok true, s)
    | (.error e, s) => (.error e, s)

/-- Removes the file if it is there; a failure changes nothing. -/
def removeIfPresent (file : Path) (s : σ) : σ := if present s file then (FileSystem.remove file s).2 else s

def removeModuleFiles (dir : Path) (s : σ) : σ :=
  removeIfPresent (dir.join sumFile) (removeIfPresent (dir.join moduleFile) s)

def cleanupFolders (dirs : List Path) (s : σ) : σ := dirs.foldl (fun s d => removeModuleFiles d s) s

end GoAtlas.Module
