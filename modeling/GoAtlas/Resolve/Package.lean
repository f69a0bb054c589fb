/-
  GoAtlas.Resolve.Package — locators of packages.

  A package of the workspace or the standard library is known by its import path alone. Any other has
  its repository's address, where one is found, and the version its file's path shows.
-/
import GoAtlas.GoEnv
import GoAtlas.Repository.Root
import GoAtlas.Symbol.Locator
import GoAtlas.Version

namespace GoAtlas

/-- What locating a package depends on. -/
structure PackageResolver where
  env : GoEnv
  lookup : Repository.Lookup

/-- The locator of the package whose declaration stands in `file`. -/
def PackageResolver.locate (r : PackageResolver) (package : Option Package) (workspaceRoot file : Path) :
    PackageLocator :=
  match package with
  | none => .empty
  | some p =>
    if file.isInside workspaceRoot || r.env.isStdlib file then ⟨p.name, p.path, ""⟩
    else
      let version := (Version.resolve? r.env.modCache file).getD ""
      match Repository.root r.lookup p.path with
      | .ok repo => ⟨p.name, repo, version⟩
      | .error _ => ⟨p.name, p.path, version⟩

end GoAtlas
