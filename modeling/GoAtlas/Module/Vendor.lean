/-
  GoAtlas.Module.Vendor — folders whose dependencies are not downloaded.

  A folder is registered because it has a vendor directory and no manifest, or because a download for
  it failed. Entries are compared as paths and may repeat; removing one moves the last into its slot.
-/
import GoAtlas.Module.Manifest

namespace GoAtlas.Module

structure Registry where
  folders : List Path
  deriving DecidableEq, Repr

namespace Registry

def empty : Registry := ⟨[]⟩

def mark (r : Registry) (folder : Path) : Registry := ⟨r.folders ++ [folder]⟩

def contains (r : Registry) (folder : Path) : Bool := r.folders.any fun f => f.same folder

def index? (r : Registry) (folder : Path) : Option Nat := r.folders.findIdx? fun f => f.same folder

/-- The index of the folder if it is registered, or can be: it has a vendor entry, no module file and
    no old manifest. -/
def checkOrRegister {σ : Type} [FileSystem σ] (r : Registry) (s : σ) (folder : Path) : Option Nat × Registry :=
  match r.index? folder with
  | some i => (some i, r)
  | none =>
    if hasModuleFile s folder || hasLegacyManifest s folder then (none, r)
    else if hasVendorDir s folder then (some r.folders.length, r.mark folder)
    else (none, r)

/-- Takes the entry out; the last one takes its slot. -/
def remove (r : Registry) (index : Nat) : Registry :=
  match r.folders.getLast? with
  | some last => if index < r.folders.length then ⟨(r.folders.set index last).dropLast⟩ else r
  | none => r

end Registry

end GoAtlas.Module
