/-
  GoAtlas.Machine.Description — machines written as JSON.

  A description lists the files, scripts (which are executable), directories and links to add to a
  bare disk. Names are taken relative to a place unless they are absolute. Contents are a text, or bytes
  in base sixteen under the key `hex`.
-/
import GoAtlas.Json.Basic
import GoAtlas.Machine.Basic

namespace GoAtlas

namespace Machine

def hexBytes : List Char → List UInt8
  | a :: b :: rest => ((Text.hexValue? a).getD 0 * 16 + (Text.hexValue? b).getD 0).toUInt8 :: hexBytes rest
  | _ => []

def contents : Json → Text.Bytes
  | .str s => Text.bytesOf s
  | j => ⟨(hexBytes (((j.get? "hex").bind Json.str?).getD "").toList).toArray⟩

/-- The place that a name has below `root`; an absolute name has its own. -/
def placeOf (root : Place) (name : String) : Place :=
  match (Path.ofText name).segments with
  | [] => root
  | first :: rest =>
    if first = Path.root then rest else root ++ (first :: rest).filter fun s => !Path.idle s

end Machine

namespace Disk

open Machine

def addFiles (d : Disk) (root : Place) (executable : Bool) : Option Json → Disk
  | some (.obj ms) =>
    ms.foldl (fun (d : Disk) m => d.add (placeOf root m.1) (.file (contents m.2) executable)) d
  | _ => d

def addDirs (d : Disk) (root : Place) : Option Json → Disk
  | some (.arr js) =>
    (js.filterMap Json.str?).foldl
      (fun (d : Disk) name => ((placeOf root name).above ++ [placeOf root name]).foldl ensureDir d) d
  | _ => d

def addLink (root : Place) (d : Disk) : Json → Disk
  | .arr [.str link, .str target] => d.add (placeOf root link) (.link target)
  | _ => d

def addLinks (d : Disk) (root : Place) : Option Json → Disk
  | some (.arr js) => js.foldl (addLink root) d
  | _ => d

/-- The disk with everything that a description lists. -/
def addDescribed (d : Disk) (root : Place) (j : Json) : Disk :=
  let d := (d.addFiles root false (j.get? "files")).addFiles root true (j.get? "scripts")
  (d.addDirs root (j.get? "dirs")).addLinks root (j.get? "symlinks")

end Disk

end GoAtlas
