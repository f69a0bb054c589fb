/-
  GoAtlas.Text.Octets — names as the system keeps them.

  The system names files and directories by octets, and any octets will do. A text stands for those of its
  encoding. What is printed of a name, and what a listing says, is its lossy reading (`shown`), in which
  names that are no text can look alike, or like a name that is there as well.
-/
import GoAtlas.Text.Utf8

namespace GoAtlas

abbrev Octets := List UInt8

namespace Octets

def ofText (s : String) : Octets := (Text.bytesOf s).data.toList

instance : Coe String Octets := ⟨ofText⟩

def shown (o : Octets) : String := String.ofList (Text.lossyFrom .none o)

/-- The octets are those of a text. -/
def IsText (o : Octets) : Prop := ofText o.shown = o

instance (o : Octets) : Decidable o.IsText := inferInstanceAs (Decidable (_ = _))

def slash : UInt8 := 0x2F

def dot : UInt8 := 0x2E

/-- Octets with a NUL are no name and no argument. -/
def hasNul (o : Octets) : Bool := o.contains 0

end Octets

end GoAtlas
