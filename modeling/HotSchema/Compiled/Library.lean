import HotSchema.Registry.Snapshot
import HotSchema.Text.Octets
/-!
# The library of compiled units

Compiled units are kept under their qualified names. Putting a unit supersedes the one that had its
name. The units under a namespace are those whose names begin with it and a dot; they are listed in
order of their names, and the empty namespace holds all.
-/

namespace HotSchema

structure CompiledUnit where
  name : String
  payload : ByteArray
  deriving DecidableEq

instance : Named CompiledUnit := ⟨CompiledUnit.name⟩

def CompiledUnit.ofText (name text : String) : CompiledUnit := ⟨name, text.toUTF8⟩

abbrev Library := Roster CompiledUnit

namespace Library

def inNamespace (name scope : String) : Bool :=
  scope.isEmpty || (scope.toList ++ ['.']).isPrefixOf name.toList

def listUnder (l : Library) (scope : String) : List CompiledUnit :=
  (l.toList.filter fun unit => inNamespace unit.name scope).mergeSort fun a b => a.name ≤ b.name

end Library

end HotSchema
