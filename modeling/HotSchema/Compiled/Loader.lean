import HotSchema.Compiled.Library
/-!
# Loading types

A name resolves to the compiled unit of that name, and to a type of the host program only if there is
none: dynamic units shadow host types. A type remembers which of the two it came from.
-/

namespace HotSchema

inductive TypeOrigin where
  /-- Compiled at run time from a generated unit. -/
  | dynamic
  | host
  deriving DecidableEq

structure LoadedType where
  name : String
  unit : CompiledUnit
  origin : TypeOrigin
  deriving DecidableEq

instance : Named LoadedType := ⟨LoadedType.name⟩

/-- How the host program resolves a name. Nothing is known of it; the unit it answers with may even
have another name. -/
structure HostResolver where
  resolve : String → Option CompiledUnit

/-- The types of a host program, if there is one. -/
abbrev HostTypes := Option (List CompiledUnit)

def HostTypes.resolver (host : HostTypes) : HostResolver :=
  ⟨fun name => host.bind fun types => types.find? (·.name == name)⟩

instance : Coe HostTypes HostResolver := ⟨HostTypes.resolver⟩

/-- Resolves a name in the library, then in the host program. -/
def Library.load (l : Library) (host : HostResolver) (name : String) : Option LoadedType :=
  match l.find? name with
  | some unit => some ⟨unit.name, unit, .dynamic⟩
  | none => (host.resolve name).map fun unit => ⟨name, unit, .host⟩

def Library.describe (l : Library) (host : HostTypes) : String :=
  s!"UnitLoader \x7b units: {l.size}, host: {host.isSome} \x7d"

end HotSchema
