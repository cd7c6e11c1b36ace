import HotSchema.Diagnostic.Basic
import HotSchema.Source.Unit
/-!
# Located diagnostics

A token is a diagnostic together with the span that its line lies in and the entity that the span was
generated from. The entity is what a repair acts on; it is missing when the unit is not at hand, the
line lies outside it, or the span has none.
-/

namespace HotSchema

structure Token extends Diagnostic where
  spanIndex : Option Nat
  span : Option SourceSpan
  entity : Option EntityRef
  deriving DecidableEq

namespace Token

def correlate (d : Diagnostic) (unit : Option SourceUnit) : Token :=
  let located := unit.bind fun unit => locate unit.spans d.line
  { toDiagnostic := d
    spanIndex := located.map (·.1)
    span := located.map (·.2)
    entity := located.bind (·.2.entity) }

def display (t : Token) : String :=
  let entity := match t.entity with
    | none => ""
    | some e => s!" [{e.kind.word} `{e.name}` ({e.id})]"
  s!"{t.unit}:{t.line.toNat}: {t.severity.word}: {t.message}{entity}"

/-- The order in which tokens are healed: by unit, then by line. -/
def before (a b : Token) : Bool :=
  if a.unit = b.unit then a.line ≤ b.line else a.unit ≤ b.unit

end Token

end HotSchema
