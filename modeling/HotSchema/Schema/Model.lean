import HotSchema.Source.Unit
/-!
# Type models

A user-defined type is a header block followed by the blocks of its members in order. Its source unit is
the blocks' lines one below the other, with a span for every block that has a line, so that each
generated line points back at the header or at the member that it came from.
-/

namespace HotSchema

structure Member where
  kind : EntityKind
  id : String
  name : String
  source : String
  deriving DecidableEq

/-- A user-defined type under its qualified name. -/
structure TypeModel where
  name : String
  header : String
  members : List Member
  deriving DecidableEq

instance : Named TypeModel := ⟨TypeModel.name⟩

/-- A stretch of source text and the entity that it defines. -/
structure Block where
  entity : EntityRef
  source : String
  deriving DecidableEq

namespace Block

def lines (b : Block) : List (List Char) := Text.lines b.source.toList

/-- The span of the block's lines, none if it has no line. -/
def span? (b : Block) : Option SourceSpan :=
  if b.lines.isEmpty then none else some ⟨b.lines.length.toUInt32, some b.entity⟩

def text (b : Block) : List Char := b.lines.flatMap (· ++ ['\n'])

end Block

namespace TypeModel

def blocks (t : TypeModel) : List Block :=
  ⟨⟨.type, t.name, Text.shortName t.name, t.name⟩, t.header⟩
    :: t.members.map fun m => ⟨⟨m.kind, m.id, m.name, t.name⟩, m.source⟩

def generate (t : TypeModel) : Except SourceError SourceUnit :=
  SourceUnit.ofSpans t.name (String.ofList (t.blocks.flatMap Block.text)) (t.blocks.filterMap Block.span?)

end TypeModel

end HotSchema
