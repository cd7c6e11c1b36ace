import HotSchema.Digest
import HotSchema.Roster
import HotSchema.Source.Entity
import HotSchema.Text.Split
/-!
# Source units

A source unit is the generated text of one type together with its spans. The spans divide the lines of
the text: they stand one after the other, each covers at least one line, and together they cover all.
A list of spans that stops short is completed by a span without an entity; one that covers too much, or
has an empty span, is refused.

The digest of a unit depends on its text alone, so two units with equal texts count as the same content
whatever their spans say.
-/

namespace HotSchema

/-- A run of lines generated from one entity, or from none. -/
structure SourceSpan where
  lines : UInt32
  entity : Option EntityRef
  deriving DecidableEq

def SourceSpan.anonymous (lines : UInt32) : SourceSpan := ⟨lines, none⟩

inductive SourceError where
  | emptySpan (unit : String) (index : Nat)
  | spanOverflow (unit : String) (declared : UInt64) (actual : UInt32)
  /-- The spans cover more lines than a word can count. -/
  | uncountable (unit : String)
  deriving DecidableEq

def SourceError.message : SourceError → String
  | emptySpan unit index => s!"unit `{unit}`: span {index} covers no lines"
  | spanOverflow unit declared actual =>
    s!"unit `{unit}`: spans cover {declared} lines but the text has {actual}"
  | uncountable _ => "attempt to add with overflow"

structure SourceUnit where
  name : String
  text : String
  spans : List SourceSpan
  deriving DecidableEq

instance : Named SourceUnit := ⟨SourceUnit.name⟩

/-- The lines of a span more, in a word of 64 bits, unless they do not fit. -/
def addLines? (sum : UInt64) (span : SourceSpan) : Option UInt64 :=
  let next := sum + span.lines.toUInt64
  if next < sum then none else some next

def declaredLines? (spans : List SourceSpan) : Option UInt64 := spans.foldlM addLines? 0

def lineCount (text : String) : UInt32 := (Text.lines text.toList).length.toUInt32

namespace SourceUnit

/-- The unit of a text whose first lines are divided by `spans`. -/
def ofSpans (name text : String) (spans : List SourceSpan) : Except SourceError SourceUnit :=
  match spans.findIdx? (·.lines == 0) with
  | some index => .error (.emptySpan name index)
  | none =>
    match declaredLines? spans with
    | none => .error (.uncountable name)
    | some declared =>
      let actual := lineCount text
      if actual.toUInt64 < declared then .error (.spanOverflow name declared actual)
      else if declared < actual.toUInt64 then
        .ok ⟨name, text, spans ++ [.anonymous (actual - declared.toUInt32)]⟩
      else .ok ⟨name, text, spans⟩

def digest (unit : SourceUnit) : UInt64 := Digest.ofText unit.text

def lineCount (unit : SourceUnit) : UInt32 := HotSchema.lineCount unit.text

end SourceUnit

/-- The first span whose end reaches `line`, given that the spans before index `index` cover `before`
lines. -/
def locateFrom (line : UInt64) (index : Nat) (before : UInt64) : List SourceSpan → Option (Nat × SourceSpan)
  | [] => none
  | span :: rest =>
    let reached := before + span.lines.toUInt64
    if line ≤ reached then some (index, span) else locateFrom line (index + 1) reached rest

/-- The span that a line lies in, with its index; lines are counted from one. -/
def locate (spans : List SourceSpan) (line : UInt32) : Option (Nat × SourceSpan) :=
  if line = 0 then none else locateFrom line.toUInt64 0 0 spans

end HotSchema
