import HotSchema.Engine.Run
/-!
# Reports of a run

The result of a run as lines of text, and as JSON with the members in a fixed order.
-/

namespace HotSchema

def EntityRef.toJson (e : EntityRef) : Json :=
  .obj [("kind", .str e.kind.word), ("id", .str e.id), ("name", .str e.name), ("owner", .str e.owner)]

def SourceSpan.toJson (s : SourceSpan) : Json :=
  .obj [("lines", .num s.lines.toNat), ("entity", .ofOption EntityRef.toJson s.entity)]

def Token.toJson (t : Token) : Json :=
  .obj [("severity", .str t.severity.word), ("unit", .str t.unit), ("line", .num t.line.toNat),
    ("message", .str t.message), ("class", .ofOption (fun c => .str c.word) t.failure),
    ("span_index", .ofOption .num t.spanIndex), ("span", .ofOption SourceSpan.toJson t.span),
    ("entity", .ofOption EntityRef.toJson t.entity)]

def Repair.toJson (r : Repair) : Json :=
  .obj [("handler", .str r.handler), ("action", .str r.action.word), ("kind", .str r.kind.word),
    ("target", .str r.target), ("name", .str r.name), ("unit", .str r.unit),
    ("line", .num r.line.toNat)]

def Repair.display (r : Repair) : String :=
  s!"{r.unit}:{r.line.toNat}: {r.handler} {r.action.word} {r.kind.word} `{r.name}` ({r.target})"

namespace HealReport

def toJson (r : HealReport) : Json :=
  .obj [("success", .bool r.success), ("cycles", .num r.cycles), ("generation", .num r.generation),
    ("loaded_types", .strings r.loaded), ("retired_types", .strings r.retired),
    ("diagnostics", .arr (r.diagnostics.map Token.toJson)),
    ("repairs", .arr (r.repairs.map Repair.toJson)), ("exhausted", .bool r.exhausted)]

def verdict (r : HealReport) : String :=
  if r.success then
    s!"ok: generation {r.generation} after {r.cycles} cycle(s), {r.repairs.length} repair(s)"
  else if r.exhausted then s!"failed: heal cycle bound reached after {r.cycles} cycle(s)"
  else s!"failed: {r.diagnostics.length} unrecoverable diagnostic(s)"

/-- Repairs, diagnostics, and what was retired and loaded, one a line, then the verdict. -/
def lines (r : HealReport) : List String :=
  r.repairs.map (fun x => "repair  " ++ x.display) ++ r.diagnostics.map (fun t => "diag    " ++ t.display)
    ++ r.retired.map (fun name => "retired " ++ name) ++ r.loaded.map (fun name => "loaded  " ++ name)
    ++ [r.verdict]

end HealReport

end HotSchema
