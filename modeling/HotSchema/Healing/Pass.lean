import HotSchema.Healing.Handler
/-!
# Healing passes

A healing pass visits the tokens of a failed compile in the order of their units and lines. For each it
tries the handlers in their order until one makes a repair. A repair may delete the entity that a later
token points at; the later token then finds nothing to repair.
-/

namespace HotSchema

abbrev Pipeline := List Handler

namespace Pipeline

/-- Listed methods first, then imports, duplicates, clashes and unknown symbols, each with the pattern of its
class. -/
def standard (legacy : LegacySignatures) : Pipeline :=
  [.legacySignature legacy, .unresolvedImport FailureClass.unresolvedImport.pattern,
    .duplicateDefinition FailureClass.duplicateDefinition.pattern,
    .baseSignatureClash FailureClass.signatureClash.pattern, .unknownSymbol FailureClass.unknownSymbol.pattern]

/-- The first repair that one of the handlers makes for a token. -/
def healToken (t : Token) : Pipeline → Schema → Option Repair × Schema
  | [], s => (none, s)
  | h :: rest, s =>
    match h.apply t s with
    | (some repair, s) => (some repair, s)
    | (none, s) => healToken t rest s

def healInOrder (p : Pipeline) : List Token → Schema → List Repair × Schema
  | [], s => ([], s)
  | t :: rest, s =>
    let (repair, s) := healToken t p s
    let (repairs, s) := healInOrder p rest s
    (repair.toList ++ repairs, s)

def heal (p : Pipeline) (tokens : List Token) (s : Schema) : List Repair × Schema :=
  p.healInOrder (tokens.mergeSort Token.before) s

end Pipeline

end HotSchema
