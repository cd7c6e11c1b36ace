import HotSchema.Healing.Legacy
import HotSchema.Healing.MessagePattern
import HotSchema.Schema.Transaction
/-!
# Handlers

A handler recognizes one kind of failure, by the pattern that it is given, and knows one repair for it: to
delete the entity that the failure comes from, or to blacklist the type. Which entity that is follows from
the token alone: the located entity if it is of a kind that the handler deletes, else the one that the
message names, within the type that the token's unit was generated for.

A repair is a single transaction. Where the entity is gone already, or the transaction fails, nothing
was repaired, and the failure counts as unhandled.
-/

namespace HotSchema

inductive RepairAction where
  | deleted
  | blacklisted
  deriving DecidableEq

def RepairAction.word : RepairAction → String
  | deleted => "deleted"
  | blacklisted => "blacklisted"

structure Repair where
  handler : String
  action : RepairAction
  kind : EntityKind
  /-- The identifier of the entity; for a blacklisted type its qualified name. -/
  target : String
  name : String
  unit : String
  line : UInt32
  deriving DecidableEq

inductive Handler where
  | legacySignature (legacy : LegacySignatures)
  /-- Deletes the import that does not resolve, or blacklists the type. -/
  | unresolvedImport (pattern : MessagePattern)
  /-- Deletes the second definition of a property or method. -/
  | duplicateDefinition (pattern : MessagePattern)
  | baseSignatureClash (pattern : MessagePattern)
  | unknownSymbol (pattern : MessagePattern)

/-- What a handler intends to do: to delete the first entity of one of the kinds that goes by a key, or
to blacklist a type. -/
inductive Plan where
  | delete (kinds : List EntityKind) (key : EntityKey)
  | blacklist (name : String)
  deriving DecidableEq

namespace Handler

def label : Handler → String
  | legacySignature _ => "legacy-signature"
  | unresolvedImport _ => "unresolved-import"
  | duplicateDefinition _ => "duplicate-definition"
  | baseSignatureClash _ => "base-signature-clash"
  | unknownSymbol _ => "unknown-symbol"

def pattern? : Handler → Option MessagePattern
  | legacySignature _ => none
  | unresolvedImport pattern | duplicateDefinition pattern | baseSignatureClash pattern | unknownSymbol pattern =>
    some pattern

def deleteNamed (t : Token) (name : String) (kinds : List EntityKind) : Plan :=
  .delete kinds (.byName (some t.unit) name)

/-- Deletes the located entity if it is of one of the kinds, else what the message names. -/
def deleteLocated (t : Token) (kinds : List EntityKind) (r : Recognition) : Option Plan :=
  match t.entity with
  | some e =>
    if e.kind ∈ kinds then some (.delete kinds (.byId e.id))
    else r.symbol.map fun name => deleteNamed t name kinds
  | none => r.symbol.map fun name => deleteNamed t name kinds

def plan (h : Handler) (t : Token) : Option Plan :=
  match h with
  | legacySignature legacy =>
    let byMessage := (legacy.findIn t.unit t.message).map fun name => deleteNamed t name [.method]
    match t.entity with
    | some e =>
      if e.kind = .method then
        if legacy.lists e.owner e.name then some (.delete [.method] (.byId e.id)) else none
      else byMessage
    | none => byMessage
  | unresolvedImport pattern =>
    (pattern.recognize t).bind fun r =>
      match t.entity with
      | some e => if e.kind = .type then some (.blacklist e.owner) else deleteLocated t [.import] r
      | none => deleteLocated t [.import] r
  | duplicateDefinition pattern => (pattern.recognize t).bind (deleteLocated t [.property, .method])
  | baseSignatureClash pattern => (pattern.recognize t).bind (deleteLocated t [.method])
  | unknownSymbol pattern =>
    (pattern.recognize t).bind fun _ =>
      t.entity.bind fun e =>
        if e.kind = .method then some (.delete [.method] (.byId e.id)) else none

def recognizes (h : Handler) (t : Token) : Bool := (h.plan t).isSome

def findFirst (tx : Transaction) (key : EntityKey) : List EntityKind → Option Entity
  | [] => none
  | kind :: rest =>
    match tx.find kind key with
    | some e => some e
    | none => findFirst tx key rest

/-- Finds an entity and deletes it in one transaction. Nothing is committed if there is none. -/
def deleteInTransaction (s : Schema) (kinds : List EntityKind) (key : EntityKey) :
    Except RepositoryError (Option Entity) × Schema :=
  match s.begin with
  | (.error e, s) => (.error e, s)
  | (.ok tx, s) =>
    match findFirst tx key kinds with
    | none => (.ok none, s)
    | some entity =>
      match tx.delete entity with
      | (.error e, _) => (.error e, s)
      | (.ok (), tx) =>
        match s.commit tx with
        | (.error e, s) => (.error e, s)
        | (.ok (), s) => (.ok (some entity), s)

def carryOut (h : Handler) (t : Token) (p : Plan) (s : Schema) : Option Repair × Schema :=
  match p with
  | .blacklist name =>
    match s.addToBlacklist name with
    | (false, s) => (none, s)
    | (true, s) => (some ⟨h.label, .blacklisted, .type, name, name, t.unit, t.line⟩, s)
  | .delete kinds key =>
    match deleteInTransaction s kinds key with
    | (.ok (some e), s) => (some ⟨h.label, .deleted, e.kind, e.id, e.name, t.unit, t.line⟩, s)
    | (_, s) => (none, s)

def apply (h : Handler) (t : Token) (s : Schema) : Option Repair × Schema :=
  match h.plan t with
  | none => (none, s)
  | some p => h.carryOut t p s

end Handler

end HotSchema
