import HotSchema.Schema.Basic
/-!
# Transactions

Entities are edited in transactions. A transaction works on a copy of the types: what it finds, deletes
and updates is in the copy, and only a commit makes the copy the schema's types. A transaction that is
dropped leaves no trace.

Entities are found by identifier or by name. A type is identified by its qualified name and answers to
its short name too; members are searched type by type, within one type if the key says so.
-/

namespace HotSchema

inductive RepositoryError where
  | unavailable (reason : String)
  | vanished (kind : EntityKind) (id : String)
  | unknownField (kind : EntityKind) (id field : String)
  | aborted (reason : String)
  deriving DecidableEq

def RepositoryError.message : RepositoryError → String
  | unavailable reason => s!"schema repository unavailable: {reason}"
  | vanished kind id => s!"{kind.word} `{id}` vanished during the transaction"
  | unknownField kind id field => s!"{kind.word} `{id}` has no field `{field}`"
  | aborted reason => s!"transaction aborted: {reason}"

inductive EntityKey where
  | byId (id : String)
  | byName (owner : Option String) (name : String)
  deriving DecidableEq

/-- An entity as a transaction hands it out: a type has no owner and the field `header`, a member has
the field `source`. -/
structure Entity where
  kind : EntityKind
  id : String
  name : String
  owner : Option String
  fields : List (String × String)
  deriving DecidableEq

def TypeModel.entity (t : TypeModel) : Entity :=
  ⟨.type, t.name, Text.shortName t.name, none, [("header", t.header)]⟩

def Member.entity (m : Member) (owner : String) : Entity :=
  ⟨m.kind, m.id, m.name, some owner, [("source", m.source)]⟩

/-- A copy of the types that edits go to, and the types deleted from it. -/
structure Transaction where
  working : Roster TypeModel
  removed : List String
  deriving DecidableEq

/-- Starts a transaction, unless it is one of those that are to fail. -/
def Schema.begin (s : Schema) : Except RepositoryError Transaction × Schema :=
  if 0 < s.failingTransactions then
    (.error (.unavailable "injected failure"),
      { s with failingTransactions := s.failingTransactions - 1 })
  else (.ok ⟨s.types, []⟩, s)

/-- Makes the copy the schema's types, unless the commit is one of those that are to fail. -/
def Schema.commit (s : Schema) (tx : Transaction) : Except RepositoryError Unit × Schema :=
  if 0 < s.failingCommits then
    (.error (.aborted "injected commit failure"), { s with failingCommits := s.failingCommits - 1 })
  else
    (.ok (),
      { s with
        types := tx.working
        removed := s.removed ++ tx.removed
        revision := s.revision + 1 })

namespace EntityKey

/-- Whether a member goes by the key, its owner apart. -/
def fits (key : EntityKey) (m : Member) : Bool :=
  match key with
  | byId id => m.id == id
  | byName _ name => m.name == name

/-- Whether the key lets a search look into a type. -/
def admits (key : EntityKey) (t : TypeModel) : Bool :=
  match key with
  | byName (some owner) _ => t.name == owner
  | _ => true

def fitsType (key : EntityKey) (t : TypeModel) : Bool :=
  match key with
  | byId id => t.name == id
  | byName _ name => t.name == name || Text.shortName t.name == name

end EntityKey

namespace Transaction

def find (tx : Transaction) (kind : EntityKind) (key : EntityKey) : Option Entity :=
  if kind = .type then (tx.working.toList.find? key.fitsType).map TypeModel.entity
  else
    (tx.working.toList.filter key.admits).findSome? fun t =>
      (t.members.find? fun m => m.kind = kind && key.fits m).map (·.entity t.name)

/-- The type that an entity which is no type belongs to. -/
def ownerOf? (tx : Transaction) (e : Entity) : Option TypeModel := e.owner.bind tx.working.find?

/-- Deletes a type, or the members of the owner that have the entity's kind and identifier. -/
def delete (tx : Transaction) (e : Entity) : Except RepositoryError Unit × Transaction :=
  if e.kind = .type then
    if tx.working.contains e.id then
      (.ok (), { working := tx.working.erase e.id, removed := tx.removed ++ [e.id] })
    else (.error (.vanished e.kind e.id), tx)
  else
    match tx.ownerOf? e with
    | none => (.error (.vanished e.kind e.id), tx)
    | some t =>
      let kept := t.members.filter fun m => !(m.kind = e.kind && m.id = e.id)
      if kept.length = t.members.length then (.error (.vanished e.kind e.id), tx)
      else (.ok (), { tx with working := tx.working.insert { t with members := kept } })

/-- Sets fields of a type one by one, up to the first that a type does not have. -/
def setTypeFields (t : TypeModel) : List (String × String) → TypeModel × Option String
  | [] => (t, none)
  | (field, value) :: rest =>
    if field = "header" then setTypeFields { t with header := value } rest else (t, some field)

def setMemberFields (m : Member) : List (String × String) → Member × Option String
  | [] => (m, none)
  | (field, value) :: rest =>
    if field = "name" then setMemberFields { m with name := value } rest
    else if field = "source" then setMemberFields { m with source := value } rest
    else (m, some field)

def splitAtMember (p : Member → Bool) : List Member → Option (List Member × Member × List Member)
  | [] => none
  | m :: rest =>
    if p m then some ([], m, rest)
    else (splitAtMember p rest).map fun parts => (m :: parts.1, parts.2)

/-- Sets fields of a type, or of the first member of the owner that has the entity's kind and
identifier. Fields set before an unknown one stay set in the copy. -/
def update (tx : Transaction) (e : Entity) (fields : List (String × String)) :
    Except RepositoryError Unit × Transaction :=
  let outcome (unknown : Option String) : Except RepositoryError Unit :=
    match unknown with
    | none => .ok ()
    | some field => .error (.unknownField e.kind e.id field)
  if e.kind = .type then
    match tx.working.find? e.id with
    | none => (.error (.vanished e.kind e.id), tx)
    | some t =>
      let (t, unknown) := setTypeFields t fields
      (outcome unknown, { tx with working := tx.working.insert t })
  else
    match tx.ownerOf? e with
    | none => (.error (.vanished e.kind e.id), tx)
    | some t =>
      match splitAtMember (fun m => m.kind = e.kind && m.id = e.id) t.members with
      | none => (.error (.vanished e.kind e.id), tx)
      | some (before, m, after) =>
        let (m, unknown) := setMemberFields m fields
        (outcome unknown,
          { tx with working := tx.working.insert { t with members := before ++ m :: after } })

end Transaction

end HotSchema
