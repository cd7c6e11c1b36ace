/-!
# Schema entities

The entities of a schema that generated lines point back at: a type itself and the imports, properties
and methods inside it. An entity has an identifier, which repairs go by, and a name, which messages
mention; its owner is the qualified name of the type it belongs to, for a type its own name.
-/

namespace HotSchema

inductive EntityKind where
  | type
  | import
  | property
  | method
  deriving DecidableEq

namespace EntityKind

def word : EntityKind → String
  | .type => "type"
  | .import => "import"
  | .property => "property"
  | .method => "method"

def ofWord? (s : String) : Option EntityKind :=
  if s = "type" then some .type
  else if s = "import" then some .import
  else if s = "property" then some .property
  else if s = "method" then some .method
  else none

theorem ofWord?_word (k : EntityKind) : ofWord? k.word = some k := by cases k <;> decide

end EntityKind

structure EntityRef where
  kind : EntityKind
  id : String
  name : String
  owner : String
  deriving DecidableEq

end HotSchema
