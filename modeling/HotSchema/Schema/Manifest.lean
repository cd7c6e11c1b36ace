import HotSchema.Schema.Basic
import HotSchema.Toml.Document
import HotSchema.Toml.Record
/-!
# Manifests

A manifest is a schema on disk: a TOML document with a list of types, each with its members. Later types
replace earlier ones of the same name.
-/

namespace HotSchema

structure Manifest where
  types : List TypeModel
  deriving DecidableEq

namespace Manifest

def memberOf? (v : Toml.Value) : Option Member := do
  let t ← v.record? ["kind", "id", "name", "source"]
  let kind ← t.required? "kind" (Toml.Value.word? EntityKind.ofWord?)
  let id ← t.required? "id" Toml.Value.string?
  let name ← t.required? "name" Toml.Value.string?
  let source ← t.required? "source" Toml.Value.string?
  some ⟨kind, id, name, source⟩

def typeOf? (v : Toml.Value) : Option TypeModel := do
  let t ← v.record? ["name", "header", "members"]
  let name ← t.required? "name" Toml.Value.string?
  let header ← t.required? "header" Toml.Value.string?
  let members ← t.withDefault? "members" [] (Toml.Value.list? memberOf?)
  some ⟨name, header, members⟩

def parse? (text : String) : Option Manifest := do
  let t ← Toml.parse text
  let t ← (Toml.Value.table .header t).record? ["types"]
  let types ← t.withDefault? "types" [] (Toml.Value.list? typeOf?)
  some ⟨types⟩

end Manifest

def Schema.ofManifest (m : Manifest) : Schema := m.types.foldl upsert empty

end HotSchema
