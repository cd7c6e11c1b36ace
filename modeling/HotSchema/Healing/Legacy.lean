import HotSchema.Text.Split
/-!
# Legacy signatures

The list of obsolete methods that are removed on sight. An entry is the name of a method, which stands
for that method on every type, or such a name after the name of a type and a dot, where the type's name
may be the qualified or the short one.
-/

namespace HotSchema

structure LegacyEntry where
  owner : Option String
  method : String
  deriving DecidableEq

abbrev LegacySignatures := List LegacyEntry

def LegacyEntry.ofText (entry : String) : LegacyEntry :=
  match Text.splitLast '.' entry.toList with
  | some (owner, method) => ⟨some (String.ofList owner), String.ofList method⟩
  | none => ⟨none, entry⟩

namespace LegacySignatures

def ofTexts (entries : List String) : LegacySignatures := entries.map LegacyEntry.ofText

def lists (l : LegacySignatures) (owner method : String) : Bool :=
  l.any fun entry =>
    entry.method == method &&
      match entry.owner with
      | none => true
      | some entryOwner => entryOwner == owner || entryOwner == Text.shortName owner

/-- The first word of a message that names a listed method of `owner`. -/
def findIn (l : LegacySignatures) (owner message : String) : Option String :=
  let words := Text.segments (fun c => !(Text.isAlphanumeric c || c == '_')) message.toList
  (words.map String.ofList).find? fun word => !word.isEmpty && l.lists owner word

end LegacySignatures

end HotSchema
