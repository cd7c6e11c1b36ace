import HotSchema.Schema.Model
/-!
# The schema

The schema holds the type models in the order in which they were defined, the blacklist of types that
are kept out of generation until somebody corrects them, and the names of types that ceased to be
generated since units were last asked for. A type is live if it is present and not blacklisted.

Every edit that changes types or blacklist raises the revision. The next transactions, or the next
commits, can be made to fail a given number of times.
-/

namespace HotSchema

structure Schema where
  types : Roster TypeModel
  blacklist : Roster String
  removed : List String
  notifications : Nat
  revision : Nat
  failingTransactions : Nat
  failingCommits : Nat
  deriving DecidableEq

/-- The units of the live types, and the names of types that ceased to be generated. -/
structure SourceBatch where
  units : List SourceUnit
  removed : List String
  deriving DecidableEq

namespace Schema

def empty : Schema := ⟨∅, ∅, [], 0, 0, 0, 0⟩

def isBlacklisted (s : Schema) (name : String) : Bool := s.blacklist.contains name

def live (s : Schema) : List TypeModel := s.types.toList.filter fun t => !s.isBlacklisted t.name

def upsert (s : Schema) (t : TypeModel) : Schema :=
  { s with types := s.types.insert t, revision := s.revision + 1 }

def removeType (s : Schema) (name : String) : Bool × Schema :=
  if s.types.contains name then
    (true,
      { s with
        types := s.types.erase name
        removed := s.removed ++ [name]
        revision := s.revision + 1 })
  else (false, s)

/-- Keeps a type out of generation; the answer is whether it was not blacklisted before. -/
def addToBlacklist (s : Schema) (name : String) : Bool × Schema :=
  if s.isBlacklisted name then (false, s)
  else
    (true,
      { s with
        blacklist := s.blacklist.insert name
        removed := if s.types.contains name then s.removed ++ [name] else s.removed
        revision := s.revision + 1 })

def clearBlacklist (s : Schema) (name : String) : Bool × Schema :=
  if s.isBlacklisted name then
    (true, { s with blacklist := s.blacklist.erase name, revision := s.revision + 1 })
  else (false, s)

def notifyChanged (s : Schema) : Schema := { s with notifications := s.notifications + 1 }

/-- The units of some types, in order, if all of them generate. -/
def generateAll : List TypeModel → Except SourceError (List SourceUnit)
  | [] => .ok []
  | t :: rest =>
    match t.generate with
    | .error e => .error e
    | .ok unit =>
      match generateAll rest with
      | .error e => .error e
      | .ok units => .ok (unit :: units)

/-- Hands out the unit of every live type. The removals are handed out once, and only together with the
units. -/
def request (s : Schema) : Except SourceError SourceBatch × Schema :=
  match generateAll s.live with
  | .error e => (.error e, s)
  | .ok units => (.ok ⟨units, s.removed⟩, { s with removed := [] })

end Schema

end HotSchema
