import HotSchema.Source.Unit
/-!
# Staging

Units wait here to be compiled, and names of deleted types wait to be retired. Beside them stand the
digests of the texts that last compiled, so that a unit whose text did not change is not staged again,
unless a full rebuild was asked for.

A name never waits in both lists: offering a unit takes its name off the removals, and staging a removal
drops the unit.
-/

namespace HotSchema

structure Stamp where
  name : String
  digest : UInt64
  deriving DecidableEq

instance : Named Stamp := ⟨Stamp.name⟩

structure Staging where
  staged : Roster SourceUnit
  removed : Roster String
  compiled : Roster Stamp
  fullRebuild : Bool
  deriving DecidableEq

/-- Whether an offered unit now waits for the next batch. -/
inductive Offer where
  | added
  | unchanged
  deriving DecidableEq

namespace Staging

def empty : Staging := ⟨∅, ∅, ∅, false⟩

def compiledDigest? (s : Staging) (name : String) : Option UInt64 :=
  (s.compiled.find? name).map Stamp.digest

def isDirty (s : Staging) (name : String) : Bool := s.staged.contains name

/-- Stages a unit unless its text waits already or is the text last compiled. A unit that went back to
its compiled text must not leave an older version waiting. -/
def offer (s : Staging) (unit : SourceUnit) : Offer × Staging :=
  let s := { s with removed := s.removed.erase unit.name }
  if (s.staged.find? unit.name).map SourceUnit.digest = some unit.digest then (.unchanged, s)
  else if !s.fullRebuild && s.compiledDigest? unit.name = some unit.digest then
    (.unchanged, { s with staged := s.staged.erase unit.name })
  else (.added, { s with staged := s.staged.insert unit })

/-- Forgets a deleted unit. The answer is whether a text of it was waiting or compiled. -/
def forget (s : Staging) (name : String) : Bool × Staging :=
  (s.staged.contains name || s.compiled.contains name,
    { s with
      staged := s.staged.erase name
      removed := s.removed.erase name
      compiled := s.compiled.erase name })

def stageRemoval (s : Staging) (name : String) : Staging :=
  { s with staged := s.staged.erase name, removed := s.removed.insert name }

/-- Drops what waits; compiled digests stay. -/
def clear (s : Staging) : Staging := { s with staged := ∅, removed := ∅ }

/-- Hands out the waiting units in the order in which they were first staged. -/
def takeDirty (s : Staging) : List SourceUnit × Staging := (s.staged.toList, { s with staged := ∅ })

def takeRemoved (s : Staging) : List String × Staging := (s.removed.toList, { s with removed := ∅ })

/-- The next batch counts every unit as changed. -/
def requestFullRebuild (s : Staging) : Staging := { s with fullRebuild := true }

def markCompiled (s : Staging) (units : List SourceUnit) : Staging :=
  { s with
    compiled := s.compiled.insertAll (units.map fun unit => ⟨unit.name, unit.digest⟩)
    fullRebuild := false }

/-- Forgets compiled digests, so that the units are compiled again even if nothing changes. -/
def invalidate (s : Staging) (names : List String) : Staging :=
  { s with compiled := s.compiled.eraseAll names }

/-- Stages the removals of a batch, then offers its units. -/
def take (s : Staging) (units : List SourceUnit) (removed : List String) : Staging :=
  units.foldl (fun s unit => (s.offer unit).2) (removed.foldl stageRemoval s)

end Staging

end HotSchema
