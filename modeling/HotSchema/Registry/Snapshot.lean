import HotSchema.Roster
/-!
# Snapshots

A snapshot is one complete generation of the registry: the table of entries in install order, and an
index from each name to the place of its entry. Snapshots never change; an install makes a new one, and
whoever holds an older one goes on reading it.
-/

namespace HotSchema

/-- A row of the index: where in the table a name stands. The count starts over behind the 2^32nd place. -/
structure Place where
  name : String
  index : UInt32
  deriving DecidableEq

instance : Named Place := ⟨Place.name⟩

structure Snapshot (α : Type) [Named α] where
  table : List α
  index : Roster Place
  generation : Nat
  deriving DecidableEq

def sortNames (names : List String) : List String := names.mergeSort fun a b => a ≤ b

namespace Snapshot

variable {α : Type} [Named α]

/-- Indexes the entries of a table, the first of which stands at `start`. -/
def indexFrom (index : Roster Place) (start : Nat) : List α → Roster Place
  | [] => index
  | entry :: rest => indexFrom (index.insert ⟨Named.name entry, .ofNat start⟩) (start + 1) rest

def ofTable (table : List α) (generation : Nat) : Snapshot α :=
  ⟨table, indexFrom ∅ 0 table, generation⟩

def empty (generation : Nat) : Snapshot α := ofTable [] generation

def place? (s : Snapshot α) (name : String) : Option UInt32 := (s.index.find? name).map Place.index

def get? (s : Snapshot α) (name : String) : Option α := (s.place? name).bind fun i => s.table[i.toNat]?

def contains (s : Snapshot α) (name : String) : Bool := s.index.contains name

def size (s : Snapshot α) : Nat := s.table.length

def isEmpty (s : Snapshot α) : Bool := s.table.isEmpty

def names (s : Snapshot α) : List String := sortNames s.index.names

end Snapshot

end HotSchema
