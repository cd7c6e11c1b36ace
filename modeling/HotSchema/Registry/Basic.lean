import HotSchema.Registry.Snapshot
import HotSchema.Text.Quoted
/-!
# The registry

The registry holds the types that are live in the running program. It is replaced one generation at a
time: an install takes out the retired and the replaced entries, adds the batch behind the rest, and
publishes the result as a whole, so no reader ever sees half a batch.

A batch that names an entry twice, or an entry that it also retires, is refused and nothing changes.
-/

namespace HotSchema

inductive RegistryError where
  | duplicateInBatch (label name : String)
  /-- The names are all that the batch brings and is to retire. -/
  | installRetireConflict (label : String) (names : List String)
  deriving DecidableEq

/-- How an error may be told. Of several names in conflict any one is told. -/
def RegistryError.messages : RegistryError → List String
  | duplicateInBatch label name =>
    [s!"registry '{label}': `{name}` appears more than once in one install batch"]
  | installRetireConflict label names =>
    names.map fun name => s!"registry '{label}': `{name}` is installed and retired by the same batch"

structure InstallReport where
  generation : Nat
  /-- Names that had an entry and got a new one. -/
  replaced : List String
  /-- Names that had none. -/
  added : List String
  retired : List String
  deriving DecidableEq

structure Registry (α : Type) [Named α] where
  label : String
  current : Snapshot α
  deriving DecidableEq

/-- A hold on one entry, which keeps the generation that it was taken from. -/
structure RegistryRef (α : Type) [Named α] where
  snapshot : Snapshot α
  entry : α

namespace Registry

variable {α : Type} [Named α]

def new (label : String) : Registry α := ⟨label, Snapshot.empty 0⟩

def generation (r : Registry α) : Nat := r.current.generation

def get? (r : Registry α) (name : String) : Option (RegistryRef α) :=
  (r.current.get? name).map fun entry => ⟨r.current, entry⟩

/-- The first name of a list that was seen before it. -/
def repeated? (seen : List String) : List String → Option String
  | [] => none
  | name :: rest => if name ∈ seen then some name else repeated? (name :: seen) rest

/-- The table without the retired names and those of the batch, then the batch. -/
def publish (r : Registry α) (batch : List α) (retire : List String) :
    InstallReport × Registry α :=
  let old := r.current
  let incoming := batch.map Named.name
  let known := old.table.map Named.name
  let kept := old.table.filter fun entry =>
    Named.name entry ∉ retire && Named.name entry ∉ incoming
  let report : InstallReport :=
    { generation := old.generation + 1
      replaced := known.filter fun name => name ∉ retire && name ∈ incoming
      added := incoming.filter fun name => !old.contains name
      retired := known.filter fun name => name ∈ retire }
  (report, { r with current := Snapshot.ofTable (kept ++ batch) report.generation })

/-- Publishes a batch and retires names in one generation. -/
def install (r : Registry α) (batch : List α) (retire : List String) :
    Except RegistryError InstallReport × Registry α :=
  let incoming := batch.map Named.name
  match repeated? [] incoming with
  | some name => (.error (.duplicateInBatch r.label name), r)
  | none =>
    match retire.filter (· ∈ incoming) with
    | [] =>
      let (report, r) := r.publish batch retire
      (.ok report, r)
    | names => (.error (.installRetireConflict r.label names), r)

def retire (r : Registry α) (names : List String) : InstallReport × Registry α := r.publish [] names

/-- Empties the registry; the generations go on counting. -/
def reset (r : Registry α) : Registry α := { r with current := Snapshot.empty (r.generation + 1) }

def describe (r : Registry α) : String :=
  s!"TypeRegistry \x7b label: {Text.quoted r.label}, generation: {r.generation}, len: {r.current.size} \x7d"

end Registry

def RegistryRef.describe {α : Type} [Named α] (ref : RegistryRef α) : String :=
  let name := Text.quoted (Named.name ref.entry)
  s!"RegistryRef \x7b name: {name}, generation: {ref.snapshot.generation} \x7d"

end HotSchema
