import HotSchema.Files
import HotSchema.Roster
import HotSchema.Shell.Glob
import HotSchema.Shell.Syntax
/-!
# The state of a shell

A shell has variables, arguments and functions, a directory that it is in, and descriptors that lead to
channels. A channel is a file with a place in it, a text to read from, or a stream that keeps what is
written to it; several descriptors may lead to one channel and then share its place.

An action on a machine either goes on or stops what is under way: a loop, a function, the shell. Loops
draw on a budget of rounds, and a shell whose budget is used up counts as one that never ends.
-/

namespace HotSchema.Shell

structure Variable where
  name : String
  value : Octets
  readOnly : Bool
  deriving DecidableEq

instance : Named Variable := ⟨Variable.name⟩

structure Function where
  name : String
  body : Command

instance : Named Function := ⟨Function.name⟩

inductive Channel where
  | file (route : Route) (place : Nat) (append : Bool)
  /-- What is left to read. -/
  | source (rest : Octets)
  /-- What was written, the latest first. -/
  | stream (written : Octets)
  deriving DecidableEq

inductive Stop where
  /-- So many loops, and the outermost of them for good or for the next round. -/
  | loops (levels : Nat) (again : Bool)
  | function
  | shell
  | killed (signal : Nat)
  | budget
  deriving DecidableEq

structure Machine where
  files : FileTree
  here : Route
  bindings : Roster Variable
  functions : Roster Function
  self : Octets
  arguments : List Octets
  channels : List Channel
  /-- Which channel each open descriptor leads to. -/
  descriptors : List (Nat × Nat)
  /-- How the last command ended; zero is success. -/
  status : Nat
  /-- How the last command ended whose output became part of the command under way. -/
  outputStatus : Option Nat
  /-- A failing command ends the shell. -/
  stopOnFailure : Bool
  /-- A missing parameter ends the shell. -/
  stopOnMissing : Bool
  /-- Patterns stand for themselves. -/
  noPaths : Bool
  /-- Commands are read and do not run. -/
  readOnly : Bool
  /-- Values that variables had before they became local, for each function under way. -/
  locals : List (List (String × Option Variable))
  /-- Actions to take on signals; the one under zero at the end. -/
  traps : List (Nat × Octets)
  inLoops : Nat
  rounds : Nat

/-- What a shell does: it changes its state, and goes on with a value or stops something. -/
abbrev Action (α : Type) := ExceptT Stop (StateM Machine) α

namespace Machine

/-! ### Variables -/

def value? (m : Machine) (name : Octets) : Option Octets :=
  (m.bindings.find? (String.ofList name)).map Variable.value

def isReadOnly (m : Machine) (name : Octets) : Bool :=
  (m.bindings.find? (String.ofList name)).any Variable.readOnly

def assign (m : Machine) (name value : Octets) : Machine :=
  { m with bindings := m.bindings.insert ⟨String.ofList name, value, false⟩ }

def unset (m : Machine) (name : Octets) : Machine :=
  { m with bindings := m.bindings.erase (String.ofList name) }

def restore (m : Machine) (saved : String × Option Variable) : Machine :=
  match saved.2 with
  | some v => { m with bindings := m.bindings.insert v }
  | none => { m with bindings := m.bindings.erase saved.1 }

def separators (m : Machine) : Octets := (m.value? "IFS".toList).getD " \t\n".toList

/-! ### Channels -/

def channel? (m : Machine) (descriptor : Nat) : Option (Nat × Channel) :=
  (m.descriptors.lookup descriptor).bind fun i => m.channels[i]?.map (i, ·)

def setChannel (m : Machine) (i : Nat) (c : Channel) : Machine :=
  { m with channels := m.channels.set i c }

def openChannel (m : Machine) (descriptor : Nat) (c : Channel) : Machine :=
  { m with
    channels := m.channels ++ [c]
    descriptors := (descriptor, m.channels.length) :: m.descriptors.filter (·.1 ≠ descriptor) }

def close (m : Machine) (descriptor : Nat) : Machine :=
  { m with descriptors := m.descriptors.filter (·.1 ≠ descriptor) }

def copyDescriptor (m : Machine) (descriptor other : Nat) : Option Machine :=
  (m.descriptors.lookup other).map fun i =>
    { m with descriptors := (descriptor, i) :: m.descriptors.filter (·.1 ≠ descriptor) }

def contentOf (m : Machine) (route : Route) : ByteArray :=
  match m.files.node? route with
  | some (.file content) => content
  | _ => ByteArray.empty

/-- Bytes with others written over them from a place on; a gap before the place is filled with zeros. -/
def overwrite (old new : ByteArray) (place : Nat) : ByteArray :=
  let gap : ByteArray := ⟨Array.replicate (place - old.size) 0⟩
  old.extract 0 place ++ gap ++ new ++ old.extract (place + new.size) old.size

def write? (m : Machine) (descriptor : Nat) (octets : Octets) : Option Machine :=
  match m.channel? descriptor with
  | none => none
  | some (_, .source _) => none
  | some (i, .stream written) => some (m.setChannel i (.stream (octets.reverse ++ written)))
  | some (i, .file route place append) =>
    match m.files.node? route with
    | some (.file old) =>
      let new := Octets.toBytes octets
      let place := if append then old.size else place
      let m := { m with files := m.files.put route (.file (overwrite old new place)) }
      some (m.setChannel i (.file route (place + new.size) append))
    | some .sink => some m
    | _ => none

def write (m : Machine) (descriptor : Nat) (octets : Octets) : Machine :=
  (m.write? descriptor octets).getD m

def readOctet (m : Machine) (descriptor : Nat) : Option Char × Machine :=
  match m.channel? descriptor with
  | some (i, .source (c :: rest)) => (some c, m.setChannel i (.source rest))
  | some (i, .file route place append) =>
    match (m.contentOf route)[place]? with
    | some b => (some (Char.ofNat b.toNat), m.setChannel i (.file route (place + 1) append))
    | none => (none, m)
  | _ => (none, m)

def written (m : Machine) (i : Nat) : Octets :=
  match m.channels[i]? with
  | some (.stream written) => written.reverse
  | _ => []

end Machine

/-! ### Actions -/

def fail {α : Type} (status : Nat) (message : String) : Action α := do
  modify fun m =>
    { m.write 2 (m.self ++ (": 1: " ++ message ++ "\n").toList) with status }
  throw .shell

/-- Says on the error channel what is wrong, and fails without ending anything. -/
def complain (status : Nat) (message : Octets) : Action Unit :=
  modify fun m => { m.write 2 (m.self ++ ": 1: ".toList ++ message ++ ['\n']) with status }

def setStatus (status : Nat) : Action Unit := modify fun m => { m with status }

/-- Runs an action and says what it stopped, if it stopped anything. -/
def attempt (a : Action Unit) : Action (Option Stop) :=
  tryCatch (do a; pure none) fun stop => pure (some stop)

end HotSchema.Shell
