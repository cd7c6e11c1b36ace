import HotSchema.Json
/-!
# Sessions and their events

Connected sessions listen for what a compile installed. The hub keeps the listeners in the order in
which they subscribed and queues every event for each of them, except for those of the session that the
event is kept from. A listener whose receiver was dropped is forgotten at the next event.
-/

namespace HotSchema

structure CompiledEvent where
  success : Bool
  generation : Nat
  /-- Names that got a new definition or were retired. -/
  types : List String
  deriving DecidableEq

def CompiledEvent.toJson (e : CompiledEvent) : Json :=
  .obj [("event", .str "schema_compiled"), ("success", .bool e.success),
    ("generation", .num e.generation), ("types", .strings e.types)]

/-- One subscription. The queue holds what the receiver has not read, oldest first. -/
structure Listener where
  number : Nat
  session : String
  /-- The receiver was not dropped. -/
  isOpen : Bool
  queue : List CompiledEvent
  deriving DecidableEq

structure Hub where
  listeners : List Listener
  next : Nat
  deriving DecidableEq

namespace Hub

def empty : Hub := ⟨[], 0⟩

def listenerCount (h : Hub) : Nat := h.listeners.length

/-- Adds a listener; listeners are numbered from zero. -/
def subscribe (h : Hub) (session : String) : Nat × Hub :=
  (h.next, ⟨h.listeners ++ [⟨h.next, session, true, []⟩], h.next + 1⟩)

/-- Queues an event for every listener that is still open, unless the event is kept from its session;
the others are forgotten. -/
def publish (h : Hub) (event : CompiledEvent) (exclude : Option String) : Hub :=
  { h with
    listeners := (h.listeners.filter Listener.isOpen).map fun l =>
      if exclude = some l.session then l else { l with queue := l.queue ++ [event] } }

def modify (h : Hub) (number : Nat) (f : Listener → Listener) : Hub :=
  { h with listeners := h.listeners.map fun l => if l.number = number then f l else l }

/-- Drops a receiver, and with it what it has not read. -/
def drop (h : Hub) (number : Nat) : Hub :=
  h.modify number fun l => { l with isOpen := false, queue := [] }

/-- Reads what is queued; a dropped receiver has nothing to read from. -/
def receive (h : Hub) (number : Nat) : Option (List CompiledEvent) × Hub :=
  match h.listeners.find? (·.number = number) with
  | none => (none, h)
  | some l =>
    if l.isOpen then (some l.queue, h.modify number fun l => { l with queue := [] }) else (none, h)

end Hub

end HotSchema
