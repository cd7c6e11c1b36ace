import HotSchema.Schema.Transaction
/-!
# Edits

Everything that can be done to a schema from outside, as data: an edit has an answer and leaves a
schema. A transaction is an edit too. Its steps act on an entity at hand, which is the one last found,
or one that the step itself brings along.
-/

namespace HotSchema

inductive TransactionStep where
  | find (kind : EntityKind) (key : EntityKey)
  | delete (entity : Option Entity)
  | update (entity : Option Entity) (fields : List (String × String))

inductive StepResult where
  | found (entity : Option Entity)
  | done (outcome : Except RepositoryError Unit)
  | nothingAtHand

inductive TransactionEnd where
  | refused (error : RepositoryError)
  | committed (outcome : Except RepositoryError Unit)
  | dropped

inductive Edit where
  | upsert (type : TypeModel)
  | removeType (name : String)
  | blacklist (name : String)
  | isBlacklisted (name : String)
  | clearBlacklist (name : String)
  | typeModel (name : String)
  | failTransactions (count : Nat)
  | failCommits (count : Nat)
  | notify
  | transaction (steps : List TransactionStep) (commit : Bool)

inductive EditResult where
  | done
  | answered (yes : Bool)
  | model (type : Option TypeModel)
  | transaction (steps : List StepResult) (ending : TransactionEnd)

namespace Transaction

/-- Runs one step with an entity at hand, which the step may replace. -/
def step (tx : Transaction) (atHand : Option Entity) :
    TransactionStep → StepResult × Option Entity × Transaction
  | .find kind key =>
    let found := tx.find kind key
    (.found found, found.or atHand, tx)
  | .delete entity =>
    match entity.or atHand with
    | none => (.nothingAtHand, none, tx)
    | some e =>
      let (outcome, tx) := tx.delete e
      (.done outcome, some e, tx)
  | .update entity fields =>
    match entity.or atHand with
    | none => (.nothingAtHand, none, tx)
    | some e =>
      let (outcome, tx) := tx.update e fields
      (.done outcome, some e, tx)

def steps (tx : Transaction) (atHand : Option Entity) :
    List TransactionStep → List StepResult × Transaction
  | [] => ([], tx)
  | s :: rest =>
    let (result, atHand, tx) := tx.step atHand s
    let (results, tx) := tx.steps atHand rest
    (result :: results, tx)

end Transaction

namespace Schema

def transact (s : Schema) (steps : List TransactionStep) (commit : Bool) : EditResult × Schema :=
  match s.begin with
  | (.error e, s) => (.transaction [] (.refused e), s)
  | (.ok tx, s) =>
    let (results, tx) := tx.steps none steps
    if commit then
      let (outcome, s) := s.commit tx
      (.transaction results (.committed outcome), s)
    else (.transaction results .dropped, s)

def edit (s : Schema) : Edit → EditResult × Schema
  | .upsert t => (.done, s.upsert t)
  | .removeType name => let (yes, s) := s.removeType name; (.answered yes, s)
  | .blacklist name => let (yes, s) := s.addToBlacklist name; (.answered yes, s)
  | .isBlacklisted name => (.answered (s.isBlacklisted name), s)
  | .clearBlacklist name => let (yes, s) := s.clearBlacklist name; (.answered yes, s)
  | .typeModel name => (.model (s.types.find? name), s)
  | .failTransactions count => (.done, { s with failingTransactions := count })
  | .failCommits count => (.done, { s with failingCommits := count })
  | .notify => (.done, s.notifyChanged)
  | .transaction steps commit => s.transact steps commit

end Schema

end HotSchema
