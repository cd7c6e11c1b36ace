import HotSchema.Proofs.Roster
import HotSchema.Schema.Edit
/-!
# Histories of a schema

A schema sees edits, transactions among them, and requests for its units. What a call can do to the types, the
blacklist, the removals that wait and the revision is said here once, and statements about histories go by that:
a call leaves the four alone, or it makes one change of a few kinds, each of them with its own revision, or it
hands the removals out.
-/

namespace HotSchema

inductive SchemaCall where
  | edit (edit : Edit)
  | request

namespace Schema

def perform (s : Schema) : SchemaCall → Schema
  | .edit edit => (s.edit edit).2
  | .request => s.request.2

def after (s : Schema) (calls : List SchemaCall) : Schema := calls.foldl perform s

@[simp] theorem after_nil (s : Schema) : s.after [] = s := rfl

theorem after_append (s : Schema) (left right : List SchemaCall) :
    s.after (left ++ right) = (s.after left).after right :=
  List.foldl_append

theorem after_concat (s : Schema) (calls : List SchemaCall) (call : SchemaCall) :
    s.after (calls ++ [call]) = (s.after calls).perform call :=
  s.after_append calls [call]

end Schema

/-! ### Steps of a transaction -/

namespace Transaction

/-- What one step can do to a transaction: nothing, or replace a type of the copy, or delete one from it. -/
inductive Changed (tx : Transaction) : Transaction → Prop where
  | kept : Changed tx tx
  | replaced {t : TypeModel} (h : t.name ∈ tx.working.names) : Changed tx { tx with working := tx.working.insert t }
  | deleted {name : String} (h : name ∈ tx.working.names) :
    Changed tx ⟨tx.working.erase name, tx.removed ++ [name]⟩

variable (tx : Transaction)

theorem name_of_ownerOf? {tx : Transaction} {e : Entity} {t : TypeModel} (h : tx.ownerOf? e = some t) :
    t.name ∈ tx.working.names := by
  obtain ⟨owner, -, hfind⟩ := Option.bind_eq_some_iff.1 h
  have hname : t.name = owner := Roster.name_of_find? hfind
  exact Roster.mem_names_iff_find?.2 ⟨t, hname ▸ hfind⟩

theorem changed_delete (e : Entity) : tx.Changed (tx.delete e).2 := by
  unfold delete
  split
  · split
    · next hcontains => exact .deleted (Roster.contains_iff.1 hcontains)
    · exact .kept
  · split
    · exact .kept
    · next t howner =>
      have hname : t.name ∈ tx.working.names := name_of_ownerOf? howner
      dsimp only
      split
      · exact .kept
      · exact .replaced hname

theorem name_setTypeFields (t : TypeModel) (fields : List (String × String)) :
    (setTypeFields t fields).1.name = t.name := by
  induction fields generalizing t with
  | nil => rfl
  | cons first rest ih =>
    unfold setTypeFields
    split
    · exact ih { t with header := first.2 }
    · rfl

theorem changed_update (e : Entity) (fields : List (String × String)) : tx.Changed (tx.update e fields).2 := by
  unfold update
  dsimp only
  split
  · split
    · exact .kept
    · next t hfind =>
      have hname : t.name = e.id := Roster.name_of_find? hfind
      refine .replaced ?_
      rw [name_setTypeFields, hname]
      exact Roster.mem_names_iff_find?.2 ⟨t, hfind⟩
  · split
    · exact .kept
    · next t howner =>
      have hname : t.name ∈ tx.working.names := name_of_ownerOf? howner
      split
      · exact .kept
      · exact .replaced hname

theorem changed_step (atHand : Option Entity) (st : TransactionStep) : tx.Changed (tx.step atHand st).2.2 := by
  cases st with
  | find kind key => exact .kept
  | delete entity =>
    unfold step
    dsimp only
    split
    · exact .kept
    · exact tx.changed_delete _
  | update entity fields =>
    unfold step
    dsimp only
    split
    · exact .kept
    · exact tx.changed_update _ fields

theorem steps_cons (atHand : Option Entity) (st : TransactionStep) (rest : List TransactionStep) :
    (tx.steps atHand (st :: rest)).2 = ((tx.step atHand st).2.2.steps (tx.step atHand st).2.1 rest).2 :=
  rfl

/-- A copy of some types from which nothing but the types noted as removed is gone, and to which none came. -/
structure Edits (types : Roster TypeModel) (tx : Transaction) : Prop where
  names : tx.working.names = types.names.filter (· ∉ tx.removed)
  removed : ∀ name ∈ tx.removed, name ∈ types.names

variable {tx} {types : Roster TypeModel}

theorem edits_begin (types : Roster TypeModel) : Edits types ⟨types, []⟩ := ⟨by simp, by simp⟩

theorem names_replaced {t : TypeModel} (h : t.name ∈ tx.working.names) :
    (tx.working.insert t).names = tx.working.names := by
  rw [Roster.names_insert]
  exact if_pos h

theorem Edits.changed {tx' : Transaction} (h : Edits types tx) (hchanged : tx.Changed tx') : Edits types tx' := by
  cases hchanged with
  | kept => exact h
  | replaced hname => exact ⟨(names_replaced hname).trans h.names, h.removed⟩
  | @deleted name hname =>
    rw [h.names, List.mem_filter] at hname
    refine ⟨?_, fun other hother => ?_⟩
    · rw [Roster.names_erase, h.names, List.filter_filter]
      refine List.filter_congr fun other _ => ?_
      rw [Bool.eq_iff_iff]
      simp [and_comm]
    · rcases List.mem_append.1 hother with hold | hnew
      · exact h.removed other hold
      · rw [List.mem_singleton.1 hnew]
        exact hname.1

theorem Edits.steps (h : Edits types tx) (atHand : Option Entity) (sts : List TransactionStep) :
    Edits types (tx.steps atHand sts).2 := by
  induction sts generalizing tx atHand with
  | nil => exact h
  | cons st rest ih => exact ih (h.changed (tx.changed_step atHand st)) _

end Transaction

/-! ### Calls -/

/-- What a schema holds but for its counters of notifications and of failures to come. -/
structure SchemaContents where
  types : Roster TypeModel
  blacklist : Roster String
  removed : List String
  revision : Nat

def Schema.contents (s : Schema) : SchemaContents := ⟨s.types, s.blacklist, s.removed, s.revision⟩

/-- What an edit can do to the contents. -/
inductive EditEffect (c : SchemaContents) : SchemaContents → Prop where
  | nothing : EditEffect c c
  | defined (t : TypeModel) : EditEffect c { c with types := c.types.insert t, revision := c.revision + 1 }
  | removed {name : String} (h : name ∈ c.types.names) :
    EditEffect c
      { c with types := c.types.erase name, removed := c.removed ++ [name], revision := c.revision + 1 }
  | blacklisted {name : String} (h : name ∉ c.blacklist.names) :
    EditEffect c
      { c with
        blacklist := c.blacklist.insert name
        removed := if c.types.contains name then c.removed ++ [name] else c.removed
        revision := c.revision + 1 }
  | cleared (name : String) :
    EditEffect c { c with blacklist := c.blacklist.erase name, revision := c.revision + 1 }
  | committed {tx : Transaction} (h : tx.Edits c.types) :
    EditEffect c
      { c with types := tx.working, removed := c.removed ++ tx.removed, revision := c.revision + 1 }

/-- What a call can do to the contents. -/
inductive SchemaEffect (c : SchemaContents) : SchemaContents → Prop where
  | edited {c' : SchemaContents} (h : EditEffect c c') : SchemaEffect c c'
  | handedOut : SchemaEffect c { c with removed := [] }

namespace Schema

theorem begin_cases (s : Schema) :
    (∃ error, s.begin = (.error error, { s with failingTransactions := s.failingTransactions - 1 })) ∨
      s.begin = (.ok ⟨s.types, []⟩, s) := by
  unfold begin
  split
  · exact Or.inl ⟨_, rfl⟩
  · exact Or.inr rfl

theorem effect_commit {s : Schema} {tx : Transaction} (h : tx.Edits s.types) :
    EditEffect s.contents (s.commit tx).2.contents := by
  unfold commit
  split
  · exact .nothing
  · exact .committed h

theorem effect_transact (s : Schema) (steps : List TransactionStep) (commit : Bool) :
    EditEffect s.contents (s.transact steps commit).2.contents := by
  unfold transact
  rcases s.begin_cases with ⟨error, hbegin⟩ | hbegin
  · rw [hbegin]
    exact .nothing
  · rw [hbegin]
    dsimp only
    split
    · exact effect_commit ((Transaction.edits_begin s.types).steps none steps)
    · exact .nothing

theorem effect_addToBlacklist (s : Schema) (name : String) :
    EditEffect s.contents (s.addToBlacklist name).2.contents := by
  unfold addToBlacklist
  split
  · exact .nothing
  · next hlisted => exact .blacklisted fun hmem => hlisted (Roster.contains_iff.2 hmem)

theorem effect_edit (s : Schema) (edit : Edit) : EditEffect s.contents (s.edit edit).2.contents := by
  cases edit with
  | upsert t => exact .defined t
  | removeType name =>
    show EditEffect s.contents (s.removeType name).2.contents
    unfold removeType
    split
    · next hcontains => exact .removed (Roster.contains_iff.1 hcontains)
    · exact .nothing
  | blacklist name => exact s.effect_addToBlacklist name
  | clearBlacklist name =>
    show EditEffect s.contents (s.clearBlacklist name).2.contents
    unfold clearBlacklist
    split
    · exact .cleared name
    · exact .nothing
  | transaction steps commit => exact s.effect_transact steps commit
  | isBlacklisted name | typeModel name | failTransactions count | failCommits count | notify => exact .nothing

theorem effect_request (s : Schema) : SchemaEffect s.contents s.request.2.contents := by
  unfold request
  split
  · exact .edited .nothing
  · exact .handedOut

theorem effect_perform (s : Schema) (call : SchemaCall) : SchemaEffect s.contents (s.perform call).contents := by
  cases call with
  | edit edit => exact .edited (s.effect_edit edit)
  | request => exact s.effect_request

end Schema

end HotSchema
