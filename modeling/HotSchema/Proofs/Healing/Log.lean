import HotSchema.Proofs.Healing.Unrepaired
/-!
# Repairs as a log

A healing pass gives back its repairs in the order in which it made them, and each says what it took out. So
the repairs are a log: whoever replays them on the schema from before the pass ends at the schema from after
it, up to the failures that were to come. That holds whichever transactions and commits fail, since a handler
whose transaction fails makes no repair and leaves everything as it is.
-/

namespace HotSchema

/-! ### Single repairs -/

namespace Repair

/-- One type lost its members of the kind and identifier that the repair gives, at least one. -/
structure Deleted (r : Repair) (s s' : Schema) : Prop where
  action : r.action = .deleted
  types : ∃ t ∈ s.types.toList, (∃ m ∈ t.members, m.is r.kind r.target = true) ∧
    s'.types.toList = s.types.toList.map fun u => if u.name = t.name then u.without r.kind r.target else u
  blacklist : s'.blacklist = s.blacklist
  removed : s'.removed = s.removed

/-- The name that the repair gives was put on the blacklist, and on the list of removed types if there is a
type of that name. -/
structure Blacklisted (r : Repair) (s s' : Schema) : Prop where
  action : r.action = .blacklisted
  kind : r.kind = .type
  types : s'.types = s.types
  fresh : r.target ∉ s.blacklist.names
  blacklist : s'.blacklist.toList = s.blacklist.toList ++ [r.target]
  removed : s'.removed = s.removed ++ if r.target ∈ s.types.names then [r.target] else []

/-- The repair says what was done to the first schema to come to the second. -/
structure Took (r : Repair) (s s' : Schema) : Prop where
  effect : r.Deleted s s' ∨ r.Blacklisted s s'
  notifications : s'.notifications = s.notifications
  revision : s'.revision = s.revision + 1

/-- One of the handlers recognizes the token and made the repair for it. -/
def Answers (p : Pipeline) (r : Repair) (t : Token) : Prop :=
  ∃ h ∈ p, h.recognizes t = true ∧ r.handler = h.label ∧ r.unit = t.unit ∧ r.line = t.line

variable {r : Repair} {h : Handler} {t : Token} {s : Schema}

theorem Tells.took_members {u : TypeModel} {m : Member} (htells : r.Tells h t (.members u.name m.kind m.id))
    (hu : u ∈ s.types.toList) (hm : m ∈ u.members) : r.Took s (s.strike (.members u.name m.kind m.id)) := by
  have hfind : s.types.find? u.name = some u := Roster.find?_of_mem hu
  have hkind : r.kind = m.kind := htells.kind
  have htarget : r.target = m.id := htells.target
  have htypes := Schema.toList_types_strike hfind m.kind m.id
  refine ⟨Or.inl ⟨htells.action, ⟨u, hu, ⟨m, hm, ?_⟩, ?_⟩, ?_, ?_⟩, ?_, ?_⟩
  · rw [hkind, htarget]
    exact Member.is_iff.2 ⟨rfl, rfl⟩
  · rw [hkind, htarget]
    exact htypes
  all_goals simp only [Schema.strike, hfind]

theorem Tells.took_type {name : String} (htells : r.Tells h t (.type name))
    (hfresh : s.isBlacklisted name = false) : r.Took s (s.strike (.type name)) := by
  have htarget : r.target = name := htells.target
  have hnames : name ∉ s.blacklist.names := fun hlisted => by
    simp [Schema.isBlacklisted, Roster.contains_iff.2 hlisted] at hfresh
  have hstrike : s.strike (.type name) =
      { s with
        blacklist := s.blacklist.insert name
        removed := if s.types.contains name then s.removed ++ [name] else s.removed
        revision := s.revision + 1 } := by
    simp [Schema.strike, Schema.addToBlacklist, hfresh]
  rw [hstrike]
  refine ⟨Or.inr ⟨htells.action, htells.kind, rfl, htarget ▸ hnames, ?_, ?_⟩, rfl, rfl⟩
  · rw [htarget]
    exact Roster.toList_insert_of_not_contains hfresh
  · rw [htarget]
    by_cases hdefined : name ∈ s.types.names
    · simp [hdefined, Roster.contains_iff.2 hdefined]
    · simp [hdefined, mt Roster.contains_iff.1 hdefined]

theorem Took.of_sameContent {s₁ s₂ : Schema} (hsame : s.SameContent s₁) (htook : r.Took s₁ s₂) : r.Took s s₂ where
  effect := by
    rcases htook.effect with hdeleted | hblacklisted
    · obtain ⟨haction, htypes, hblacklist, hremoved⟩ := hdeleted
      exact Or.inl ⟨haction, hsame.types ▸ htypes, hsame.blacklist ▸ hblacklist, hsame.removed ▸ hremoved⟩
    · obtain ⟨haction, hkind, htypes, hfresh, hblacklist, hremoved⟩ := hblacklisted
      rw [hsame.blacklist] at hfresh hblacklist
      rw [hsame.types, hsame.removed] at hremoved
      exact Or.inr ⟨haction, hkind, htypes.trans hsame.types, hfresh, hblacklist, hremoved⟩
  notifications := htook.notifications.trans hsame.notifications
  revision := hsame.revision ▸ htook.revision

end Repair

theorem Handler.Carried.took {h : Handler} {t : Token} {plan : Plan} {s s' : Schema} {repair : Repair}
    (hcarried : h.Carried t plan s (some repair, s')) : repair.Took s s' := by
  cases hcarried with
  | struck _ _ hfirst htells =>
    have hx := List.mem_of_mem_head? hfirst
    cases plan with
    | delete kinds key =>
      obtain ⟨kind, -, hx⟩ := List.mem_flatMap.1 hx
      obtain ⟨u, hu, m, hm, rfl⟩ := Schema.exists_of_mem_targets hx
      exact htells.took_members hu hm
    | blacklist name =>
      by_cases hlisted : s.isBlacklisted name = true
      · simp [Plan.targets, hlisted] at hx
      · obtain rfl : _ = Target.type name := by simpa [Plan.targets, hlisted] using hx
        exact htells.took_type (by simpa using hlisted)

theorem Handler.Carried.answers {h : Handler} {t : Token} {plan : Plan} {s s' : Schema} {repair : Repair}
    (hcarried : h.Carried t plan s (some repair, s')) (hplan : h.plan t = some plan) (rest : Pipeline) :
    repair.Answers (h :: rest) t := by
  cases hcarried with
  | struck _ _ _ htells =>
    exact ⟨h, List.mem_cons_self, by simp [recognizes, hplan], htells.handler, htells.unit, htells.line⟩

/-! ### Replays -/

namespace Schema

/-- Repairs one after another lead from a schema to another. -/
inductive Replays : Schema → List Repair → Schema → Prop
  | done {s s' : Schema} (same : s.SameContent s') : Replays s [] s'
  | next {s s₁ s' : Schema} {r : Repair} {rest : List Repair} (took : r.Took s s₁) (replays : Replays s₁ rest s') :
    Replays s (r :: rest) s'

theorem Replays.of_sameContent {s s₁ s' : Schema} {repairs : List Repair} (hsame : s.SameContent s₁)
    (hreplays : s₁.Replays repairs s') : s.Replays repairs s' := by
  cases hreplays with
  | done hdone => exact .done (hsame.trans hdone)
  | next htook hrest => exact .next (htook.of_sameContent hsame) hrest

theorem Replays.append {s s₁ s' : Schema} {first rest : List Repair} (hfirst : s.Replays first s₁)
    (hrest : s₁.Replays rest s') : s.Replays (first ++ rest) s' := by
  induction hfirst with
  | done hsame => exact hrest.of_sameContent hsame
  | next htook _ ih => exact .next htook (ih hrest)

theorem Replays.revision {s s' : Schema} {repairs : List Repair} (hreplays : s.Replays repairs s') :
    s'.revision = s.revision + repairs.length := by
  induction hreplays with
  | done hsame => exact hsame.revision
  | next htook _ ih =>
    rw [ih, htook.revision, List.length_cons]
    omega

theorem Replays.notifications {s s' : Schema} {repairs : List Repair} (hreplays : s.Replays repairs s') :
    s'.notifications = s.notifications := by
  induction hreplays with
  | done hsame => exact hsame.notifications
  | next htook _ ih => exact ih.trans htook.notifications

theorem Replays.sameContent {s s' : Schema} (hreplays : s.Replays [] s') : s.SameContent s' := by
  cases hreplays with
  | done hsame => exact hsame

end Schema

/-- The second type is the first without some of its members. -/
structure TypeModel.Thinned (t t' : TypeModel) : Prop where
  name : t'.name = t.name
  header : t'.header = t.header
  members : t'.members.Sublist t.members

namespace TypeModel

theorem Thinned.refl (t : TypeModel) : t.Thinned t := ⟨rfl, rfl, List.Sublist.refl _⟩

theorem Thinned.trans {t₁ t₂ t₃ : TypeModel} (h₁ : t₁.Thinned t₂) (h₂ : t₂.Thinned t₃) : t₁.Thinned t₃ where
  name := h₂.name.trans h₁.name
  header := h₂.header.trans h₁.header
  members := h₂.members.trans h₁.members

theorem thinned_without (t : TypeModel) (kind : EntityKind) (id : String) :
    t.Thinned (t.without kind id) :=
  ⟨rfl, rfl, List.filter_sublist⟩

end TypeModel

/-- The types of the second schema are those of the first, each without some of its members. -/
def Schema.Thins (s s' : Schema) : Prop :=
  ∃ thin : TypeModel → TypeModel, (∀ t : TypeModel, t.Thinned (thin t)) ∧
    s'.types.toList = s.types.toList.map thin

theorem Schema.Thins.of_eq {s s' : Schema} (htypes : s'.types = s.types) : s.Thins s' :=
  ⟨id, TypeModel.Thinned.refl, by rw [htypes, List.map_id]⟩

theorem Schema.Thins.trans {s₁ s₂ s₃ : Schema} (h₁ : s₁.Thins s₂) (h₂ : s₂.Thins s₃) : s₁.Thins s₃ := by
  obtain ⟨thin₁, hthin₁, htypes₁⟩ := h₁
  obtain ⟨thin₂, hthin₂, htypes₂⟩ := h₂
  exact ⟨thin₂ ∘ thin₁, fun t => (hthin₁ t).trans (hthin₂ (thin₁ t)), by rw [htypes₂, htypes₁, List.map_map]⟩

theorem Schema.Thins.forall₂ {s s' : Schema} (h : s.Thins s') :
    List.Forall₂ TypeModel.Thinned s.types.toList s'.types.toList := by
  obtain ⟨thin, hthin, htypes⟩ := h
  rw [htypes, List.forall₂_map_right_iff]
  exact List.forall₂_same.2 fun t _ => hthin t

theorem Repair.Took.thins {r : Repair} {s s' : Schema} (htook : r.Took s s') : s.Thins s' := by
  rcases htook.effect with hdeleted | hblacklisted
  · obtain ⟨t, -, -, htypes⟩ := hdeleted.types
    refine ⟨_, fun u => ?_, htypes⟩
    split
    · exact u.thinned_without r.kind r.target
    · exact .refl u
  · exact .of_eq hblacklisted.types

/-- No type comes or goes, and the members that are left are as they were. -/
theorem Schema.Replays.thins {s s' : Schema} {repairs : List Repair} (hreplays : s.Replays repairs s') :
    s.Thins s' := by
  induction hreplays with
  | done hsame => exact .of_eq hsame.types
  | next htook _ ih => exact htook.thins.trans ih

/-! ### Passes -/

namespace Pipeline

theorem answers_cons {r : Repair} {t : Token} {rest : Pipeline} (hanswers : r.Answers rest t) (h : Handler) :
    r.Answers (h :: rest) t := by
  obtain ⟨other, hother, hmade⟩ := hanswers
  exact ⟨other, List.mem_cons_of_mem h hother, hmade⟩

/-- For one token the handlers make one repair, which says what was done, or they leave everything as it is. -/
theorem healToken_replays (t : Token) (p : Pipeline) (s : Schema) :
    s.Replays (healToken t p s).1.toList (healToken t p s).2 ∧ ∀ r ∈ (healToken t p s).1, r.Answers p t := by
  induction p generalizing s with
  | nil => exact ⟨.done (.refl s), by simp [healToken]⟩
  | cons h rest ih =>
    rcases healToken_cons h rest t s with
      ⟨hplan, heal⟩ | ⟨plan, hplan, ⟨s', hcarried, heal⟩ | ⟨repair, s', hcarried, heal⟩⟩ <;> rw [heal]
    · exact ⟨(ih s).1, fun r hr => answers_cons ((ih s).2 r hr) h⟩
    · exact ⟨(ih s').1.of_sameContent hcarried.sameContent, fun r hr => answers_cons ((ih s').2 r hr) h⟩
    · refine ⟨.next hcarried.took (.done (.refl s')), fun r hr => ?_⟩
      obtain rfl : repair = r := by simpa using hr
      exact hcarried.answers hplan rest

theorem healInOrder_replays (p : Pipeline) (tokens : List Token) (s : Schema) :
    s.Replays (p.healInOrder tokens s).1 (p.healInOrder tokens s).2 := by
  induction tokens generalizing s with
  | nil => exact .done (.refl s)
  | cons t rest ih => exact (healToken_replays t p s).1.append (ih _)

theorem healInOrder_answers (p : Pipeline) (tokens : List Token) (s : Schema) :
    ∃ answered, answered.Sublist tokens ∧
      List.Forall₂ (Repair.Answers p) (p.healInOrder tokens s).1 answered := by
  induction tokens generalizing s with
  | nil => exact ⟨[], List.Sublist.refl _, .nil⟩
  | cons t rest ih =>
    obtain ⟨answered, hsublist, hanswers⟩ := ih (healToken t p s).2
    have hfirst := (healToken_replays t p s).2
    rcases htoken : (healToken t p s).1 with _ | repair
    · refine ⟨answered, hsublist.cons t, ?_⟩
      simpa only [healInOrder, htoken, Option.toList_none, List.nil_append] using hanswers
    · refine ⟨t :: answered, hsublist.cons_cons t, ?_⟩
      simp only [healInOrder, htoken, Option.toList_some, List.singleton_append]
      exact .cons (hfirst repair htoken) hanswers

/-- Replaying the repairs of a pass leads from the schema before it to the schema after it: each takes out the
members it names or blacklists the type it names, and raises the revision by one. What is left is as it was and
in its order, the repairs answer some of the tokens, each at most once, and a pass without a repair has changed
nothing. -/
theorem heal_logged (p : Pipeline) (tokens : List Token) (s : Schema) :
    s.Replays (p.heal tokens s).1 (p.heal tokens s).2 ∧
      List.Forall₂ TypeModel.Thinned s.types.toList (p.heal tokens s).2.types.toList ∧
      (p.heal tokens s).2.revision = s.revision + (p.heal tokens s).1.length ∧
      (∃ answered, answered.Sublist (tokens.mergeSort Token.before) ∧
        List.Forall₂ (Repair.Answers p) (p.heal tokens s).1 answered) ∧
      ((p.heal tokens s).1 = [] → s.SameContent (p.heal tokens s).2) := by
  have hreplays : s.Replays (p.heal tokens s).1 (p.heal tokens s).2 := p.healInOrder_replays _ s
  exact ⟨hreplays, hreplays.thins.forall₂, hreplays.revision, p.healInOrder_answers _ s,
    fun hnone => (hnone ▸ hreplays).sameContent⟩

/-! ### A pass that deletes and blacklists -/

/-- A type with two properties of one name and another type, where the first transaction is to fail. -/
def unreliable : Schema :=
  { (Schema.empty.upsert ⟨"app.A", "type A",
      [⟨.property, "p1", "total", "total: int"⟩, ⟨.property, "p2", "total", "total: text"⟩]⟩).upsert
      ⟨"app.B", "type B uses tax", []⟩ with
    failingTransactions := 1 }

/-- Errors about both properties, and one about the other type's own line. -/
def reports : List Token :=
  [⟨.error "app.A" 2 "duplicate definition of total", none, none, some ⟨.property, "p1", "total", "app.A"⟩⟩,
    ⟨.error "app.A" 3 "duplicate definition of total", none, none, some ⟨.property, "p2", "total", "app.A"⟩⟩,
    ⟨.error "app.B" 1 "package tax does not exist", none, none, some ⟨.type, "app.B", "B", "app.B"⟩⟩]

/-- The first error finds no transaction. The log has a repair for each of the others, and to replay it is to take the
second property out and to put the other type on the blacklist. -/
theorem deletion_and_blacklisting_logged :
    ∃ deletion blacklisting : Repair, ∃ between after : Schema,
      heal (standard []) reports unreliable = ([deletion, blacklisting], after) ∧
        deletion.Deleted unreliable between ∧ deletion.target = "p2" ∧
        blacklisting.Blacklisted between after ∧ blacklisting.target = "app.B" ∧
        after.removed = ["app.B"] ∧ after.revision = unreliable.revision + 2 ∧
        ∃ answered, answered.Sublist reports ∧
          List.Forall₂ (Repair.Answers (standard [])) [deletion, blacklisting] answered := by
  have hsorted : reports.mergeSort Token.before = reports := List.mergeSort_of_pairwise (by decide +kernel)
  have hrepairs : (heal (standard []) reports unreliable).1 =
      [⟨"duplicate-definition", .deleted, .property, "p2", "total", "app.A", 3⟩,
        ⟨"unresolved-import", .blacklisted, .type, "app.B", "app.B", "app.B", 1⟩] := by
    rw [heal, hsorted]
    decide +kernel
  obtain ⟨hreplays, -, hrevision, hanswers, -⟩ := heal_logged (standard []) reports unreliable
  rw [hsorted] at hanswers
  generalize hhealed : heal (standard []) reports unreliable = healed at hrepairs hreplays hrevision hanswers
  obtain ⟨repairs, after⟩ := healed
  obtain rfl := hrepairs
  cases hreplays with
  | @next _ between _ _ _ hdeletion hrest =>
    cases hrest with
    | next hblacklisting hdone =>
      have hdeleted := hdeletion.effect.resolve_right fun h => by cases h.action
      have hlisted := hblacklisting.effect.resolve_left fun h => by cases h.action
      have hsame := hdone.sameContent
      have hafter : Repair.Blacklisted _ between after := ⟨hlisted.action, hlisted.kind, hsame.types.trans hlisted.types,
        hlisted.fresh, hsame.blacklist ▸ hlisted.blacklist, hsame.removed ▸ hlisted.removed⟩
      refine ⟨_, _, between, after, rfl, hdeleted, rfl, hafter, rfl, ?_, hrevision, hanswers⟩
      have hremoved := congrArg (·.2.removed) hhealed
      rw [← hremoved, heal, hsorted]
      decide +kernel

end Pipeline

end HotSchema
