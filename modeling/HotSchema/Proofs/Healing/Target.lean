import HotSchema.Healing.Pass
import HotSchema.Proofs.Roster
import Mathlib.Data.List.Basic
/-!
# What a repair strikes

A deletion takes out of one type all members of one kind and identifier, a blacklisting takes out a type.
These are the targets of repairs. For a plan there is a list of targets in the order in which the search
would come upon them; carrying the plan out strikes the first, if there is one. And striking a target
changes no list of targets but in that this one is gone from it.
-/

namespace HotSchema

/-- What a repair takes out of a schema. -/
inductive Target where
  /-- The members of a type that have a kind and an identifier. -/
  | members (type : String) (kind : EntityKind) (id : String)
  | type (name : String)
  deriving DecidableEq

def Entity.target (e : Entity) : Target := .members (e.owner.getD "") e.kind e.id

def Member.is (m : Member) (kind : EntityKind) (id : String) : Bool := m.kind = kind && m.id = id

def TypeModel.without (t : TypeModel) (kind : EntityKind) (id : String) : TypeModel :=
  { t with members := t.members.filter fun m => !m.is kind id }

namespace Schema

/-- The targets of a kind that go by a key, type by type. -/
def targets (s : Schema) (key : EntityKey) (kind : EntityKind) : List Target :=
  (s.types.toList.filter key.admits).flatMap fun t =>
    (t.members.filter fun m => m.kind = kind && key.fits m).map fun m => .members t.name kind m.id

def strike (s : Schema) : Target → Schema
  | .members type kind id =>
    match s.types.find? type with
    | none => s
    | some t => { s with types := s.types.insert (t.without kind id), revision := s.revision + 1 }
  | .type name => (s.addToBlacklist name).2

end Schema

def Plan.targets (s : Schema) : Plan → List Target
  | delete kinds key => kinds.flatMap (s.targets key)
  | blacklist name => if s.isBlacklisted name then [] else [.type name]

/-- A target is there because of a member that it takes out. -/
theorem Schema.exists_of_mem_targets {s : Schema} {key : EntityKey} {kind : EntityKind} {x : Target}
    (h : x ∈ s.targets key kind) :
    ∃ t ∈ s.types.toList, ∃ m ∈ t.members, x = .members t.name m.kind m.id := by
  obtain ⟨t, ht, hx⟩ := List.mem_flatMap.1 h
  obtain ⟨m, hm, rfl⟩ := List.mem_map.1 hx
  obtain ⟨hm, hfits⟩ := List.mem_filter.1 hm
  simp only [Bool.and_eq_true, decide_eq_true_eq] at hfits
  exact ⟨t, List.mem_of_mem_filter ht, m, hm, by rw [hfits.1]⟩

/-! ### The first target -/

/-- A search comes upon the first target. -/
theorem Transaction.target_find {s : Schema} {kind : EntityKind} (hkind : kind ≠ .type) (key : EntityKey) :
    (find ⟨s.types, []⟩ kind key).map Entity.target = (s.targets key kind).head? := by
  unfold find Schema.targets
  rw [if_neg hkind, List.map_findSome?, List.head?_flatMap]
  congr 1
  funext t
  rw [List.head?_map, List.head?_filter]
  rcases hfind : t.members.find? fun m => m.kind = kind && key.fits m with _ | m
  · simp [hfind]
  · have hm := List.find?_some hfind
    simp only [Bool.and_eq_true, decide_eq_true_eq] at hm
    simp [hfind, Entity.target, Member.entity, hm.1]

theorem Handler.target_findFirst {s : Schema} {kinds : List EntityKind} (hkinds : .type ∉ kinds)
    (key : EntityKey) :
    (findFirst ⟨s.types, []⟩ key kinds).map Entity.target = (kinds.flatMap (s.targets key)).head? := by
  induction kinds with
  | nil => rfl
  | cons kind rest ih =>
    rw [List.mem_cons, not_or] at hkinds
    have hfirst := Transaction.target_find (s := s) (Ne.symm hkinds.1) key
    rw [List.flatMap_cons, List.head?_append, ← hfirst, ← ih hkinds.2, findFirst]
    rcases Transaction.find ⟨s.types, []⟩ kind key <;> rfl

/-! ### Deletions -/

theorem Member.is_iff {m : Member} {kind : EntityKind} {id : String} :
    m.is kind id = true ↔ m.kind = kind ∧ m.id = id := by
  simp [Member.is]

theorem Transaction.find_eq_some {tx : Transaction} {kind : EntityKind} (hkind : kind ≠ .type)
    {key : EntityKey} {e : Entity} (h : tx.find kind key = some e) :
    e.kind = kind ∧ ∃ t ∈ tx.working.toList, e.owner = some t.name ∧ ∃ m ∈ t.members, m.is e.kind e.id := by
  unfold find at h
  rw [if_neg hkind] at h
  obtain ⟨t, ht, hfound⟩ := List.exists_of_findSome?_eq_some h
  obtain ⟨m, hm, rfl⟩ := Option.map_eq_some_iff.1 hfound
  have hfits := List.find?_some hm
  simp only [Bool.and_eq_true, decide_eq_true_eq] at hfits
  exact ⟨hfits.1, t, List.mem_of_mem_filter ht, rfl, m, List.mem_of_find?_eq_some hm, Member.is_iff.2 ⟨rfl, rfl⟩⟩

theorem Handler.findFirst_eq_some {tx : Transaction} {key : EntityKey} {kinds : List EntityKind}
    (hkinds : .type ∉ kinds) {e : Entity} (h : findFirst tx key kinds = some e) :
    e.kind ≠ .type ∧ ∃ t ∈ tx.working.toList, e.owner = some t.name ∧ ∃ m ∈ t.members, m.is e.kind e.id := by
  induction kinds with
  | nil => cases h
  | cons kind rest ih =>
    rw [List.mem_cons, not_or] at hkinds
    unfold findFirst at h
    split at h
    · next hfind =>
      cases h
      obtain ⟨hkind, hmember⟩ := Transaction.find_eq_some (Ne.symm hkinds.1) hfind
      exact ⟨hkind ▸ Ne.symm hkinds.1, hmember⟩
    · exact ih hkinds.2 h

theorem Transaction.delete_member {tx : Transaction} {e : Entity} {t : TypeModel} (hkind : e.kind ≠ .type)
    (ht : t ∈ tx.working.toList) (howner : e.owner = some t.name) (hmember : ∃ m ∈ t.members, m.is e.kind e.id) :
    tx.delete e = (.ok (), { tx with working := tx.working.insert (t.without e.kind e.id) }) := by
  have hfind : tx.ownerOf? e = some t := by
    rw [ownerOf?, howner, Option.bind_some]
    exact Roster.find?_of_mem ht
  have hshorter : (t.without e.kind e.id).members.length ≠ t.members.length := by
    obtain ⟨m, hm, his⟩ := hmember
    rw [TypeModel.without, Ne, List.length_filter_eq_length_iff]
    exact fun hall => by simpa [his] using hall m hm
  unfold delete
  rw [if_neg hkind, hfind]
  dsimp only
  exact if_neg hshorter

/-- A deletion strikes the first target, unless the transaction or its commit is to fail. -/
theorem Handler.deleteInTransaction_eq {kinds : List EntityKind} (hkinds : .type ∉ kinds) (s : Schema)
    (key : EntityKey) :
    deleteInTransaction s kinds key =
      if 0 < s.failingTransactions then
        (.error (.unavailable "injected failure"),
          { s with failingTransactions := s.failingTransactions - 1 })
      else
        match findFirst ⟨s.types, []⟩ key kinds with
        | none => (.ok none, s)
        | some e =>
          if 0 < s.failingCommits then
            (.error (.aborted "injected commit failure"), { s with failingCommits := s.failingCommits - 1 })
          else (.ok (some e), s.strike e.target) := by
  unfold deleteInTransaction Schema.begin
  by_cases hfails : 0 < s.failingTransactions
  · rw [if_pos hfails, if_pos hfails]
  · rw [if_neg hfails, if_neg hfails]
    dsimp only
    rcases hfirst : findFirst ⟨s.types, []⟩ key kinds with _ | e
    · rfl
    · obtain ⟨hkind, t, ht, howner, hmember⟩ := findFirst_eq_some hkinds hfirst
      have hfind : s.types.find? t.name = some t := Roster.find?_of_mem ht
      dsimp only
      rw [Transaction.delete_member hkind ht howner hmember]
      unfold Schema.commit
      dsimp only
      split_ifs
      · rfl
      · simp [Entity.target, howner, Schema.strike, hfind]

/-! ### Plans -/

namespace Handler

/-- A plan to delete goes by the identifier of the located entity, which is then of one of the kinds, or by a
name within the type of the token's unit. -/
def PlansDeletion (t : Token) (kinds : List EntityKind) (key : EntityKey) : Prop :=
  (∃ e, t.entity = some e ∧ e.kind ∈ kinds ∧ key = .byId e.id) ∨ ∃ name, key = .byName (some t.unit) name

/-- What is planned for a token: to delete something that is no type, or to blacklist the type that the token was
located in. -/
inductive Planned (t : Token) : Plan → Prop
  | deletion {kinds : List EntityKind} {key : EntityKey} (members : .type ∉ kinds) (keyed : PlansDeletion t kinds key) :
    Planned t (.delete kinds key)
  | blacklisting {e : EntityRef} (located : t.entity = some e) : Planned t (.blacklist e.owner)

section

variable {t : Token} {kinds : List EntityKind} {plan : Plan} (hkinds : .type ∉ kinds)
include hkinds

theorem planned_deleteNamed {symbol : Option String}
    (h : (symbol.map fun name => deleteNamed t name kinds) = some plan) : Planned t plan := by
  obtain ⟨name, -, rfl⟩ := Option.map_eq_some_iff.1 h
  exact .deletion hkinds (Or.inr ⟨name, rfl⟩)

theorem planned_byId {e : EntityRef} (he : t.entity = some e) (hkind : e.kind ∈ kinds) :
    Planned t (.delete kinds (.byId e.id)) :=
  .deletion hkinds (Or.inl ⟨e, he, hkind, rfl⟩)

theorem planned_deleteLocated {r : Recognition} (h : deleteLocated t kinds r = some plan) : Planned t plan := by
  unfold deleteLocated at h
  split at h
  · next e he =>
    split at h
    · next hkind =>
      cases h
      exact planned_byId hkinds he hkind
    · exact planned_deleteNamed hkinds h
  · exact planned_deleteNamed hkinds h

end

theorem planned {h : Handler} {t : Token} {plan : Plan} (hplan : h.plan t = some plan) : Planned t plan := by
  cases h with
  | legacySignature legacy =>
    unfold Handler.plan at hplan
    dsimp only at hplan
    split at hplan
    · next e he =>
      split_ifs at hplan with hkind hlisted
      · cases hplan
        exact planned_byId (by decide) he (List.mem_singleton.2 hkind)
      · exact planned_deleteNamed (by decide) hplan
    · exact planned_deleteNamed (by decide) hplan
  | unresolvedImport pattern =>
    obtain ⟨r, -, hplan⟩ := Option.bind_eq_some_iff.1 hplan
    split at hplan
    · next e he =>
      split_ifs at hplan with hkind
      · cases hplan
        exact .blacklisting he
      · exact planned_deleteLocated (by decide) hplan
    · exact planned_deleteLocated (by decide) hplan
  | duplicateDefinition pattern | baseSignatureClash pattern =>
    obtain ⟨r, -, hplan⟩ := Option.bind_eq_some_iff.1 hplan
    exact planned_deleteLocated (by decide) hplan
  | unknownSymbol pattern =>
    obtain ⟨r, -, hplan⟩ := Option.bind_eq_some_iff.1 hplan
    obtain ⟨e, he, hplan⟩ := Option.bind_eq_some_iff.1 hplan
    split_ifs at hplan with hkind
    cases hplan
    exact planned_byId (by decide) he (List.mem_singleton.2 hkind)

theorem plan_eq_delete {h : Handler} {t : Token} {kinds : List EntityKind} {key : EntityKey}
    (hplan : h.plan t = some (.delete kinds key)) : .type ∉ kinds ∧ PlansDeletion t kinds key := by
  cases planned hplan with
  | deletion hkinds hkeyed => exact ⟨hkinds, hkeyed⟩

/-- Only an import that does not resolve has a type blacklisted, the one whose own lines it was located in. -/
theorem plan_eq_blacklist {h : Handler} {t : Token} {name : String} (hplan : h.plan t = some (.blacklist name)) :
    ∃ e, t.entity = some e ∧ e.owner = name := by
  cases planned hplan with
  | blacklisting hlocated => exact ⟨_, hlocated, rfl⟩

end Handler

/-! ### How plans are carried out -/

/-- Everything is as it was, up to the failures that are still to come. -/
structure Schema.SameContent (s s' : Schema) : Prop where
  types : s'.types = s.types
  blacklist : s'.blacklist = s.blacklist
  removed : s'.removed = s.removed
  notifications : s'.notifications = s.notifications
  revision : s'.revision = s.revision

theorem Schema.SameContent.refl (s : Schema) : s.SameContent s := ⟨rfl, rfl, rfl, rfl, rfl⟩

/-- A deletion takes a transaction, which may fail; a blacklisting does not. -/
def Plan.deletes : Plan → Bool
  | delete _ _ => true
  | blacklist _ => false

def Target.action : Target → RepairAction
  | members _ _ _ => .deleted
  | type _ => .blacklisted

def Target.kind : Target → EntityKind
  | members _ kind _ => kind
  | type _ => .type

def Target.id : Target → String
  | members _ _ id => id
  | type name => name

/-- The repair tells what was struck, by which handler, and for which token. -/
structure Repair.Tells (r : Repair) (h : Handler) (t : Token) (x : Target) : Prop where
  handler : r.handler = h.label
  action : r.action = x.action
  kind : r.kind = x.kind
  target : r.target = x.id
  unit : r.unit = t.unit
  line : r.line = t.line

namespace Handler

/-- The ways in which a plan is carried out: its transaction or the commit of it fails, there is nothing to
strike, or the first target is struck. -/
inductive Carried (h : Handler) (t : Token) (plan : Plan) (s : Schema) : Option Repair × Schema → Prop
  | refused (deletes : plan.deletes = true) (fails : 0 < s.failingTransactions) :
    Carried h t plan s (none, { s with failingTransactions := s.failingTransactions - 1 })
  | nothing (begins : plan.deletes = true → s.failingTransactions = 0) (targets : plan.targets s = []) :
    Carried h t plan s (none, s)
  | aborted (deletes : plan.deletes = true) (begins : s.failingTransactions = 0) (targets : plan.targets s ≠ [])
    (fails : 0 < s.failingCommits) : Carried h t plan s (none, { s with failingCommits := s.failingCommits - 1 })
  | struck {repair : Repair} {x : Target} (begins : plan.deletes = true → s.failingTransactions = 0)
    (commits : plan.deletes = true → s.failingCommits = 0) (first : (plan.targets s).head? = some x)
    (tells : repair.Tells h t x) : Carried h t plan s (some repair, s.strike x)

theorem carried {h : Handler} {t : Token} {plan : Plan} (hplan : h.plan t = some plan) (s : Schema) :
    h.Carried t plan s (h.carryOut t plan s) := by
  cases plan with
  | blacklist name =>
    by_cases hlisted : s.isBlacklisted name = true
    · rw [show h.carryOut t (.blacklist name) s = (none, s) by simp [carryOut, Schema.addToBlacklist, hlisted]]
      exact .nothing (by simp [Plan.deletes]) (by simp [Plan.targets, hlisted])
    · have hstrike : h.carryOut t (.blacklist name) s =
          (some ⟨h.label, .blacklisted, .type, name, name, t.unit, t.line⟩, s.strike (.type name)) := by
        simp [carryOut, Schema.strike, Schema.addToBlacklist, hlisted]
      rw [hstrike]
      exact .struck (by simp [Plan.deletes]) (by simp [Plan.deletes]) (by simp [Plan.targets, hlisted])
        ⟨rfl, rfl, rfl, rfl, rfl, rfl⟩
  | delete kinds key =>
    have hkinds := (plan_eq_delete hplan).1
    have hhead : _ = (Plan.targets s (.delete kinds key)).head? := target_findFirst hkinds key
    unfold carryOut
    dsimp only
    rw [deleteInTransaction_eq hkinds]
    by_cases hbegin : 0 < s.failingTransactions
    · rw [if_pos hbegin]
      exact .refused rfl hbegin
    · rw [if_neg hbegin]
      have hbegins : s.failingTransactions = 0 := by omega
      rcases hfirst : findFirst ⟨s.types, []⟩ key kinds with _ | e <;> rw [hfirst] at hhead <;> dsimp only
      · exact .nothing (fun _ => hbegins) (List.head?_eq_none_iff.1 hhead.symm)
      · by_cases hcommit : 0 < s.failingCommits
        · rw [if_pos hcommit]
          refine .aborted rfl hbegins (fun hnone => ?_) hcommit
          rw [hnone] at hhead
          cases hhead
        · rw [if_neg hcommit]
          exact .struck (fun _ => hbegins) (fun _ => by omega) hhead.symm ⟨rfl, rfl, rfl, rfl, rfl, rfl⟩

/-- Carrying a plan out strikes its first target, or repairs nothing and leaves all types as they are. -/
theorem carryOut_cases {h : Handler} {t : Token} {plan : Plan} (hplan : h.plan t = some plan) (s : Schema) :
    (∃ repair target, (plan.targets s).head? = some target ∧
        h.carryOut t plan s = (some repair, s.strike target)) ∨
      ∃ s', h.carryOut t plan s = (none, s') ∧ s'.types = s.types ∧ s'.blacklist = s.blacklist ∧
        (s.failingTransactions = 0 → s.failingCommits = 0 → s' = s ∧ plan.targets s = []) := by
  have hcarried := carried hplan s
  generalize h.carryOut t plan s = outcome at hcarried
  cases hcarried with
  | refused _ hfails => exact Or.inr ⟨_, rfl, rfl, rfl, fun hzero => by omega⟩
  | nothing _ hnone => exact Or.inr ⟨s, rfl, rfl, rfl, fun _ _ => ⟨rfl, hnone⟩⟩
  | aborted _ _ _ hfails => exact Or.inr ⟨_, rfl, rfl, rfl, fun _ hzero => by omega⟩
  | struck _ _ hfirst _ => exact Or.inl ⟨_, _, hfirst, rfl⟩

end Handler

/-- A handler that does not recognize a token is passed over, one that repairs it ends the search, and else the
next ones are tried. -/
theorem Pipeline.healToken_cons (h : Handler) (rest : Pipeline) (t : Token) (s : Schema) :
    h.plan t = none ∧ healToken t (h :: rest) s = healToken t rest s ∨
      ∃ plan, h.plan t = some plan ∧
        ((∃ s', h.Carried t plan s (none, s') ∧ healToken t (h :: rest) s = healToken t rest s') ∨
          ∃ repair s', h.Carried t plan s (some repair, s') ∧ healToken t (h :: rest) s = (some repair, s')) := by
  rcases hplan : h.plan t with _ | plan
  · exact Or.inl ⟨rfl, by simp only [healToken, Handler.apply, hplan]⟩
  · have hcarried := Handler.carried hplan s
    rcases hrun : h.carryOut t plan s with ⟨_ | repair, s'⟩ <;> rw [hrun] at hcarried
    · exact Or.inr ⟨plan, rfl, Or.inl ⟨s', hcarried, by simp only [healToken, Handler.apply, hplan, hrun]⟩⟩
    · exact Or.inr ⟨plan, rfl, Or.inr ⟨repair, s', hcarried, by simp only [healToken, Handler.apply, hplan, hrun]⟩⟩

/-! ### What a strike leaves -/

theorem EntityKey.admits_without (key : EntityKey) (t : TypeModel) (kind : EntityKind) (id : String) :
    key.admits (t.without kind id) = key.admits t := by
  cases key <;> rfl

namespace Schema

theorem toList_types_strike {s : Schema} {t : TypeModel} (ht : s.types.find? t.name = some t)
    (kind : EntityKind) (id : String) :
    (s.strike (.members t.name kind id)).types.toList =
      s.types.toList.map fun u => if u.name = t.name then u.without kind id else u := by
  have hcontains : s.types.contains (Named.name (t.without kind id)) = true := by
    rw [← Roster.find?_isSome]
    exact Option.isSome_iff_exists.2 ⟨t, ht⟩
  simp only [strike, ht]
  rw [Roster.toList_insert_of_contains hcontains]
  refine List.map_congr_left fun u hu => ?_
  show (if u.name = t.name then t.without kind id else u) = _
  split_ifs with hname
  · have hfind : s.types.find? u.name = some u := Roster.find?_of_mem hu
    rw [hname, ht] at hfind
    rw [Option.some.inj hfind]
  · rfl

theorem targets_strike_members {s : Schema} {t : TypeModel} (ht : s.types.find? t.name = some t)
    (key : EntityKey) (kind kind' : EntityKind) (id : String) :
    (s.strike (.members t.name kind' id)).targets key kind =
      (s.targets key kind).filter (· ≠ .members t.name kind' id) := by
  have hadmits : (key.admits ∘ fun u : TypeModel => if u.name = t.name then u.without kind' id else u) =
      key.admits := by
    funext u
    rw [Function.comp_apply]
    split_ifs
    · exact key.admits_without u kind' id
    · rfl
  unfold targets
  rw [toList_types_strike ht, List.filter_map, hadmits, List.flatMap_map, List.filter_flatMap]
  refine List.flatMap_congr fun u _ => ?_
  by_cases hname : u.name = t.name
  · rw [if_pos hname, TypeModel.without, List.filter_filter, List.filter_map, List.filter_filter]
    dsimp only
    congr 1
    refine List.filter_congr fun m _ => ?_
    by_cases hkind : m.kind = kind <;> simp [hname, hkind, Member.is, Bool.and_comm]
  · rw [if_neg hname]
    refine (List.filter_eq_self.2 fun y hy => ?_).symm
    obtain ⟨m, -, rfl⟩ := List.mem_map.1 hy
    simp [hname]

/-- Striking a target takes it off the list, and changes nothing else about it. -/
theorem targets_strike (s : Schema) (key : EntityKey) (kind : EntityKind) (x : Target) :
    (s.strike x).targets key kind = (s.targets key kind).filter (· ≠ x) := by
  have hsame (hother : ∀ t ∈ s.types.toList, ∀ id, Target.members t.name kind id ≠ x) :
      (s.targets key kind).filter (· ≠ x) = s.targets key kind := by
    refine List.filter_eq_self.2 fun y hy => ?_
    obtain ⟨t, ht, hy⟩ := List.mem_flatMap.1 hy
    obtain ⟨m, -, rfl⟩ := List.mem_map.1 hy
    exact decide_eq_true (hother t (List.mem_of_mem_filter ht) m.id)
  cases x with
  | type name =>
    rw [hsame (by simp)]
    unfold strike addToBlacklist
    dsimp only
    split_ifs <;> rfl
  | members type kind' id =>
    rcases hfind : s.types.find? type with _ | t
    · rw [strike, hfind, hsame]
      intro t ht id' heq
      cases heq
      exact Roster.find?_eq_none_iff.1 hfind (Roster.mem_names_iff.2 ⟨t, ht, rfl⟩)
    · obtain rfl : t.name = type := Roster.name_of_find? hfind
      exact targets_strike_members hfind key kind kind' id

theorem isBlacklisted_strike (s : Schema) (x : Target) (name : String) :
    (s.strike x).isBlacklisted name = (s.isBlacklisted name || decide (x = .type name)) := by
  cases x with
  | members type kind id =>
    rw [strike]
    split
    · simp
    · simp
      rfl
  | type other =>
    unfold strike addToBlacklist isBlacklisted
    dsimp only
    by_cases hlisted : s.blacklist.contains other = true
    · rw [if_pos hlisted]
      by_cases hname : other = name
      · subst hname
        simp [hlisted]
      · simp [hname]
    · rw [if_neg hlisted, Bool.eq_iff_iff]
      simp only [Roster.contains_iff, Roster.mem_names_insert, Bool.or_eq_true, decide_eq_true_eq,
        Target.type.injEq]
      rw [or_comm, eq_comm]
      rfl

end Schema

theorem Plan.targets_strike (p : Plan) (s : Schema) (x : Target) :
    p.targets (s.strike x) = (p.targets s).filter (· ≠ x) := by
  cases p with
  | delete kinds key =>
    unfold targets
    dsimp only
    rw [List.filter_flatMap]
    exact List.flatMap_congr fun kind _ => s.targets_strike key kind x
  | blacklist name =>
    unfold targets
    dsimp only
    rw [s.isBlacklisted_strike]
    by_cases hlisted : s.isBlacklisted name = true
    · simp [hlisted]
    · by_cases hx : x = .type name
      · simp [hx, hlisted]
      · simp [hx, hlisted, Ne.symm hx]

end HotSchema
