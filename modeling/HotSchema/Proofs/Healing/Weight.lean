import HotSchema.Proofs.Healing.Target
import HotSchema.Proofs.Schema.Tracking
import Mathlib.Algebra.Order.BigOperators.Group.List
import Mathlib.Algebra.Order.Group.Nat
/-!
# What is left to repair

The weight of a schema is the number of its members and of its live types. A repair takes members away, or
takes a type from the live ones, so the schema gets lighter by at least one with each repair: whatever the
handlers, whatever the tokens say, as long as the entities that they were located at belong to types of the
schema. A repair never adds or drops a type, so that goes on to hold.
-/

namespace HotSchema

namespace Schema

/-- The members of all types, blacklisted ones too. -/
def members (s : Schema) : List Member := s.types.toList.flatMap TypeModel.members

def weight (s : Schema) : Nat := s.members.length + s.live.length

theorem weight_congr {s s' : Schema} (htypes : s'.types = s.types) (hblacklist : s'.blacklist = s.blacklist) :
    s'.weight = s.weight := by
  unfold weight members live isBlacklisted
  rw [htypes, hblacklist]

/-- The second schema has the same types by name, and is lighter by at least a number. -/
structure Lightens (s s' : Schema) (n : Nat) : Prop where
  names : s'.types.names = s.types.names
  weight : s'.weight + n ≤ s.weight

theorem Lightens.of_eq {s s' : Schema} (htypes : s'.types = s.types) (hblacklist : s'.blacklist = s.blacklist) :
    s.Lightens s' 0 where
  names := by rw [htypes]
  weight := (weight_congr htypes hblacklist).le

theorem Lightens.trans {s₁ s₂ s₃ : Schema} {m n : Nat} (h₁ : s₁.Lightens s₂ m) (h₂ : s₂.Lightens s₃ n) :
    s₁.Lightens s₃ (m + n) where
  names := h₂.names.trans h₁.names
  weight := by
    have hfirst := h₁.weight
    have hsecond := h₂.weight
    omega

/-! ### Strikes -/

/-- The schema has what the target takes out: members, or a live type. -/
def Has (s : Schema) : Target → Prop
  | .members type kind id => ∃ t ∈ s.types.toList, t.name = type ∧ ∃ m ∈ t.members, m.is kind id = true
  | .type name => name ∈ s.liveNames

theorem length_without_lt {t : TypeModel} {kind : EntityKind} {id : String}
    (hm : ∃ m ∈ t.members, m.is kind id = true) : (t.without kind id).members.length < t.members.length := by
  obtain ⟨m, hm, his⟩ := hm
  exact List.length_filter_lt_length_iff_exists.2 ⟨m, hm, by simp [his]⟩

theorem lightens_strike_members {s : Schema} {t : TypeModel} (ht : t ∈ s.types.toList) {kind : EntityKind}
    {id : String} (hm : ∃ m ∈ t.members, m.is kind id = true) :
    s.Lightens (s.strike (.members t.name kind id)) 1 := by
  have hfind : s.types.find? t.name = some t := Roster.find?_of_mem ht
  let struck (u : TypeModel) : TypeModel := if u.name = t.name then u.without kind id else u
  have hname (u : TypeModel) : (struck u).name = u.name := by
    show (if _ then _ else _ : TypeModel).name = _
    split <;> rfl
  have htypes : (s.strike (.members t.name kind id)).types.toList = s.types.toList.map struck :=
    toList_types_strike hfind kind id
  have hblacklist : (s.strike (.members t.name kind id)).blacklist = s.blacklist := by
    rw [strike, hfind]
  -- As many types are live as before, and one of them has fewer members.
  have hlive : (s.strike (.members t.name kind id)).live.length = s.live.length := by
    unfold live isBlacklisted
    rw [htypes, hblacklist, List.filter_map, List.length_map]
    simp only [Function.comp_def, hname]
  have hcount : (s.strike (.members t.name kind id)).members.length < s.members.length := by
    unfold members
    rw [htypes, List.flatMap_map, List.length_flatMap, List.length_flatMap]
    refine List.sum_lt_sum _ _ (fun u _ => ?_) ⟨t, ht, ?_⟩
    · show (if _ then _ else _ : TypeModel).members.length ≤ _
      split
      · exact List.length_filter_le _ _
      · exact Nat.le_refl _
    · show (if _ then _ else _ : TypeModel).members.length < _
      rw [if_pos rfl]
      exact length_without_lt hm
  refine ⟨?_, ?_⟩
  · rw [Roster.names, htypes, List.map_map]
    exact List.map_congr_left fun u _ => hname u
  · unfold weight
    omega

theorem lightens_strike_type {s : Schema} {name : String} (hlive : name ∈ s.liveNames) :
    s.Lightens (s.strike (.type name)) 1 := by
  obtain ⟨hname, hlisted⟩ := mem_liveNames.1 hlive
  have hlisted : s.isBlacklisted name = false := by
    rwa [← Bool.not_eq_true, isBlacklisted, Roster.contains_iff]
  have htypes : (s.strike (.type name)).types = s.types := by
    unfold strike addToBlacklist
    dsimp only
    split <;> rfl
  have hfewer : (s.strike (.type name)).live.length < s.live.length := by
    have hsplit : (s.strike (.type name)).live = s.live.filter fun t => t.name ≠ name := by
      unfold live
      rw [htypes, List.filter_filter]
      refine List.filter_congr fun t _ => ?_
      rw [s.isBlacklisted_strike]
      by_cases heq : t.name = name
      · simp [heq]
      · simp [heq, Ne.symm heq]
    obtain ⟨t, ht, htname⟩ := List.mem_map.1 hlive
    rw [hsplit]
    exact List.length_filter_lt_length_iff_exists.2 ⟨t, ht, by simp [htname]⟩
  refine ⟨by rw [htypes], ?_⟩
  unfold weight members
  rw [htypes]
  omega

theorem Has.lightens {s : Schema} {x : Target} (h : s.Has x) : s.Lightens (s.strike x) 1 := by
  cases x with
  | members type kind id =>
    obtain ⟨t, ht, rfl, hm⟩ := h
    exact lightens_strike_members ht hm
  | type name => exact lightens_strike_type h

theorem has_of_mem_targets {s : Schema} {key : EntityKey} {kind : EntityKind} {x : Target}
    (h : x ∈ s.targets key kind) : s.Has x := by
  obtain ⟨t, ht, m, hm, rfl⟩ := exists_of_mem_targets h
  exact ⟨t, ht, rfl, m, hm, Member.is_iff.2 ⟨rfl, rfl⟩⟩

/-- The entity that a token was located at belongs to a type of the schema. -/
def Owns (s : Schema) (t : Token) : Prop := ∀ e, t.entity = some e → e.owner ∈ s.types.names

end Schema

/-! ### Healing -/

theorem Handler.has_of_mem_targets {h : Handler} {t : Token} {plan : Plan} (hplan : h.plan t = some plan)
    {s : Schema} (howns : s.Owns t) {x : Target} (hx : x ∈ plan.targets s) : s.Has x := by
  cases plan with
  | delete kinds key =>
    obtain ⟨kind, -, hx⟩ := List.mem_flatMap.1 hx
    exact Schema.has_of_mem_targets hx
  | blacklist name =>
    obtain ⟨e, he, rfl⟩ := plan_eq_blacklist hplan
    unfold Plan.targets at hx
    dsimp only at hx
    split at hx
    · simp at hx
    · next hlisted =>
      rw [List.mem_singleton.1 hx]
      rw [Schema.isBlacklisted, Roster.contains_iff] at hlisted
      exact Schema.mem_liveNames.2 ⟨howns e he, hlisted⟩

theorem Handler.lightens_apply (h : Handler) {t : Token} {s : Schema} (howns : s.Owns t) :
    s.Lightens (h.apply t s).2 (h.apply t s).1.toList.length := by
  unfold apply
  rcases hplan : h.plan t with _ | plan
  · exact .of_eq rfl rfl
  · dsimp only
    rcases carryOut_cases hplan s with ⟨repair, x, hhead, hrun⟩ | ⟨s', hrun, htypes, hblacklist, -⟩ <;> rw [hrun]
    · exact (has_of_mem_targets hplan howns (List.mem_of_mem_head? hhead)).lightens
    · exact .of_eq htypes hblacklist

namespace Pipeline

theorem lightens_healToken (p : Pipeline) {t : Token} {s : Schema} (howns : s.Owns t) :
    s.Lightens (healToken t p s).2 (healToken t p s).1.toList.length := by
  induction p generalizing s with
  | nil => exact .of_eq rfl rfl
  | cons h rest ih =>
    have hfirst := h.lightens_apply howns
    unfold healToken
    rcases happly : h.apply t s with ⟨_ | repair, s'⟩ <;> rw [happly] at hfirst
    · have hrest := ih fun e he => hfirst.names ▸ howns e he
      simpa using hfirst.trans hrest
    · exact hfirst

theorem lightens_healInOrder (p : Pipeline) {tokens : List Token} {s : Schema}
    (howns : ∀ t ∈ tokens, s.Owns t) :
    s.Lightens (p.healInOrder tokens s).2 (p.healInOrder tokens s).1.length := by
  induction tokens generalizing s with
  | nil => exact .of_eq rfl rfl
  | cons t rest ih =>
    obtain ⟨ht, hrest⟩ := List.forall_mem_cons.1 howns
    have hfirst := p.lightens_healToken ht
    have hothers := ih fun other hother e he => hfirst.names ▸ hrest other hother e he
    have hboth := hfirst.trans hothers
    rwa [← List.length_append] at hboth

/-- A healing pass makes the schema lighter by at least one for each repair. -/
theorem lightens_heal (p : Pipeline) {tokens : List Token} {s : Schema} (howns : ∀ t ∈ tokens, s.Owns t) :
    s.Lightens (p.heal tokens s).2 (p.heal tokens s).1.length :=
  p.lightens_healInOrder fun t ht => howns t (List.mem_mergeSort.1 ht)

end Pipeline

end HotSchema
