import HotSchema.Proofs.Healing.Target
/-!
# Healing twice

A healing pass strikes for each token the first target that still stands, of all that the token's handlers
plan for in their order. So a second pass over the same tokens finds a target for a token wherever the first
pass left one standing: it repairs nothing exactly if the first has struck every target of every token.
-/

namespace HotSchema

/-! ### The targets of a token -/

/-- What a handler would strike for a token, first target first. -/
def Handler.targets (h : Handler) (s : Schema) (t : Token) : List Target :=
  match h.plan t with
  | none => []
  | some plan => plan.targets s

def Pipeline.targets (p : Pipeline) (s : Schema) (t : Token) : List Target := p.flatMap (·.targets s t)

/-- No transaction and no commit of the schema is to fail. -/
structure Schema.Reliable (s : Schema) : Prop where
  transactions : s.failingTransactions = 0
  commits : s.failingCommits = 0

theorem Schema.Reliable.strike {s : Schema} (h : s.Reliable) (x : Target) : (s.strike x).Reliable := by
  cases x with
  | members type kind id =>
    unfold Schema.strike
    dsimp only
    split
    · exact h
    · exact ⟨h.transactions, h.commits⟩
  | type name =>
    unfold Schema.strike Schema.addToBlacklist
    dsimp only
    split
    · exact h
    · exact ⟨h.transactions, h.commits⟩

theorem Handler.targets_strike (h : Handler) (s : Schema) (t : Token) (x : Target) :
    h.targets (s.strike x) t = (h.targets s t).filter (· ≠ x) := by
  unfold targets
  split
  · rfl
  · exact Plan.targets_strike _ s x

theorem Pipeline.targets_strike (p : Pipeline) (s : Schema) (t : Token) (x : Target) :
    p.targets (s.strike x) t = (p.targets s t).filter (· ≠ x) := by
  unfold targets
  rw [List.filter_flatMap]
  exact List.flatMap_congr fun h _ => h.targets_strike s t x

/-- A handler strikes its first target for a token, or it has none and changes nothing. -/
theorem Handler.apply_cases (h : Handler) (t : Token) {s : Schema} (hs : s.Reliable) :
    (∃ repair x, (h.targets s t).head? = some x ∧ h.apply t s = (some repair, s.strike x)) ∨
      h.targets s t = [] ∧ h.apply t s = (none, s) := by
  unfold targets apply
  rcases hplan : h.plan t with _ | plan
  · exact Or.inr ⟨rfl, rfl⟩
  · rcases carryOut_cases hplan s with ⟨repair, x, hhead, hrun⟩ | ⟨s', hrun, -, -, hnone⟩
    · exact Or.inl ⟨repair, x, hhead, hrun⟩
    · obtain ⟨rfl, htargets⟩ := hnone hs.transactions hs.commits
      exact Or.inr ⟨htargets, hrun⟩

namespace Pipeline

theorem healToken_cases (t : Token) (p : Pipeline) {s : Schema} (hs : s.Reliable) :
    (∃ repair x, (p.targets s t).head? = some x ∧ healToken t p s = (some repair, s.strike x)) ∨
      p.targets s t = [] ∧ healToken t p s = (none, s) := by
  induction p with
  | nil => exact Or.inr ⟨rfl, rfl⟩
  | cons h rest ih =>
    have htargets : targets (h :: rest) s t = h.targets s t ++ targets rest s t := List.flatMap_cons
    rw [htargets]
    unfold healToken
    rcases h.apply_cases t hs with ⟨repair, x, hhead, happly⟩ | ⟨hnone, happly⟩ <;> rw [happly]
    · exact Or.inl ⟨repair, x, by rw [List.head?_append, hhead, Option.some_or], rfl⟩
    · rw [hnone, List.nil_append]
      exact ih

/-! ### A pass -/

/-- What a pass strikes: for each list of targets the first that is not struck yet. -/
def struck (gone : List Target) : List (List Target) → List Target
  | [] => gone
  | targets :: rest =>
    match targets.find? (· ∉ gone) with
    | none => struck gone rest
    | some x => struck (x :: gone) rest

/-- The schema has the targets that another had, without those that are gone. -/
structure Lacks (p : Pipeline) (s₀ s : Schema) (gone : List Target) : Prop where
  reliable : s.Reliable
  targets : ∀ t, p.targets s t = (p.targets s₀ t).filter (· ∉ gone)

theorem Lacks.refl {p : Pipeline} {s : Schema} (hs : s.Reliable) : p.Lacks s s [] where
  reliable := hs
  targets := by simp

theorem Lacks.strike {p : Pipeline} {s₀ s : Schema} {gone : List Target} (h : p.Lacks s₀ s gone) (x : Target) :
    p.Lacks s₀ (s.strike x) (x :: gone) where
  reliable := h.reliable.strike x
  targets := by
    intro t
    rw [targets_strike, h.targets, List.filter_filter]
    simp

theorem Lacks.healInOrder {p : Pipeline} {s₀ s : Schema} {gone : List Target} (h : p.Lacks s₀ s gone)
    (tokens : List Token) :
    p.Lacks s₀ (p.healInOrder tokens s).2 (struck gone (tokens.map (p.targets s₀))) := by
  induction tokens generalizing s gone with
  | nil => exact h
  | cons t rest ih =>
    have hfirst : (p.targets s t).head? = (p.targets s₀ t).find? (· ∉ gone) := by
      rw [h.targets, List.head?_filter]
    rw [List.map_cons, struck, ← hfirst]
    unfold Pipeline.healInOrder
    rcases healToken_cases t p h.reliable with ⟨repair, x, hhead, htoken⟩ | ⟨hnone, htoken⟩
    · rw [htoken, hhead]
      exact ih (h.strike x)
    · rw [htoken, hnone]
      exact ih h

theorem healInOrder_eq_nil_iff (p : Pipeline) (tokens : List Token) {s : Schema} (hs : s.Reliable) :
    p.healInOrder tokens s = ([], s) ↔ ∀ t ∈ tokens, p.targets s t = [] := by
  induction tokens with
  | nil => simp [healInOrder]
  | cons t rest ih =>
    unfold healInOrder
    rcases healToken_cases t p hs with ⟨repair, x, hhead, htoken⟩ | ⟨hnone, htoken⟩
    · rw [htoken]
      constructor
      · intro heq
        have hrepairs := congrArg Prod.fst heq
        simp at hrepairs
      · intro hall
        rw [hall t List.mem_cons_self] at hhead
        cases hhead
    · rw [htoken, List.forall_mem_cons, ← ih]
      simp [hnone, Prod.ext_iff]

/-- A second pass over the same tokens repairs nothing, and leaves the schema as it is, exactly if the first
has struck every target of every token. -/
theorem second_heal_iff {s : Schema} (hs : s.Reliable) (legacy : LegacySignatures) (tokens : List Token) :
    let p := standard legacy
    p.heal tokens (p.heal tokens s).2 = ([], (p.heal tokens s).2) ↔
      ∀ t ∈ tokens, ∀ x ∈ p.targets s t, x ∈ struck [] ((tokens.mergeSort Token.before).map (p.targets s)) := by
  intro p
  have hlacks := (Lacks.refl (p := p) hs).healInOrder (tokens.mergeSort Token.before)
  show p.healInOrder _ (p.healInOrder _ s).2 = _ ↔ _
  rw [heal, healInOrder_eq_nil_iff p _ hlacks.reliable]
  simp only [List.mem_mergeSort, hlacks.targets, List.filter_eq_nil_iff, decide_eq_true_eq, not_not]

def totals (ids : List String) : Schema :=
  Schema.empty.upsert ⟨"app.Order", "type Order", ids.map fun id => ⟨.property, id, "total", "total: int"⟩⟩

/-- A duplicate definition that names the properties and was located nowhere. -/
def duplicateTotal : Token :=
  Token.correlate ⟨.error, "app.Order", 0, "duplicate definition of `total`", some .duplicateDefinition⟩ none

/-- A single property goes in the first pass, and the second finds none. -/
theorem second_heal_finds_nothing :
    (totals ["p1"]).Reliable ∧ ((standard []).heal [duplicateTotal] (totals ["p1"])).1 ≠ [] ∧
      (standard []).heal [duplicateTotal] ((standard []).heal [duplicateTotal] (totals ["p1"])).2 =
        ([], ((standard []).heal [duplicateTotal] (totals ["p1"])).2) := by
  refine ⟨⟨rfl, rfl⟩, ?_, (second_heal_iff ⟨rfl, rfl⟩ [] [duplicateTotal]).2 ?_⟩
  · rw [heal, List.mergeSort_singleton]
    exact List.cons_ne_nil _ _
  · have htargets : (standard []).targets (totals ["p1"]) duplicateTotal =
      [.members "app.Order" .property "p1"] := rfl
    rw [List.mergeSort_singleton, List.map_singleton, htargets]
    intro t ht x hx
    rw [List.mem_singleton.1 ht, htargets] at hx
    exact hx

/-- Of two properties each pass takes one. -/
theorem second_heal_repairs_again :
    (totals ["p1", "p2"]).Reliable ∧
      ((standard []).heal [duplicateTotal]
        ((standard []).heal [duplicateTotal] (totals ["p1", "p2"])).2).1 ≠ [] ∧
      ((standard []).heal [duplicateTotal]
        ((standard []).heal [duplicateTotal] (totals ["p1", "p2"])).2).2.revision ≠
      ((standard []).heal [duplicateTotal] (totals ["p1", "p2"])).2.revision := by
  refine ⟨⟨rfl, rfl⟩, ?_, ?_⟩ <;> rw [heal, heal, List.mergeSort_singleton]
  · exact List.cons_ne_nil _ _
  · decide

end Pipeline

end HotSchema
