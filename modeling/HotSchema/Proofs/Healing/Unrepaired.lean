import HotSchema.Proofs.Healing.Target
/-!
# Tokens whose transaction failed

When the transaction of a handler fails, the handlers behind it are tried as if it had found nothing. So the
token is left unrepaired only if none of those repairs it either: each of their blacklistings names a type that
is on the blacklist already, and of their deletions those that come after the failing transactions and still
have something to strike are no more than the commits that are to fail.
-/

namespace HotSchema

/-- The plans of the handlers that recognize a token, in their order. -/
def Pipeline.plans (p : Pipeline) (t : Token) : List Plan := p.filterMap (·.plan t)

namespace Schema

/-- How many of the planned deletions are not refused a transaction and have something to strike. -/
def pendingDeletions (s : Schema) (plans : List Plan) : Nat :=
  ((plans.filter Plan.deletes).drop s.failingTransactions).countP (·.targets s ≠ [])

/-- Nothing comes of any of the plans: no type is left to blacklist, and the deletions run out of transactions
and commits. -/
structure Thwarts (s : Schema) (plans : List Plan) : Prop where
  blacklistings : ∀ plan ∈ plans, plan.deletes = false → plan.targets s = []
  deletions : s.pendingDeletions plans ≤ s.failingCommits

end Schema

theorem Plan.targets_congr {s s' : Schema} (h : s.SameContent s') (plan : Plan) :
    plan.targets s' = plan.targets s := by
  cases plan with
  | delete kinds key =>
    have hsame : s'.targets key = s.targets key := by
      funext kind
      rw [Schema.targets, Schema.targets, h.types]
    rw [targets, targets, hsame]
  | blacklist name =>
    have hsame : s'.isBlacklisted name = s.isBlacklisted name := by
      rw [Schema.isBlacklisted, Schema.isBlacklisted, h.blacklist]
    rw [targets, targets, hsame]

namespace Schema

theorem SameContent.trans {s₁ s₂ s₃ : Schema} (h₁ : s₁.SameContent s₂) (h₂ : s₂.SameContent s₃) :
    s₁.SameContent s₃ where
  types := h₂.types.trans h₁.types
  blacklist := h₂.blacklist.trans h₁.blacklist
  removed := h₂.removed.trans h₁.removed
  notifications := h₂.notifications.trans h₁.notifications
  revision := h₂.revision.trans h₁.revision

theorem thwarts_nil (s : Schema) : s.Thwarts [] := ⟨by simp, by simp [pendingDeletions]⟩

end Schema

namespace Handler

theorem Carried.sameContent {h : Handler} {t : Token} {plan : Plan} {s s' : Schema}
    (hcarried : h.Carried t plan s (none, s')) : s.SameContent s' := by
  cases hcarried <;> exact ⟨rfl, rfl, rfl, rfl, rfl⟩

theorem Carried.targets_of_not_deletes {h : Handler} {t : Token} {plan : Plan} {s s' : Schema}
    (hcarried : h.Carried t plan s (none, s')) (hblacklists : plan.deletes = false) : plan.targets s = [] := by
  cases hcarried with
  | refused hdeletes | aborted hdeletes => cases hdeletes.symm.trans hblacklists
  | nothing _ hnone => exact hnone

/-- A deletion that comes to nothing has used up a failing transaction, or a failing commit if it was pending. -/
theorem Carried.pendingDeletions_cons {h : Handler} {t : Token} {plan : Plan} {s s' : Schema}
    (hcarried : h.Carried t plan s (none, s')) (plans : List Plan) :
    s.pendingDeletions (plan :: plans) + s'.failingCommits = s'.pendingDeletions plans + s.failingCommits := by
  have htargets := Plan.targets_congr hcarried.sameContent
  unfold Schema.pendingDeletions
  rw [funext htargets]
  cases hcarried with
  | refused hdeletes hfails => rw [List.filter_cons_of_pos hdeletes, List.drop_cons hfails]
  | nothing hbegins hnone =>
    by_cases hdeletes : plan.deletes = true
    · rw [List.filter_cons_of_pos hdeletes, hbegins hdeletes, List.drop_zero, List.drop_zero,
        List.countP_cons_of_neg (by simp [hnone])]
    · rw [List.filter_cons_of_neg hdeletes]
  | aborted hdeletes hbegins hsome hfails =>
    rw [List.filter_cons_of_pos hdeletes, hbegins, List.drop_zero, List.drop_zero,
      List.countP_cons_of_pos (by simpa using hsome)]
    dsimp only
    omega

/-- A plan that comes to nothing leaves the others with the failures that are left. -/
theorem Carried.thwarts_cons_iff {h : Handler} {t : Token} {plan : Plan} {s s' : Schema}
    (hcarried : h.Carried t plan s (none, s')) (plans : List Plan) :
    s.Thwarts (plan :: plans) ↔ s'.Thwarts plans := by
  have hpending := hcarried.pendingDeletions_cons plans
  have htargets := Plan.targets_congr hcarried.sameContent
  constructor
  · rintro ⟨hblacklistings, hdeletions⟩
    refine ⟨fun other hother => ?_, by omega⟩
    rw [htargets]
    exact hblacklistings other (List.mem_cons_of_mem _ hother)
  · rintro ⟨hblacklistings, hdeletions⟩
    refine ⟨List.forall_mem_cons.2 ⟨hcarried.targets_of_not_deletes, fun other hother => ?_⟩, by omega⟩
    rw [← htargets]
    exact hblacklistings other hother

theorem Carried.not_thwarts {h : Handler} {t : Token} {plan : Plan} {s s' : Schema} {repair : Repair}
    (hcarried : h.Carried t plan s (some repair, s')) (plans : List Plan) : ¬ s.Thwarts (plan :: plans) := by
  rintro ⟨hblacklistings, hdeletions⟩
  cases hcarried with
  | struck hbegins hcommits hfirst htells =>
    have hsome : plan.targets s ≠ [] := by
      intro hnone
      rw [hnone] at hfirst
      cases hfirst
    rcases hdeletes : plan.deletes with _ | _
    · exact hsome (hblacklistings plan List.mem_cons_self hdeletes)
    · rw [Schema.pendingDeletions, List.filter_cons_of_pos hdeletes, hbegins hdeletes, hcommits hdeletes,
        List.drop_zero, List.countP_cons_of_pos (by simpa using hsome)] at hdeletions
      omega

end Handler

namespace Pipeline

theorem plans_cons_of_none {h : Handler} {t : Token} (hplan : h.plan t = none) (rest : Pipeline) :
    plans (h :: rest) t = plans rest t := by
  simp [plans, hplan]

theorem plans_cons_of_some {h : Handler} {t : Token} {plan : Plan} (hplan : h.plan t = some plan)
    (rest : Pipeline) : plans (h :: rest) t = plan :: plans rest t := by
  simp [plans, hplan]

/-- The handlers repair nothing for a token exactly if nothing comes of any of their plans. -/
theorem healToken_eq_none_iff (t : Token) (p : Pipeline) (s : Schema) :
    (healToken t p s).1 = none ↔ s.Thwarts (p.plans t) := by
  induction p generalizing s with
  | nil => exact iff_of_true rfl s.thwarts_nil
  | cons h rest ih =>
    rcases healToken_cons h rest t s with
      ⟨hplan, heal⟩ | ⟨plan, hplan, ⟨s', hcarried, heal⟩ | ⟨repair, s', hcarried, heal⟩⟩
    · rw [heal, plans_cons_of_none hplan]
      exact ih s
    · rw [heal, plans_cons_of_some hplan, hcarried.thwarts_cons_iff]
      exact ih s'
    · rw [heal, plans_cons_of_some hplan]
      exact iff_of_false (by simp) (hcarried.not_thwarts _)

theorem sameContent_healToken {t : Token} {p : Pipeline} {s : Schema} (hnone : (healToken t p s).1 = none) :
    s.SameContent (healToken t p s).2 := by
  induction p generalizing s with
  | nil => exact .refl s
  | cons h rest ih =>
    rcases healToken_cons h rest t s with
      ⟨hplan, heal⟩ | ⟨plan, hplan, ⟨s', hcarried, heal⟩ | ⟨repair, s', hcarried, heal⟩⟩ <;>
      rw [heal] at hnone ⊢
    · exact ih hnone
    · exact hcarried.sameContent.trans (ih hnone)
    · cases hnone

theorem healToken_of_not_recognizes {t : Token} {before : Pipeline}
    (hbefore : ∀ other ∈ before, other.recognizes t = false) (rest : Pipeline) (s : Schema) :
    healToken t (before ++ rest) s = healToken t rest s := by
  induction before with
  | nil => rfl
  | cons other before ih =>
    obtain ⟨hother, hbefore⟩ := List.forall_mem_cons.1 hbefore
    have hplan : other.plan t = none := by simpa [Handler.recognizes] using hother
    have happly : other.apply t s = (none, s) := by rw [Handler.apply, hplan]
    rw [List.cons_append, healToken, happly]
    exact ih hbefore

/-- When the transaction of the first handler that recognizes a token fails, the token is left unrepaired and
the schema as it was exactly if the failures that are left keep the handlers behind that one from a repair too. -/
theorem failed_transaction_unrepaired_iff (legacy : LegacySignatures) {t : Token} {s s' : Schema}
    {before after : Pipeline} {h : Handler} (hsplit : standard legacy = before ++ h :: after)
    (hbefore : ∀ other ∈ before, other.recognizes t = false) {kinds : List EntityKind} {key : EntityKey}
    (hplan : h.plan t = some (.delete kinds key)) {error : RepositoryError}
    (hfails : Handler.deleteInTransaction s kinds key = (.error error, s')) :
    (healToken t (standard legacy) s).1 = none ∧ s.SameContent (healToken t (standard legacy) s).2 ↔
      s'.Thwarts (after.plans t) := by
  have hrun : h.carryOut t (.delete kinds key) s = (none, s') := by simp only [Handler.carryOut, hfails]
  have hnext : healToken t (standard legacy) s = healToken t after s' := by
    rw [hsplit, healToken_of_not_recognizes hbefore]
    simp only [healToken, Handler.apply, hplan, hrun]
  have hsame : s.SameContent s' := (hrun ▸ Handler.carried hplan s).sameContent
  rw [hnext, ← healToken_eq_none_iff]
  exact and_iff_left_of_imp fun hnone => hsame.trans (sameContent_healToken hnone)

/-! ### A method on the list and a property of its name -/

/-- A property and a method of one name, with a number of transactions that are to fail. -/
def totalTwice (failing : Nat) : Schema :=
  { Schema.empty.upsert ⟨"app.Order", "type Order",
      [⟨.property, "p", "total", "total: int"⟩, ⟨.method, "m", "total", "total()"⟩]⟩ with
    failingTransactions := failing }

def unlocatedDuplicate : Token :=
  Token.correlate ⟨.error, "app.Order", 0, "duplicate definition of `total`", some .duplicateDefinition⟩ none

def totalListed : LegacySignatures := [⟨none, "total"⟩]

/-- When the transactions of both handlers that recognize the token fail, it is left unrepaired. -/
theorem duplicate_left_unrepaired :
    ∃ s', Handler.deleteInTransaction (totalTwice 2) [.method] (.byName (some "app.Order") "total") =
        (.error (.unavailable "injected failure"), s') ∧
      (healToken unlocatedDuplicate (standard totalListed) (totalTwice 2)).1 = none ∧
      (totalTwice 2).SameContent (healToken unlocatedDuplicate (standard totalListed) (totalTwice 2)).2 := by
  refine ⟨totalTwice 1, rfl, ?_⟩
  have hsplit : standard totalListed = [] ++ .legacySignature totalListed :: (standard totalListed).tail := rfl
  have hplan : (Handler.legacySignature totalListed).plan unlocatedDuplicate =
      some (.delete [.method] (.byName (some "app.Order") "total")) := by decide
  have hplans : plans (standard totalListed).tail unlocatedDuplicate =
      [.delete [.property, .method] (.byName (some "app.Order") "total")] := by decide
  refine (failed_transaction_unrepaired_iff totalListed hsplit (by simp) hplan rfl).2 ?_
  rw [hplans]
  exact ⟨by decide, by decide⟩

/-- When only the first transaction fails, the next handler deletes the property. -/
theorem property_deleted_instead :
    ∃ s' repair, Handler.deleteInTransaction (totalTwice 1) [.method] (.byName (some "app.Order") "total") =
        (.error (.unavailable "injected failure"), s') ∧
      (Handler.legacySignature totalListed).plan unlocatedDuplicate =
        some (.delete [.method] (.byName (some "app.Order") "total")) ∧
      (healToken unlocatedDuplicate (standard totalListed) (totalTwice 1)).1 = some repair ∧
      repair.handler = "duplicate-definition" ∧ repair.kind = .property ∧ repair.target = "p" := by
  refine ⟨totalTwice 0, ⟨"duplicate-definition", .deleted, .property, "p", "total", "app.Order", 0⟩, rfl, ?_, ?_,
    rfl, rfl, rfl⟩
  · decide
  · decide

end Pipeline

end HotSchema
