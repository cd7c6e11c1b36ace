import HotSchema.Proofs.Schema.History
import Mathlib.Data.List.Induction
/-!
# Transactions leave all or nothing, and the revision tells

A transaction that does not come to a commit, or whose commit fails, leaves no trace but for the failure that it
used up. One that commits leaves its copy as the types, and the types that its steps deleted wait to be handed out,
in the order of the steps. Over a history the revision only grows, and it grows with every change of types or
blacklist: as long as it stays the same, so do they.
-/

namespace HotSchema

namespace Transaction

variable {tx tx' : Transaction}

/-- A step notes what it takes out of the copy, which is one type at most. -/
theorem Changed.removed_eq (h : tx.Changed tx') :
    tx'.removed = tx.removed ++ tx.working.names.filter (· ∉ tx'.working.names) := by
  have hkept : tx.working.names.filter (· ∉ tx.working.names) = [] := by simp [List.filter_eq_nil_iff]
  cases h with
  | kept => rw [hkept, List.append_nil]
  | replaced hname =>
    dsimp only
    rw [names_replaced hname, hkept, List.append_nil]
  | @deleted name hname =>
    have hgone : tx.working.names.filter (· ∉ (tx.working.erase name).names) = tx.working.names.filter (· == name) := by
      refine List.filter_congr fun other hother => ?_
      rw [Bool.eq_iff_iff]
      simp [hother]
    have honce : tx.working.names.count name = 1 := List.count_eq_one_of_mem tx.working.nodup hname
    dsimp only
    rw [hgone, List.filter_beq, honce, List.replicate_one]

/-- The types that steps take out of the copy, in the order in which they do. -/
def deletions (tx : Transaction) (atHand : Option Entity) : List TransactionStep → List String
  | [] => []
  | st :: rest =>
    let (_, atHand', tx') := tx.step atHand st
    tx.working.names.filter (· ∉ tx'.working.names) ++ tx'.deletions atHand' rest

theorem removed_steps (tx : Transaction) (atHand : Option Entity) (sts : List TransactionStep) :
    (tx.steps atHand sts).2.removed = tx.removed ++ tx.deletions atHand sts := by
  induction sts generalizing tx atHand with
  | nil => exact (List.append_nil _).symm
  | cons st rest ih =>
    rw [steps_cons, ih, (tx.changed_step atHand st).removed_eq, List.append_assoc]
    rfl

end Transaction

/-! ### The revision -/

/-- The revision does not go back from one to the other, and tells if types or blacklist changed. -/
structure SchemaContents.Precedes (c c' : SchemaContents) : Prop where
  revision : c.revision ≤ c'.revision
  same : c.revision = c'.revision → c.types = c'.types ∧ c.blacklist = c'.blacklist

namespace SchemaContents.Precedes

theorem refl (c : SchemaContents) : c.Precedes c := ⟨Nat.le_refl _, fun _ => ⟨rfl, rfl⟩⟩

theorem trans {c₁ c₂ c₃ : SchemaContents} (h₁ : c₁.Precedes c₂) (h₂ : c₂.Precedes c₃) : c₁.Precedes c₃ where
  revision := Nat.le_trans h₁.revision h₂.revision
  same := by
    intro hsame
    have hle₁ := h₁.revision
    have hle₂ := h₂.revision
    obtain ⟨htypes₁, hblacklist₁⟩ := h₁.same (by omega)
    obtain ⟨htypes₂, hblacklist₂⟩ := h₂.same (by omega)
    exact ⟨htypes₁.trans htypes₂, hblacklist₁.trans hblacklist₂⟩

/-- Contents of the next revision may have any types and blacklist. -/
theorem of_next {c c' : SchemaContents} (h : c'.revision = c.revision + 1) : c.Precedes c' :=
  ⟨by omega, fun hsame => by omega⟩

end SchemaContents.Precedes

theorem SchemaEffect.precedes {c c' : SchemaContents} (h : SchemaEffect c c') : c.Precedes c' := by
  cases h with
  | handedOut => exact ⟨Nat.le_refl _, fun _ => ⟨rfl, rfl⟩⟩
  | edited h =>
    cases h with
    | nothing => exact .refl c
    | defined | removed | blacklisted | cleared | committed => exact .of_next rfl

namespace Schema

theorem precedes_after (s : Schema) (calls : List SchemaCall) : s.contents.Precedes (s.after calls).contents := by
  induction calls using List.reverseRecOn with
  | nil => exact .refl _
  | append_singleton calls call ih =>
    rw [after_concat]
    exact ih.trans ((s.after calls).effect_perform call).precedes

theorem precedes_of_le (s : Schema) (calls : List SchemaCall) {i j : Nat} (h : i ≤ j) :
    (s.after (calls.take i)).contents.Precedes (s.after (calls.take j)).contents := by
  obtain ⟨between, hbetween⟩ := List.take_prefix_take_left (l := calls) h
  rw [← hbetween, after_append]
  exact precedes_after _ between

/-! ### Transactions -/

/-- How a transaction ends, and what it leaves: it begins unless a failure is due, and then it is dropped, or it
commits unless a failure is due. -/
inductive Transacted (s : Schema) (steps : List TransactionStep) : Bool → EditResult → Schema → Prop where
  | refused (commit : Bool) (h : 0 < s.failingTransactions) :
    Transacted s steps commit (.transaction [] (.refused (.unavailable "injected failure")))
      { s with failingTransactions := s.failingTransactions - 1 }
  | dropped (h : s.failingTransactions = 0) :
    Transacted s steps false (.transaction (Transaction.steps ⟨s.types, []⟩ none steps).1 .dropped) s
  | aborted (h : s.failingTransactions = 0) (hcommit : 0 < s.failingCommits) :
    Transacted s steps true
      (.transaction (Transaction.steps ⟨s.types, []⟩ none steps).1
        (.committed (.error (.aborted "injected commit failure"))))
      { s with failingCommits := s.failingCommits - 1 }
  | committed (h : s.failingTransactions = 0) (hcommit : s.failingCommits = 0) :
    Transacted s steps true
      (.transaction (Transaction.steps ⟨s.types, []⟩ none steps).1 (.committed (.ok ())))
      { s with
        types := (Transaction.steps ⟨s.types, []⟩ none steps).2.working
        removed := s.removed ++ (Transaction.steps ⟨s.types, []⟩ none steps).2.removed
        revision := s.revision + 1 }

theorem transacted (s : Schema) (steps : List TransactionStep) (commit : Bool) :
    s.Transacted steps commit (s.transact steps commit).1 (s.transact steps commit).2 := by
  unfold transact begin
  by_cases hbegin : 0 < s.failingTransactions
  · rw [if_pos hbegin]
    exact .refused commit hbegin
  · rw [if_neg hbegin]
    have hbegin : s.failingTransactions = 0 := Nat.eq_zero_of_not_pos hbegin
    dsimp only
    cases commit with
    | false => exact .dropped hbegin
    | true =>
      rw [if_pos rfl]
      unfold Schema.commit
      by_cases hcommit : 0 < s.failingCommits
      · rw [if_pos hcommit]
        exact .aborted hbegin hcommit
      · rw [if_neg hcommit]
        exact .committed hbegin (Nat.eq_zero_of_not_pos hcommit)

/-- What a transaction may leave: all of its work if its commit succeeds, and nothing if not. -/
structure AllOrNothing (s : Schema) (steps : List TransactionStep) (commit : Bool) (ending : TransactionEnd)
    (s' : Schema) : Prop where
  succeeds : ending = .committed (.ok ()) ↔ commit = true ∧ s.failingTransactions = 0 ∧ s.failingCommits = 0
  all : ending = .committed (.ok ()) →
    s' = { s with
      types := (Transaction.steps ⟨s.types, []⟩ none steps).2.working
      removed := s.removed ++ Transaction.deletions ⟨s.types, []⟩ none steps
      revision := s.revision + 1 }
  /-- A failure that was due has come. -/
  nothing : ending ≠ .committed (.ok ()) →
    s' = s ∨ 0 < s.failingTransactions ∧ s' = { s with failingTransactions := s.failingTransactions - 1 } ∨
      0 < s.failingCommits ∧ s' = { s with failingCommits := s.failingCommits - 1 }

theorem allOrNothing_transact (s : Schema) (steps : List TransactionStep) (commit : Bool) :
    ∃ results ending s', s.transact steps commit = (.transaction results ending, s') ∧
      s.AllOrNothing steps commit ending s' := by
  have htransacted := s.transacted steps commit
  rcases htransact : s.transact steps commit with ⟨result, s'⟩
  rw [htransact] at htransacted
  dsimp only at htransacted
  cases htransacted with
  | refused _ h =>
    refine ⟨_, _, _, rfl, by simp [Nat.ne_of_gt h], by simp, fun _ => Or.inr (Or.inl ⟨h, rfl⟩)⟩
  | dropped h => exact ⟨_, _, _, rfl, by simp, by simp, fun _ => Or.inl rfl⟩
  | aborted h hcommit =>
    refine ⟨_, _, _, rfl, by simp [Nat.ne_of_gt hcommit], by simp, fun _ => Or.inr (Or.inr ⟨hcommit, rfl⟩)⟩
  | committed h hcommit =>
    refine ⟨_, _, _, rfl, by simp [h, hcommit], fun _ => ?_, by simp⟩
    rw [Transaction.removed_steps, List.nil_append]

/-- Whatever its steps are, a transaction leaves all of its work or nothing of it; and in every history the revision
never goes back, and is the same at two moments only if types and blacklist are. -/
theorem transactions_told_by_revision :
    (∀ (s : Schema) (steps : List TransactionStep) (commit : Bool),
      ∃ results ending s', s.transact steps commit = (.transaction results ending, s') ∧
        s.AllOrNothing steps commit ending s') ∧
    ∀ (s : Schema) (calls : List SchemaCall) (i j : Nat),
      (i ≤ j → (s.after (calls.take i)).revision ≤ (s.after (calls.take j)).revision) ∧
      ((s.after (calls.take i)).revision = (s.after (calls.take j)).revision →
        (s.after (calls.take i)).types = (s.after (calls.take j)).types ∧
          (s.after (calls.take i)).blacklist = (s.after (calls.take j)).blacklist) := by
  refine ⟨allOrNothing_transact, fun s calls i j => ⟨fun hle => (s.precedes_of_le calls hle).revision, fun hsame => ?_⟩⟩
  rcases Nat.le_total i j with hle | hle
  · exact (s.precedes_of_le calls hle).same hsame
  · obtain ⟨htypes, hblacklist⟩ := (s.precedes_of_le calls hle).same hsame.symm
    exact ⟨htypes.symm, hblacklist.symm⟩

/-! ### A type that is deleted at the second attempt -/

def deletingOrder : SchemaCall :=
  .edit (.transaction [.find .type (.byName none "Order"), .delete none, .delete none] true)

def secondAttempt : List SchemaCall :=
  [.edit (.upsert ⟨"app.Order", "type Order", []⟩), .edit (.failCommits 1), deletingOrder, deletingOrder]

/-- The commit that fails keeps the revision, and so the types; the next takes the type out once, although it was to
be deleted twice. -/
theorem deleted_at_second_attempt :
    (empty.after (secondAttempt.take 3)).revision = 1 ∧
      (empty.after (secondAttempt.take 2)).types = (empty.after (secondAttempt.take 3)).types ∧
      (empty.after (secondAttempt.take 3)).types.names = ["app.Order"] ∧ (empty.after secondAttempt).revision = 2 ∧
      (empty.after secondAttempt).types.names = [] ∧ (empty.after secondAttempt).removed = ["app.Order"] := by
  have htypes := ((transactions_told_by_revision.2 empty secondAttempt 2 3).2 rfl).1
  exact ⟨rfl, htypes, rfl, rfl, rfl, rfl⟩

end Schema

end HotSchema
