import HotSchema.Engine.Basic
import HotSchema.Proofs.Schema.Tracking
/-!
# While a compiler runs

A compiler call changes the surroundings of the engine in two ways that matter later. The schema may be
edited, but it keeps track of what it tracked. And requests for a run may come in: while the lock is held each
goes into the journal and leaves the surroundings pending, and it costs a turn of the script.
-/

namespace HotSchema

/-- What edits may do to a service between two requests for units. -/
structure Service.Follows (s s' : Service) : Prop where
  schema : s.schema.KeepsTrack s'.schema
  drafts : s'.drafts = s.drafts
  extraRemoved : s'.extraRemoved = s.extraRemoved
  later : s'.later = s.later

namespace Service.Follows

theorem refl (s : Service) : s.Follows s := ⟨.refl _, rfl, rfl, rfl⟩

theorem trans {s₁ s₂ s₃ : Service} (h₁ : s₁.Follows s₂) (h₂ : s₂.Follows s₃) : s₁.Follows s₃ where
  schema := h₁.schema.trans h₂.schema
  drafts := h₂.drafts.trans h₁.drafts
  extraRemoved := h₂.extraRemoved.trans h₁.extraRemoved
  later := h₂.later.trans h₁.later

end Service.Follows

def JournalEntry.isCoalesced : JournalEntry → Bool
  | coalesced _ => true
  | _ => false

theorem JournalEntry.isCoalesced_iff {entry : JournalEntry} :
    entry.isCoalesced = true ↔ ∃ origin, entry = .coalesced origin := by
  cases entry <;> simp [isCoalesced]

def coalescedIn (entries : List JournalEntry) : Bool := entries.any JournalEntry.isCoalesced

theorem coalescedIn_iff {entries : List JournalEntry} :
    coalescedIn entries = true ↔ ∃ origin, .coalesced origin ∈ entries := by
  simp only [coalescedIn, List.any_eq_true, JournalEntry.isCoalesced_iff]
  constructor
  · rintro ⟨_, hmem, origin, rfl⟩
    exact ⟨origin, hmem⟩
  · rintro ⟨origin, hmem⟩
    exact ⟨_, hmem, origin, rfl⟩

@[simp] theorem coalescedIn_nil : coalescedIn [] = false := rfl

@[simp] theorem coalescedIn_append (left right : List JournalEntry) :
    coalescedIn (left ++ right) = (coalescedIn left || coalescedIn right) :=
  List.any_append

@[simp] theorem coalescedIn_cons (entry : JournalEntry) (rest : List JournalEntry) :
    coalescedIn (entry :: rest) = (entry.isCoalesced || coalescedIn rest) :=
  List.any_cons

def Finding.isEdit : Finding → Bool
  | edited _ => true
  | _ => false

/-- Somebody edited the schema while the compiler ran. -/
def JournalEntry.hasEdit : JournalEntry → Bool
  | called _ during => during.any Finding.isEdit
  | _ => false

theorem Toolchain.next_cases (t : Toolchain) :
    t.next.2.script.length + 1 = t.script.length ∨ t.next = (.ordinary, t) := by
  unfold Toolchain.next
  split
  · exact Or.inr rfl
  · next heq => exact Or.inl (by rw [heq, List.length_cons])

namespace Surroundings

/-! ### Requests -/

theorem requestRun_of_locked {w : Surroundings} (h : w.locked = true) (origin : Option String) :
    w.requestRun origin = (.coalesced, { w.log (.coalesced origin) with pending := true }) := by
  simp [requestRun, tryEnter, tryLock, h, log]

/-- The note that a request leaves is still there when the asker takes the lock, so the run is the asker's. -/
theorem requestRun_of_unlocked {w : Surroundings} (h : w.locked = false) (origin : Option String) :
    w.requestRun origin = (.admitted, { w with locked := true, pending := false }) := by
  simp [requestRun, tryEnter, tryLock, takePending, h]

theorem requestRun_cases (w : Surroundings) (origin : Option String) :
    w.requestRun origin = (.coalesced, { w.log (.coalesced origin) with pending := true }) ∧ w.locked = true ∨
      w.requestRun origin = (.admitted, { w with locked := true, pending := false }) ∧ w.locked = false := by
  cases h : w.locked with
  | true => exact Or.inl ⟨requestRun_of_locked h origin, rfl⟩
  | false => exact Or.inr ⟨requestRun_of_unlocked h origin, rfl⟩

theorem service_requestRun (w : Surroundings) (origin : Option String) :
    (w.requestRun origin).2.service = w.service := by
  rcases w.requestRun_cases origin with ⟨h, -⟩ | ⟨h, -⟩ <;> simp [h, log]

/-! ### What calls leave -/

/-- Nobody takes the lock from its holder, and what the second surroundings have beyond the first are the entries:
they are pending if the first were or a request is among the entries, and a request has used up a turn of the
script. -/
structure Continues (w w' : Surroundings) (entries : List JournalEntry) : Prop where
  locked : w.locked = true → w'.locked = true
  journal : w'.journal = w.journal ++ entries
  pending : w.locked = true → w'.pending = (w.pending || coalescedIn entries)
  script : w'.toolchain.script.length ≤ w.toolchain.script.length
  spent : coalescedIn entries = true → w'.toolchain.script.length < w.toolchain.script.length

variable {w w₁ w₂ w₃ : Surroundings} {entries left right : List JournalEntry}

theorem Continues.nil (hlocked : w₂.locked = w₁.locked) (hjournal : w₂.journal = w₁.journal)
    (hpending : w₂.pending = w₁.pending) (htoolchain : w₂.toolchain = w₁.toolchain) : w₁.Continues w₂ [] where
  locked := hlocked.trans
  journal := by rw [hjournal, List.append_nil]
  pending := by simp [hpending]
  script := Nat.le_of_eq (by rw [htoolchain])
  spent := by simp

theorem Continues.trans (h₁ : w₁.Continues w₂ left) (h₂ : w₂.Continues w₃ right) :
    w₁.Continues w₃ (left ++ right) where
  locked := h₂.locked ∘ h₁.locked
  journal := by rw [h₂.journal, h₁.journal, List.append_assoc]
  pending := fun h => by rw [h₂.pending (h₁.locked h), h₁.pending h, coalescedIn_append, Bool.or_assoc]
  script := Nat.le_trans h₂.script h₁.script
  spent := by
    intro h
    rw [coalescedIn_append, Bool.or_eq_true] at h
    rcases h with h | h
    · exact Nat.lt_of_le_of_lt h₂.script (h₁.spent h)
    · exact Nat.lt_of_lt_of_le (h₂.spent h) h₁.script

theorem Continues.journal_grows (h : w₁.Continues w₂ left) : w₁.journal <+: w₂.journal :=
  ⟨left, h.journal.symm⟩

/-! ### Interjections -/

theorem follows_interject (phase : Phase) (stores : Stores) (w : Surroundings) (i : Interjection) :
    w.service.Follows (w.interject phase stores i).2.service := by
  cases i with
  | edit edit => exact ⟨w.service.schema.keepsTrack_edit edit, rfl, rfl, rfl⟩
  | requestCompile origin =>
    show w.service.Follows (w.requestRun origin).2.service
    rw [service_requestRun]
    exact .refl _
  | withdraw | askPhase | instantiate _ => exact .refl _

theorem interjectAll_cons (phase : Phase) (stores : Stores) (i : Interjection) (rest : List Interjection)
    (w : Surroundings) : (interjectAll phase stores (i :: rest) w).2 =
      (interjectAll phase stores rest (w.interject phase stores i).2).2 :=
  rfl

theorem follows_interjectAll (phase : Phase) (stores : Stores) (is : List Interjection) (w : Surroundings) :
    w.service.Follows (interjectAll phase stores is w).2.service := by
  induction is generalizing w with
  | nil => exact .refl _
  | cons i rest ih => exact (follows_interject phase stores w i).trans (ih _)

/-- What interjections leave: the entries are requests, and the toolchain is as before. -/
structure Interjected (w w' : Surroundings) (entries : List JournalEntry) : Prop where
  locked : w.locked = true → w'.locked = true
  journal : w'.journal = w.journal ++ entries
  pending : w.locked = true → w'.pending = (w.pending || coalescedIn entries)
  toolchain : w'.toolchain = w.toolchain
  requests : ∀ entry ∈ entries, entry.isCoalesced = true

theorem Interjected.nil (w : Surroundings) : w.Interjected w [] where
  locked := id
  journal := (List.append_nil _).symm
  pending := fun _ => (Bool.or_false _).symm
  toolchain := rfl
  requests := by simp

theorem interjected_interject (phase : Phase) (stores : Stores) (w : Surroundings) (i : Interjection) :
    ∃ entries, w.Interjected (w.interject phase stores i).2 entries := by
  cases i with
  | requestCompile origin =>
    show ∃ entries, w.Interjected (w.requestRun origin).2 entries
    rcases w.requestRun_cases origin with ⟨h, hlocked⟩ | ⟨h, hlocked⟩ <;> rw [h]
    · refine ⟨[.coalesced origin], id, rfl, fun _ => ?_, rfl, ?_⟩ <;> simp [JournalEntry.isCoalesced]
    · exact ⟨[], by simp, (List.append_nil _).symm, by simp [hlocked], rfl, by simp⟩
  | edit _ | withdraw | askPhase | instantiate _ =>
    exact ⟨[], id, (List.append_nil _).symm, fun _ => (Bool.or_false _).symm, rfl, by simp⟩

theorem interjected_interjectAll (phase : Phase) (stores : Stores) (is : List Interjection) (w : Surroundings) :
    ∃ entries, w.Interjected (interjectAll phase stores is w).2 entries ∧ (is = [] → entries = []) := by
  induction is generalizing w with
  | nil => exact ⟨[], .nil w, fun _ => rfl⟩
  | cons i rest ih =>
    obtain ⟨first, hfirst⟩ := interjected_interject phase stores w i
    obtain ⟨others, hothers, -⟩ := ih (w.interject phase stores i).2
    rw [interjectAll_cons]
    refine ⟨first ++ others, ⟨hothers.locked ∘ hfirst.locked, ?_, fun h => ?_,
      hothers.toolchain.trans hfirst.toolchain, ?_⟩, by simp⟩
    · rw [hothers.journal, hfirst.journal, List.append_assoc]
    · rw [hothers.pending (hfirst.locked h), hfirst.pending h, coalescedIn_append, Bool.or_assoc]
    · intro entry hentry
      rcases List.mem_append.1 hentry with hentry | hentry
      · exact hfirst.requests entry hentry
      · exact hothers.requests entry hentry

/-! ### Calls -/

theorem follows_call (budget : Nat) (phase : Phase) (stores : Stores) (c : CompilerCall) (w : Surroundings) :
    w.service.Follows (w.call budget phase stores c).2.service :=
  follows_interjectAll phase stores _ { w with toolchain := w.toolchain.next.2 }

theorem continues_call (budget : Nat) (phase : Phase) (stores : Stores) (c : CompilerCall)
    (w : Surroundings) : ∃ entries, w.Continues (w.call budget phase stores c).2 entries := by
  obtain ⟨entries, hinterjected, hnothing⟩ :=
    interjected_interjectAll phase stores w.toolchain.next.1.during { w with toolchain := w.toolchain.next.2 }
  rcases hall : interjectAll phase stores w.toolchain.next.1.during
    { w with toolchain := w.toolchain.next.2 } with ⟨findings, w'⟩
  have hcall : (w.call budget phase stores c).2 = w'.log (.called c findings) := by
    simp only [call, hall]
  rw [hall] at hinterjected
  have htoolchain : w'.toolchain = w.toolchain.next.2 := hinterjected.toolchain
  have hentries : coalescedIn (entries ++ [.called c findings]) = coalescedIn entries := by
    simp [JournalEntry.isCoalesced]
  rw [hcall]
  refine ⟨entries ++ [.called c findings], hinterjected.locked, ?_, fun hlocked => ?_, ?_, ?_⟩
  · have hjournal : w'.journal = w.journal ++ entries := hinterjected.journal
    simp [log, hjournal]
  · rw [hentries]
    exact hinterjected.pending hlocked
  · show w'.toolchain.script.length ≤ _
    rw [htoolchain]
    rcases w.toolchain.next_cases with h | h
    · omega
    · exact Nat.le_of_eq (by rw [h])
  · -- An ordinary turn holds no request, so a request comes with a turn of the script.
    intro hcoalesced
    rw [hentries] at hcoalesced
    show w'.toolchain.script.length < _
    rw [htoolchain]
    rcases w.toolchain.next_cases with h | h
    · omega
    · rw [hnothing (by rw [h]; rfl)] at hcoalesced
      simp at hcoalesced

/-! ### Calls without edits -/

theorem service_interject {phase : Phase} {stores : Stores} {i : Interjection}
    (hquiet : (w.interject phase stores i).1.isEdit = false) :
    (w.interject phase stores i).2.service = w.service := by
  cases i with
  | edit edit => cases hquiet
  | requestCompile origin => exact w.service_requestRun origin
  | withdraw | askPhase | instantiate _ => rfl

theorem service_interjectAll {phase : Phase} {stores : Stores} {is : List Interjection}
    (hquiet : (interjectAll phase stores is w).1.any Finding.isEdit = false) :
    (interjectAll phase stores is w).2.service = w.service := by
  induction is generalizing w with
  | nil => rfl
  | cons i rest ih =>
    obtain ⟨hfirst, hothers⟩ := Bool.or_eq_false_iff.1 hquiet
    have hrest : (interjectAll phase stores rest (w.interject phase stores i).2).1.any Finding.isEdit = false :=
      hothers
    rw [interjectAll_cons, ih hrest]
    exact service_interject hfirst

theorem service_call {budget : Nat} {phase : Phase} {stores : Stores} {c : CompilerCall}
    (hquiet : ∀ entry ∈ (w.call budget phase stores c).2.journal.drop w.journal.length, entry.hasEdit = false) :
    (w.call budget phase stores c).2.service = w.service := by
  obtain ⟨entries, hinterjected, -⟩ :=
    interjected_interjectAll phase stores w.toolchain.next.1.during { w with toolchain := w.toolchain.next.2 }
  have hcalled : (w.call budget phase stores c).2.journal = (w.journal ++ entries) ++ [.called c _] :=
    congrArg (· ++ _) hinterjected.journal
  rw [hcalled, List.append_assoc, List.drop_left] at hquiet
  have hfindings := hquiet _ (List.mem_append_right _ List.mem_cons_self)
  exact service_interjectAll hfindings

end Surroundings

end HotSchema
