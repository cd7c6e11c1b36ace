import HotSchema.Proofs.Schema.Tracking
import Mathlib.Data.List.Induction
/-!
# Removals are handed out once, and none is lost

A request hands out the units of all live types, in the order in which the types came in, and with them the
removals that have come up since the last request that was answered. A type whose unit went out then and does not
go out now is among these removals, whichever way it ceased to be live; and each of them names a type that was
taken out or blacklisted in the meantime. A request that is not answered hands out nothing and changes nothing.
-/

namespace HotSchema

/-! ### What one call does to the removals and to the order -/

/-- The name goes out of the types, or it gets onto the blacklist. -/
def SchemaContents.Withdraws (c c' : SchemaContents) (name : String) : Prop :=
  name ∈ c.types.names ∧ name ∉ c'.types.names ∨ name ∉ c.blacklist.names ∧ name ∈ c'.blacklist.names

section

variable {c c' : SchemaContents}

theorem EditEffect.withdraws (h : EditEffect c c') {name : String} (hname : name ∈ c'.removed) :
    name ∈ c.removed ∨ c.Withdraws c' name := by
  cases h with
  | nothing | defined | cleared => exact Or.inl hname
  | removed htype =>
    rcases List.mem_append.1 hname with hold | hnew
    · exact Or.inl hold
    · rw [List.mem_singleton.1 hnew]
      exact Or.inr (Or.inl ⟨htype, by simp⟩)
  | blacklisted hlisted =>
    dsimp only at hname
    split at hname
    · rcases List.mem_append.1 hname with hold | hnew
      · exact Or.inl hold
      · rw [List.mem_singleton.1 hnew]
        exact Or.inr (Or.inr ⟨hlisted, Roster.mem_names_insert.2 (Or.inl rfl)⟩)
    · exact Or.inl hname
  | committed hedits =>
    rcases List.mem_append.1 hname with hold | hnew
    · exact Or.inl hold
    · refine Or.inr (Or.inl ⟨hedits.removed name hnew, ?_⟩)
      dsimp only
      rw [hedits.names, List.mem_filter]
      simp [hnew]

theorem SchemaEffect.withdraws (h : SchemaEffect c c') {name : String} (hname : name ∈ c'.removed) :
    name ∈ c.removed ∨ c.Withdraws c' name := by
  cases h with
  | edited h => exact h.withdraws hname
  | handedOut => cases hname

/-- Types that stay keep their order, and one that comes in comes behind them. -/
theorem EditEffect.names_cases (h : EditEffect c c') :
    ∃ kept new, c'.types.names = kept ++ new ∧ kept.Sublist c.types.names ∧ new.length ≤ 1 ∧
      ∀ name ∈ new, name ∉ c.types.names := by
  cases h with
  | nothing | blacklisted | cleared =>
    exact ⟨c.types.names, [], (List.append_nil _).symm, .refl _, by simp, by simp⟩
  | defined t =>
    dsimp only
    rw [Roster.names_insert]
    split
    · exact ⟨c.types.names, [], (List.append_nil _).symm, .refl _, by simp, by simp⟩
    · next hnew => exact ⟨c.types.names, [Named.name t], rfl, .refl _, by simp, by simpa using hnew⟩
  | removed =>
    dsimp only
    rw [Roster.names_erase]
    exact ⟨_, [], (List.append_nil _).symm, List.filter_sublist, by simp, by simp⟩
  | committed hedits =>
    dsimp only
    rw [hedits.names]
    exact ⟨_, [], (List.append_nil _).symm, List.filter_sublist, by simp, by simp⟩

theorem SchemaEffect.names_cases (h : SchemaEffect c c') :
    ∃ kept new, c'.types.names = kept ++ new ∧ kept.Sublist c.types.names ∧ new.length ≤ 1 ∧
      ∀ name ∈ new, name ∉ c.types.names := by
  cases h with
  | edited h => exact h.names_cases
  | handedOut => exact ⟨c.types.names, [], (List.append_nil _).symm, .refl _, by simp, by simp⟩

end

namespace Schema

/-! ### Histories -/

/-- Whatever waits to be handed out waited at the start, or was withdrawn by a call since. -/
theorem withdrawn_of_mem_removed {s : Schema} {calls : List SchemaCall} {name : String}
    (h : name ∈ (s.after calls).removed) :
    name ∈ s.removed ∨ ∃ left call right, calls = left ++ call :: right ∧
      (s.after left).contents.Withdraws (s.after (left ++ [call])).contents name := by
  induction calls using List.reverseRecOn with
  | nil => exact Or.inl h
  | append_singleton calls call ih =>
    have heffect := (s.after calls).effect_perform call
    rw [← after_concat] at heffect
    rcases heffect.withdraws h with hearlier | hnow
    · refine (ih hearlier).imp_right ?_
      rintro ⟨left, call', right, rfl, hwithdraws⟩
      exact ⟨left, call', right ++ [call], by simp, hwithdraws⟩
    · exact Or.inr ⟨calls, call, [], rfl, hnow⟩

/-- The first type was there when the second came in, and neither has gone out since. -/
def CameBefore (calls : List SchemaCall) (first second : String) : Prop :=
  ∃ left call right, calls = left ++ call :: right ∧
    first ∈ (empty.after left).types.names ∧ second ∉ (empty.after left).types.names ∧
    ∀ later, later <+: right →
      first ∈ (empty.after (left ++ call :: later)).types.names ∧
        second ∈ (empty.after (left ++ call :: later)).types.names

theorem CameBefore.concat {calls : List SchemaCall} {first second : String} (h : CameBefore calls first second)
    {call : SchemaCall} (hfirst : first ∈ (empty.after (calls ++ [call])).types.names)
    (hsecond : second ∈ (empty.after (calls ++ [call])).types.names) : CameBefore (calls ++ [call]) first second := by
  obtain ⟨left, call', right, rfl, hthere, hnot, hlater⟩ := h
  refine ⟨left, call', right ++ [call], by simp, hthere, hnot, fun later hprefix => ?_⟩
  rcases List.prefix_concat_iff.1 hprefix with rfl | hprefix
  · rw [← List.cons_append, ← List.append_assoc]
    exact ⟨hfirst, hsecond⟩
  · exact hlater later hprefix

/-- Types stand in the order in which they came in. -/
theorem pairwise_cameBefore (calls : List SchemaCall) : (empty.after calls).types.names.Pairwise (CameBefore calls) := by
  induction calls using List.reverseRecOn with
  | nil => exact .nil
  | append_singleton calls call ih =>
    have heffect := (empty.after calls).effect_perform call
    rw [← after_concat] at heffect
    obtain ⟨kept, new, hnames, hkept, hnew, hfresh⟩ := heffect.names_cases
    have hnames : (empty.after (calls ++ [call])).types.names = kept ++ new := hnames
    have hmem (name : String) (h : name ∈ kept ∨ name ∈ new) : name ∈ (empty.after (calls ++ [call])).types.names := by
      rw [hnames]
      exact List.mem_append.2 h
    rw [hnames, List.pairwise_append]
    refine ⟨(ih.sublist hkept).imp_of_mem fun ha hb h => ?_, ?_, fun first hfirst second hsecond => ?_⟩
    · exact h.concat (hmem _ (Or.inl ha)) (hmem _ (Or.inl hb))
    · match new, hnew with
      | [], _ => exact .nil
      | [_], _ => exact List.pairwise_singleton _ _
    · refine ⟨calls, call, [], rfl, hkept.subset hfirst, hfresh second hsecond, fun later hprefix => ?_⟩
      rw [List.prefix_nil.1 hprefix]
      exact ⟨hmem first (Or.inl hfirst), hmem second (Or.inr hsecond)⟩

/-- None of the requests among some calls is answered. -/
def Unanswered (s : Schema) (calls : List SchemaCall) : Prop :=
  ∀ left right, calls = left ++ .request :: right → ∃ error, (s.after left).request.1 = .error error

theorem keepsTrack_after {s : Schema} {calls : List SchemaCall} (h : s.Unanswered calls) :
    s.KeepsTrack (s.after calls) := by
  induction calls using List.reverseRecOn with
  | nil => exact .refl s
  | append_singleton calls call ih =>
    have hearlier : s.Unanswered calls := fun left right hsplit => h left (right ++ [call]) (by simp [hsplit])
    rw [after_concat]
    refine (ih hearlier).trans ?_
    cases call with
    | edit edit => exact (s.after calls).keepsTrack_edit edit
    | request =>
      obtain ⟨error, herror⟩ := h calls [] rfl
      have hsame : (s.after calls).request.2 = s.after calls := request_eq_error (Prod.ext herror rfl)
      rw [perform, hsame]
      exact .refl _

/-- A history that ends with a request that was answered, or has not begun, and the names of the units that the
request handed out. -/
inductive LastAnswer : List SchemaCall → List String → Prop where
  | nothing : LastAnswer [] []
  | answered {calls : List SchemaCall} {batch : SourceBatch} (h : (empty.after calls).request.1 = .ok batch) :
    LastAnswer (calls ++ [.request]) (batch.units.map SourceUnit.name)

theorem LastAnswer.live {calls : List SchemaCall} {handed : List String} (h : LastAnswer calls handed) :
    (∀ name ∈ handed, name ∈ (empty.after calls).liveNames) ∧ (empty.after calls).removed = [] := by
  cases h with
  | nothing => exact ⟨by simp, rfl⟩
  | @answered calls batch hanswer =>
    have hrequest : (empty.after calls).request = (.ok batch, (empty.after calls).request.2) := Prod.ext hanswer rfl
    obtain ⟨hunits, -, hafter⟩ := request_eq_ok hrequest
    rw [after_concat, perform, hafter]
    refine ⟨fun name hname => ?_, rfl⟩
    rw [names_of_generated hunits] at hname
    exact hname

/-- A request that is answered, after others. Between the last of them that was answered and this one no removal is
lost and none made up, and the units are those of the types that are not blacklisted, in the order in which they came
in. -/
theorem removals_handed_out {earlier since : List SchemaCall} {handed : List String} {batch : SourceBatch}
    (hlast : LastAnswer earlier handed) (hsince : (empty.after earlier).Unanswered since)
    (hbatch : (empty.after (earlier ++ since)).request.1 = .ok batch) :
    let s := empty.after (earlier ++ since)
    (∀ name ∈ handed, name ∉ batch.units.map SourceUnit.name → name ∈ batch.removed) ∧
      (∀ name ∈ batch.removed, ∃ left call right, since = left ++ call :: right ∧
        (empty.after (earlier ++ left)).contents.Withdraws (empty.after (earlier ++ left ++ [call])).contents name) ∧
      List.Forall₂ (fun t unit => t.generate = .ok unit) (s.types.toList.filter fun t => t.name ∉ s.blacklist.names)
        batch.units ∧
      (batch.units.map SourceUnit.name).Pairwise (CameBefore (earlier ++ since)) := by
  intro s
  obtain ⟨hhanded, hdrained⟩ := hlast.live
  obtain ⟨hunits, hremoved, -⟩ := request_eq_ok (Prod.ext hbatch rfl)
  have hnames : batch.units.map SourceUnit.name = s.liveNames := names_of_generated hunits
  have hlive : s.live = s.types.toList.filter fun t => t.name ∉ s.blacklist.names := by
    refine List.filter_congr fun t _ => ?_
    rw [Bool.eq_iff_iff, isBlacklisted, Bool.not_eq_true', ← Bool.not_eq_true, Roster.contains_iff, decide_eq_true_eq]
  refine ⟨fun name hname hnot => ?_, fun name hname => ?_, hlive ▸ hunits, ?_⟩
  · have htracks : s.Tracks name := by
      have hkept := keepsTrack_after hsince name (Or.inl (hhanded name hname))
      rwa [← after_append] at hkept
    rw [hremoved]
    exact htracks.resolve_left (hnames ▸ hnot)
  · rw [hremoved, after_append] at hname
    rcases withdrawn_of_mem_removed hname with hearlier | ⟨left, call, right, hsplit, hwithdraws⟩
    · rw [hdrained] at hearlier
      cases hearlier
    · refine ⟨left, call, right, hsplit, ?_⟩
      rwa [List.append_assoc, after_append, after_append]
  · rw [hnames]
    exact (pairwise_cameBefore (earlier ++ since)).sublist (List.filter_sublist.map TypeModel.name)

/-! ### A type that is blacklisted, and one that is deleted -/

def threeDefined : List SchemaCall :=
  [.edit (.upsert ⟨"app.A", "type A", []⟩), .edit (.upsert ⟨"app.B", "type B", []⟩),
    .edit (.upsert ⟨"app.C", "type C", []⟩)]

def blacklistedAndDeleted : List SchemaCall :=
  [.edit (.blacklist "app.A"), .edit (.transaction [.find .type (.byId "app.B"), .delete none] true),
    .edit (.upsert ⟨"app.D", "type D", []⟩), .edit (.clearBlacklist "app.A"), .edit (.removeType "app.C"),
    .edit (.upsert ⟨"app.C", "type C", []⟩)]

def unitOf (name short : String) : SourceUnit :=
  ⟨name, "type " ++ short ++ "\n", [⟨1, some ⟨.type, name, short, name⟩⟩]⟩

/-- Only the type that is deleted does not go out any more, and its removal does; the type that is removed and defined
again goes out last. -/
theorem deleted_type_handed_out :
    ∃ batch, (empty.after (threeDefined ++ [.request] ++ blacklistedAndDeleted)).request.1 = .ok batch ∧
      batch.units.map SourceUnit.name = ["app.A", "app.D", "app.C"] ∧ batch.removed = ["app.A", "app.B", "app.C"] ∧
      "app.B" ∈ batch.removed ∧ CameBefore (threeDefined ++ [.request] ++ blacklistedAndDeleted) "app.D" "app.C" := by
  have hfirst : (empty.after threeDefined).request.1 =
    .ok ⟨[unitOf "app.A" "A", unitOf "app.B" "B", unitOf "app.C" "C"], []⟩ := rfl
  have hbatch : (empty.after (threeDefined ++ [.request] ++ blacklistedAndDeleted)).request.1 =
    .ok ⟨[unitOf "app.A" "A", unitOf "app.D" "D", unitOf "app.C" "C"], ["app.A", "app.B", "app.C"]⟩ := rfl
  have hsince : (empty.after (threeDefined ++ [.request])).Unanswered blacklistedAndDeleted := by
    intro left right hsplit
    have hrequest : SchemaCall.request ∈ blacklistedAndDeleted := by simp [hsplit]
    simp [blacklistedAndDeleted] at hrequest
  obtain ⟨hlost, -, -, horder⟩ := removals_handed_out (.answered hfirst) hsince hbatch
  refine ⟨_, hbatch, rfl, rfl, hlost "app.B" (by decide) (by decide), ?_⟩
  have hlast : ["app.D", "app.C"].Pairwise (CameBefore (threeDefined ++ [.request] ++ blacklistedAndDeleted)) :=
    horder.tail
  exact (List.pairwise_cons.1 hlast).1 "app.C" (by decide)

end Schema

end HotSchema
