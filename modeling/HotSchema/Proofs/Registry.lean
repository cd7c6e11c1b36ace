import HotSchema.Proofs.Roster
import HotSchema.Registry.Basic
import Mathlib.Data.List.Sort
import Mathlib.Data.String.Basic
/-!
# Generations of the registry

What one generation makes of the one before, in terms of names: an accepted batch keeps the names that it
neither retires nor brings, in their order, and adds its own behind them. The index always lists the names
of the table.
-/

namespace HotSchema

theorem pairwise_sortNames (l : List String) : (sortNames l).Pairwise (· ≤ ·) := by
  have hsorted := @List.pairwise_mergeSort String (fun a b => decide (a ≤ b))
    (fun _ _ _ hab hbc => by simp only [decide_eq_true_eq] at *; exact hab.trans hbc)
    (fun a b => by simpa using le_total a b) l
  simpa only [sortNames, decide_eq_true_eq] using hsorted

theorem sortNames_perm (l : List String) : (sortNames l).Perm l := List.mergeSort_perm l _

/-- Sorting forgets the order that names came in. -/
theorem sortNames_eq_of_perm {l₁ l₂ : List String} (h : l₁.Perm l₂) : sortNames l₁ = sortNames l₂ := by
  have hperm := (sortNames_perm l₁).trans (h.trans (sortNames_perm l₂).symm)
  exact hperm.eq_of_pairwise (fun _ _ _ _ => le_antisymm) (pairwise_sortNames l₁) (pairwise_sortNames l₂)

theorem sortNames_eq_of_mem_iff {l₁ l₂ : List String} (h₁ : l₁.Nodup) (h₂ : l₂.Nodup)
    (h : ∀ name, name ∈ l₁ ↔ name ∈ l₂) : sortNames l₁ = sortNames l₂ :=
  sortNames_eq_of_perm ((List.perm_ext_iff_of_nodup h₁ h₂).2 h)

variable {α : Type} [Named α]

theorem Snapshot.names_indexFrom {index : Roster Place} {start : Nat} {table : List α}
    (h : (index.names ++ table.map Named.name).Nodup) :
    (indexFrom index start table).names = index.names ++ table.map Named.name := by
  induction table generalizing index start with
  | nil => simp [indexFrom]
  | cons entry rest ih =>
    have hnew : Named.name entry ∉ index.names := by
      intro hmem
      exact List.disjoint_of_nodup_append h hmem (by simp)
    have hnames : (index.insert ⟨Named.name entry, .ofNat start⟩).names = index.names ++ [Named.name entry] := by
      rw [Roster.names_insert]
      exact if_neg hnew
    rw [indexFrom, ih, hnames]
    · simp
    · rw [hnames]
      simpa using h

namespace Snapshot

theorem find?_indexFrom_of_not_mem {index : Roster Place} {start : Nat} {table : List α} {name : String}
    (h : name ∉ table.map Named.name) : (indexFrom index start table).find? name = index.find? name := by
  induction table generalizing index start with
  | nil => rfl
  | cons entry rest ih =>
    rw [List.map_cons, List.mem_cons, not_or] at h
    rw [indexFrom, ih h.2, Roster.find?_insert]
    exact if_neg h.1

theorem find?_indexFrom {index : Roster Place} {start i : Nat} {table : List α} {entry : α}
    (hnodup : (table.map Named.name).Nodup) (h : table[i]? = some entry) :
    (indexFrom index start table).find? (Named.name entry) = some ⟨Named.name entry, .ofNat (start + i)⟩ := by
  induction table generalizing index start i with
  | nil => simp at h
  | cons first rest ih =>
    rw [List.map_cons, List.nodup_cons] at hnodup
    rw [indexFrom]
    rcases i with _ | i
    · rw [List.getElem?_cons_zero, Option.some.injEq] at h
      subst h
      rw [find?_indexFrom_of_not_mem hnodup.1, Roster.find?_insert]
      exact if_pos rfl
    · rw [List.getElem?_cons_succ] at h
      rw [ih hnodup.2 h, Nat.add_assoc, Nat.add_comm 1 i]

theorem place?_ofTable {table : List α} (hnodup : (table.map Named.name).Nodup) (generation : Nat) {i : Nat} {entry : α}
    (h : table[i]? = some entry) : (ofTable table generation).place? (Named.name entry) = some (.ofNat i) := by
  rw [place?, ofTable, find?_indexFrom hnodup h, Option.map_some, Nat.zero_add]

theorem place?_ofTable_of_not_mem {table : List α} {name : String} (h : name ∉ table.map Named.name) (generation : Nat) :
    (ofTable table generation).place? name = none := by
  rw [place?, ofTable, find?_indexFrom_of_not_mem h]
  rfl

/-- The index gives the place of an entry, counted modulo 2^32. -/
theorem place?_ofTable_iff {table : List α} (hnodup : (table.map Named.name).Nodup) (generation : Nat)
    (name : String) (i : UInt32) :
    (ofTable table generation).place? name = some i ↔ ∃ k, table[k]?.map Named.name = some name ∧ .ofNat k = i := by
  constructor
  · intro h
    by_cases hname : name ∈ table.map Named.name
    · obtain ⟨entry, hentry, rfl⟩ := List.mem_map.1 hname
      obtain ⟨k, hk⟩ := List.getElem?_of_mem hentry
      exact ⟨k, by rw [hk, Option.map_some], Option.some.inj ((place?_ofTable hnodup generation hk).symm.trans h)⟩
    · rw [place?_ofTable_of_not_mem hname] at h
      cases h
  · rintro ⟨k, hk, rfl⟩
    obtain ⟨entry, hentry, rfl⟩ := Option.map_eq_some_iff.1 hk
    exact place?_ofTable hnodup generation hentry

/-- The index has a place of its own for every entry of the table. -/
def Fits (s : Snapshot α) : Prop := s.table.length ≤ UInt32.size

instance (s : Snapshot α) : Decidable s.Fits := inferInstanceAs (Decidable (_ ≤ _))

theorem Fits.toNat_ofNat {s : Snapshot α} (h : s.Fits) {k : Nat} (hk : k < s.table.length) :
    (UInt32.ofNat k).toNat = k :=
  UInt32.toNat_ofNat_of_lt' (Nat.lt_of_lt_of_le hk h)

/-- Looking a name up through the index is looking for its entry in the table. -/
theorem get?_ofTable {table : List α} (hnodup : (table.map Named.name).Nodup) {generation : Nat}
    (hfits : (ofTable table generation).Fits) (name : String) :
    (ofTable table generation).get? name = table.find? fun entry => Named.name entry == name := by
  rcases hfind : table.find? fun entry => Named.name entry == name with _ | entry
  · have habsent : name ∉ table.map Named.name := by
      intro hmem
      obtain ⟨entry, hentry, hname⟩ := List.mem_map.1 hmem
      have hnone := List.find?_eq_none.1 hfind entry hentry
      simp [hname] at hnone
    rw [get?, place?_ofTable_of_not_mem habsent, Option.bind_none]
  · obtain rfl : Named.name entry = name := by simpa using List.find?_some hfind
    obtain ⟨k, hk⟩ := List.getElem?_of_mem (List.mem_of_find?_eq_some hfind)
    have hplace : (UInt32.ofNat k).toNat = k := hfits.toNat_ofNat (List.getElem?_eq_some_iff.1 hk).1
    rw [get?, place?_ofTable hnodup generation hk, Option.bind_some, hplace]
    exact hk

/-- Where the count started over a name may find the entry of another, but it does find one. -/
theorem exists_get?_ofTable {table : List α} (hnodup : (table.map Named.name).Nodup) (generation : Nat)
    {name : String} (h : name ∈ table.map Named.name) : ∃ entry ∈ table, (ofTable table generation).get? name = some entry := by
  obtain ⟨entry, hentry, rfl⟩ := List.mem_map.1 h
  obtain ⟨k, hk⟩ := List.getElem?_of_mem hentry
  have hlt : k < table.length := (List.getElem?_eq_some_iff.1 hk).1
  have hwrapped : (UInt32.ofNat k).toNat < table.length := by
    rw [UInt32.toNat_ofNat']
    exact Nat.lt_of_le_of_lt (Nat.mod_le _ _) hlt
  have hother := List.getElem?_eq_getElem hwrapped
  refine ⟨_, List.mem_of_getElem? hother, ?_⟩
  rw [get?, place?_ofTable hnodup generation hk, Option.bind_some]
  exact hother

end Snapshot

namespace Registry

def registered (r : Registry α) : List String := r.current.table.map Named.name

/-- The table has every name once, and the index belongs to the table. -/
structure Sound (r : Registry α) : Prop where
  nodup : r.registered.Nodup
  indexed : r.current = Snapshot.ofTable r.current.table r.current.generation

theorem Sound.empty {r : Registry α} (generation : Nat) (h : r.current = Snapshot.empty generation) :
    r.Sound where
  nodup := by simp [registered, h, Snapshot.empty, Snapshot.ofTable]
  indexed := by rw [h]; rfl

theorem Sound.names_eq {r : Registry α} (h : r.Sound) : r.current.names = sortNames r.registered := by
  rw [Snapshot.names, h.indexed]
  show sortNames (Snapshot.indexFrom ∅ 0 r.current.table).names = _
  rw [Snapshot.names_indexFrom (by simpa [registered] using h.nodup)]
  rfl

theorem Sound.get?_eq {r : Registry α} (h : r.Sound) (hfits : r.current.Fits) (name : String) :
    r.current.get? name = r.current.table.find? fun entry => Named.name entry == name := by
  rw [h.indexed] at hfits ⊢
  exact Snapshot.get?_ofTable h.nodup hfits name

/-- A lookup of a registered name finds an entry of the table: the one of that name, if the table fits. -/
theorem Sound.exists_get? {r : Registry α} (h : r.Sound) {name : String} (hname : name ∈ r.registered) :
    ∃ entry ∈ r.current.table, r.get? name = some ⟨r.current, entry⟩ ∧
      (r.current.Fits → Named.name entry = name) := by
  obtain ⟨entry, hentry, hget⟩ := Snapshot.exists_get?_ofTable h.nodup r.current.generation hname
  rw [← h.indexed] at hget
  refine ⟨entry, hentry, by rw [get?, hget, Option.map_some], fun hfits => ?_⟩
  rw [h.get?_eq hfits] at hget
  simpa using List.find?_some hget

theorem Sound.registered_of_get? {r : Registry α} (h : r.Sound) {name : String} {ref : RegistryRef α}
    (hget : r.get? name = some ref) : name ∈ r.registered := by
  by_contra habsent
  have hplace := Snapshot.place?_ofTable_of_not_mem habsent r.current.generation
  rw [← h.indexed] at hplace
  rw [get?, Snapshot.get?, hplace] at hget
  cases hget

theorem registered_publish (r : Registry α) (batch : List α) (retire : List String) :
    (r.publish batch retire).2.registered =
      r.registered.filter (fun name => name ∉ retire && name ∉ batch.map Named.name)
        ++ batch.map Named.name := by
  simp only [publish, registered, Snapshot.ofTable, List.map_append, List.filter_map]
  rfl

theorem repeated?_eq_none_iff {seen l : List String} :
    repeated? seen l = none ↔ l.Nodup ∧ ∀ name ∈ l, name ∉ seen := by
  induction l generalizing seen with
  | nil => simp [repeated?]
  | cons name rest ih =>
    rw [repeated?]
    split
    · next h => simp [h]
    · next h =>
      rw [ih, List.nodup_cons]
      simp only [List.mem_cons, not_or, forall_eq_or_imp]
      constructor
      · rintro ⟨hnodup, hrest⟩
        exact ⟨⟨fun hmem => (hrest name hmem).1 rfl, hnodup⟩, h, fun other hother => (hrest other hother).2⟩
      · rintro ⟨⟨hname, hnodup⟩, _, hrest⟩
        exact ⟨hnodup, fun other hother => ⟨fun heq => hname (heq ▸ hother), hrest other hother⟩⟩

theorem install_eq_ok {r r' : Registry α} {batch : List α} {retire : List String} {report : InstallReport}
    (h : r.install batch retire = (.ok report, r')) :
    (batch.map Named.name).Nodup ∧ r' = (r.publish batch retire).2 := by
  unfold install at h
  simp only at h
  split at h
  · cases h
  · next hrepeated =>
    split at h
    · cases h
      exact ⟨(repeated?_eq_none_iff.1 hrepeated).1, rfl⟩
    · cases h

theorem install_of_nodup {r : Registry α} {batch : List α} {retire : List String}
    (hbatch : (batch.map Named.name).Nodup) (hretire : ∀ name ∈ retire, name ∉ batch.map Named.name) :
    r.install batch retire = (.ok (r.publish batch retire).1, (r.publish batch retire).2) := by
  have hrepeated : repeated? [] (batch.map Named.name) = none :=
    repeated?_eq_none_iff.2 ⟨hbatch, by simp⟩
  have hconflict : retire.filter (· ∈ batch.map Named.name) = [] := by
    simpa [List.filter_eq_nil_iff] using hretire
  unfold install
  simp only [hrepeated, hconflict]

theorem install_of_repeated {r : Registry α} {batch : List α} (retire : List String)
    (hbatch : ¬ (batch.map Named.name).Nodup) :
    ∃ name, r.install batch retire = (.error (.duplicateInBatch r.label name), r) := by
  have hrepeated : repeated? [] (batch.map Named.name) ≠ none := fun hnone =>
    hbatch (repeated?_eq_none_iff.1 hnone).1
  obtain ⟨name, hname⟩ := Option.ne_none_iff_exists'.1 hrepeated
  exact ⟨name, by simp only [install, hname]⟩

theorem Sound.publish {r : Registry α} (h : r.Sound) {batch : List α} {retire : List String}
    (hbatch : (batch.map Named.name).Nodup) : (r.publish batch retire).2.Sound where
  nodup := by
    rw [registered_publish, List.nodup_append]
    refine ⟨h.nodup.filter _, hbatch, ?_⟩
    rintro name hkept _ hnew rfl
    simp only [List.mem_filter, Bool.and_eq_true, decide_eq_true_eq] at hkept
    exact hkept.2.2 hnew
  indexed := rfl

theorem mem_registered_publish {r : Registry α} {batch : List α} {retire : List String} {name : String} :
    name ∈ (r.publish batch retire).2.registered ↔
      name ∈ batch.map Named.name ∨ name ∈ r.registered ∧ name ∉ retire := by
  rw [registered_publish, List.mem_append, List.mem_filter]
  simp only [Bool.and_eq_true, decide_eq_true_eq]
  tauto

/-- A name that a generation neither retires nor brings has the entry that it had before. -/
theorem find?_publish_of_not_mem (r : Registry α) {batch : List α} {retire : List String} {name : String}
    (hretire : name ∉ retire) (hnew : name ∉ batch.map Named.name) :
    ((r.publish batch retire).2.current.table.find? fun entry => Named.name entry == name) =
      r.current.table.find? fun entry => Named.name entry == name := by
  show ((r.current.table.filter _) ++ batch).find? _ = _
  have hbatchNone : batch.find? (fun entry => Named.name entry == name) = none := by
    rw [List.find?_eq_none]
    intro entry hentry heq
    exact hnew (List.mem_map.2 ⟨entry, hentry, by simpa using heq⟩)
  rw [List.find?_append, hbatchNone, Option.or_none, List.find?_filter]
  congr 1
  funext entry
  by_cases heq : Named.name entry = name
  · subst heq
    simp [hretire, hnew]
  · simp [heq]

end Registry

end HotSchema
