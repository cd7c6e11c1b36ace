import HotSchema.Roster
import Mathlib.Data.List.Nodup
import Mathlib.Tactic.Tauto
/-!
# Which names a roster has

The names of a roster are the view that invariants are stated in: an operation is known here by the names
that are there after it, and by what those names find.
-/

namespace HotSchema

/-- A key that no two entries share finds its entry. -/
theorem find?_key_of_mem {α β : Type} [DecidableEq β] {key : α → β} {l : List α} (hnodup : (l.map key).Nodup)
    {a : α} (h : a ∈ l) : l.find? (fun b => key b == key a) = some a := by
  rcases hfind : l.find? (fun b => key b == key a) with _ | found
  · have hnone := List.find?_eq_none.1 hfind a h
    simp at hnone
  · have hkey : key found = key a := by simpa using List.find?_some hfind
    rw [List.inj_on_of_nodup_map hnodup (List.mem_of_find?_eq_some hfind) h hkey]

/-- Strings go by themselves. -/
@[simp] theorem map_name_strings (names : List String) : names.map Named.name = names := List.map_id names

theorem mem_toList_iff {r : Roster String} {name : String} : name ∈ r.toList ↔ name ∈ r.names := by
  rw [Roster.names, map_name_strings]

namespace Roster

theorem nodup_strings (r : Roster String) : r.toList.Nodup := by
  have hnodup := r.nodup
  rwa [map_name_strings] at hnodup

variable {α : Type} [Named α]

theorem mem_names_iff {r : Roster α} {name : String} :
    name ∈ r.names ↔ ∃ a ∈ r.toList, Named.name a = name := by
  simp [names]

@[simp] theorem names_empty : (∅ : Roster α).names = [] := rfl

theorem mem_of_find? {r : Roster α} {name : String} {a : α} (h : r.find? name = some a) :
    a ∈ r.toList :=
  List.mem_of_find?_eq_some h

theorem find?_eq_none_iff {r : Roster α} {name : String} : r.find? name = none ↔ name ∉ r.names := by
  rw [← contains_iff, ← find?_isSome, Option.not_isSome_iff_eq_none]

theorem mem_names_iff_find? {r : Roster α} {name : String} :
    name ∈ r.names ↔ ∃ a, r.find? name = some a := by
  rw [← contains_iff, ← find?_isSome, Option.isSome_iff_exists]

theorem find?_of_mem {r : Roster α} {a : α} (h : a ∈ r.toList) : r.find? (Named.name a) = some a :=
  find?_key_of_mem r.nodup h

@[simp] theorem mem_names_insert {r : Roster α} {a : α} {name : String} :
    name ∈ (r.insert a).names ↔ name = Named.name a ∨ name ∈ r.names := by
  rw [names_insert]
  split
  · next h =>
    constructor
    · exact Or.inr
    · rintro (rfl | h')
      · exact h
      · exact h'
  · rw [List.mem_append, List.mem_singleton, or_comm]

theorem mem_of_mem_insert {r : Roster α} {a b : α} (h : b ∈ (r.insert a).toList) : b = a ∨ b ∈ r.toList := by
  by_cases hcontains : r.contains (Named.name a) = true
  · rw [toList_insert_of_contains hcontains] at h
    obtain ⟨c, hc, rfl⟩ := List.mem_map.1 h
    split
    · exact Or.inl rfl
    · exact Or.inr hc
  · rw [toList_insert_of_not_contains (by simpa using hcontains), List.mem_append, List.mem_singleton] at h
    exact h.symm

/-- Storing a thing changes nothing exactly if it is what was stored under its name. -/
theorem insert_eq_self_iff {r : Roster α} {a b : α} (h : r.find? (Named.name a) = some b) :
    r.insert a = r ↔ a = b := by
  constructor
  · intro hsame
    have hstored : (r.insert a).find? (Named.name a) = some a := by rw [find?_insert, if_pos rfl]
    rw [hsame, h] at hstored
    exact (Option.some.inj hstored).symm
  · rintro rfl
    have hcontains : r.contains (Named.name a) = true := contains_iff.2 (mem_names_iff_find?.2 ⟨a, h⟩)
    have hplace (c : α) (hc : c ∈ r.toList) : (if Named.name c = Named.name a then a else c) = c := by
      split
      · next hname =>
        have hfind := find?_of_mem hc
        rw [hname, h] at hfind
        exact Option.some.inj hfind
      · rfl
    refine ext ?_
    rw [toList_insert_of_contains hcontains, List.map_congr_left hplace, List.map_id']

@[simp] theorem mem_names_erase {r : Roster α} {dropped name : String} :
    name ∈ (r.erase dropped).names ↔ name ≠ dropped ∧ name ∈ r.names := by
  simp [and_comm]

theorem erase_of_not_mem {r : Roster α} {name : String} (h : name ∉ r.names) : r.erase name = r := by
  refine ext (List.filter_eq_self.2 fun a ha => ?_)
  rw [bne_iff_ne]
  rintro rfl
  exact h (mem_names_iff.2 ⟨a, ha, rfl⟩)

@[simp] theorem mem_names_insertAll {r : Roster α} {l : List α} {name : String} :
    name ∈ (r.insertAll l).names ↔ name ∈ l.map Named.name ∨ name ∈ r.names := by
  induction l generalizing r with
  | nil => simp [insertAll]
  | cons a l ih =>
    rw [insertAll, List.foldl_cons, ← insertAll, ih, mem_names_insert, List.map_cons, List.mem_cons]
    tauto

@[simp] theorem mem_names_eraseAll {r : Roster α} {l : List String} {name : String} :
    name ∈ (r.eraseAll l).names ↔ name ∉ l ∧ name ∈ r.names := by
  induction l generalizing r with
  | nil => simp [eraseAll]
  | cons dropped l ih =>
    rw [eraseAll, List.foldl_cons, ← eraseAll, ih, mem_names_erase, List.mem_cons]
    tauto

/-- Of the things stored under a name the last counts. -/
theorem find?_insertAll (r : Roster α) (l : List α) (name : String) :
    (r.insertAll l).find? name = (l.reverse.find? fun a => Named.name a == name).or (r.find? name) := by
  induction l generalizing r with
  | nil => rfl
  | cons a l ih =>
    rw [insertAll, List.foldl_cons, ← insertAll, ih, find?_insert, List.reverse_cons, List.find?_append,
      Option.or_assoc, List.find?_singleton]
    by_cases h : name = Named.name a
    · subst h
      simp
    · simp [h, Ne.symm h]

theorem find?_insertAll_of_not_mem {r : Roster α} {l : List α} {name : String}
    (h : name ∉ l.map Named.name) : (r.insertAll l).find? name = r.find? name := by
  have hnone : l.reverse.find? (fun a => Named.name a == name) = none := by
    rw [List.find?_eq_none]
    intro a ha heq
    exact h (List.mem_map.2 ⟨a, List.mem_reverse.1 ha, by simpa using heq⟩)
  rw [find?_insertAll, hnone, Option.none_or]

theorem find?_eraseAll_of_not_mem {r : Roster α} {l : List String} {name : String} (h : name ∉ l) :
    (r.eraseAll l).find? name = r.find? name := by
  induction l generalizing r with
  | nil => rfl
  | cons dropped l ih =>
    rw [List.mem_cons, not_or] at h
    rw [eraseAll, List.foldl_cons, ← eraseAll, ih h.2, find?_erase, if_neg h.1]

theorem find?_insertAll_of_mem {r : Roster α} {l : List α} {a : α} (hnodup : (l.map Named.name).Nodup)
    (h : a ∈ l) : (r.insertAll l).find? (Named.name a) = some a := by
  induction l generalizing r with
  | nil => simp at h
  | cons b l ih =>
    rw [List.map_cons, List.nodup_cons] at hnodup
    rw [insertAll, List.foldl_cons, ← insertAll]
    rcases List.mem_cons.1 h with rfl | h
    · rw [find?_insertAll_of_not_mem hnodup.1, find?_insert, if_pos rfl]
    · exact ih hnodup.2 h

theorem find?_eraseAll_of_mem {r : Roster α} {l : List String} {name : String} (h : name ∈ l) :
    (r.eraseAll l).find? name = none := by
  rw [find?_eq_none_iff, mem_names_eraseAll]
  exact fun hmem => hmem.1 h

theorem toList_eraseAll (r : Roster α) (l : List String) :
    (r.eraseAll l).toList = r.toList.filter fun a => Named.name a ∉ l := by
  induction l generalizing r with
  | nil => simp [eraseAll]
  | cons dropped l ih =>
    rw [eraseAll, List.foldl_cons, ← eraseAll, ih, toList_erase, List.filter_filter]
    refine List.filter_congr fun a _ => ?_
    rw [Bool.eq_iff_iff]
    simp [and_comm]

/-- New things of different names come behind the rest, in their order. -/
theorem toList_insertAll_of_nodup {r : Roster α} {l : List α} (hnodup : (l.map Named.name).Nodup)
    (hnew : ∀ a ∈ l, Named.name a ∉ r.names) : (r.insertAll l).toList = r.toList ++ l := by
  induction l generalizing r with
  | nil => exact (List.append_nil _).symm
  | cons a l ih =>
    rw [List.map_cons, List.nodup_cons] at hnodup
    obtain ⟨ha, hl⟩ := List.forall_mem_cons.1 hnew
    have hcontains : r.contains (Named.name a) = false := by
      rw [← Bool.not_eq_true, contains_iff]
      exact ha
    have hrest (b : α) (hb : b ∈ l) : Named.name b ∉ (r.insert a).names := by
      intro hmem
      rcases mem_names_insert.1 hmem with hsame | hold
      · exact hnodup.1 (hsame ▸ List.mem_map_of_mem hb)
      · exact hl b hb hold
    rw [insertAll, List.foldl_cons, ← insertAll, ih hnodup.2 hrest, toList_insert_of_not_contains hcontains,
      List.append_assoc, List.singleton_append]

/-- Strings that are stored stay where they are, and the new ones come behind them. -/
theorem toList_insertAll_strings (r : Roster String) (l : List String) :
    ∃ new, (r.insertAll l).toList = r.toList ++ new ∧ ∀ name ∈ new, name ∈ l := by
  induction l generalizing r with
  | nil => exact ⟨[], (List.append_nil _).symm, by simp⟩
  | cons first l ih =>
    obtain ⟨new, hnew, hmem⟩ := ih (r.insert first)
    rw [insertAll, List.foldl_cons, ← insertAll, hnew]
    by_cases hstored : first ∈ r.names
    · obtain ⟨found, hfind⟩ := mem_names_iff_find?.1 hstored
      have hsame : found = first := name_of_find? hfind
      rw [(insert_eq_self_iff hfind).2 hsame.symm]
      exact ⟨new, rfl, fun name hname => List.mem_cons_of_mem _ (hmem name hname)⟩
    · have hcontains : r.contains first = false := by
        rw [← Bool.not_eq_true, contains_iff]
        exact hstored
      rw [toList_insert_of_not_contains hcontains, List.append_assoc]
      refine ⟨first :: new, rfl, List.forall_mem_cons.2 ⟨List.mem_cons_self, fun name hname => ?_⟩⟩
      exact List.mem_cons_of_mem _ (hmem name hname)

end Roster

end HotSchema
