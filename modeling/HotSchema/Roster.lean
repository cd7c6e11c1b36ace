/-!
# Rosters

A roster is a list of named things in which no name occurs twice. The list is the view: its order is
the order in which the names first came in, and storing a thing under a name that is already there
replaces the old thing in place.

Every table of the library is a roster: staged units, schema types, compiled units, recorded digests.
That the names are distinct is part of the type, so an operation never has to state it again.
-/

namespace HotSchema

class Named (α : Type) where
  name : α → String

instance : Named String := ⟨id⟩

/-- Named things in order of arrival, each name at most once. -/
structure Roster (α : Type) [Named α] where
  toList : List α
  nodup : (toList.map Named.name).Nodup

namespace Roster

variable {α : Type} [Named α]

def empty : Roster α := ⟨[], by simp⟩

instance : EmptyCollection (Roster α) := ⟨empty⟩

instance : Inhabited (Roster α) := ⟨empty⟩

instance [DecidableEq α] : DecidableEq (Roster α) := fun r s =>
  decidable_of_iff (r.toList = s.toList) (by cases r; cases s; simp)

theorem ext {r s : Roster α} (h : r.toList = s.toList) : r = s := by
  cases r; cases s; simp_all

def names (r : Roster α) : List String := r.toList.map Named.name

def size (r : Roster α) : Nat := r.toList.length

def isEmpty (r : Roster α) : Bool := r.toList.isEmpty

def find? (r : Roster α) (name : String) : Option α :=
  r.toList.find? fun a => Named.name a == name

def contains (r : Roster α) (name : String) : Bool :=
  r.toList.any fun a => Named.name a == name

theorem contains_iff {r : Roster α} {name : String} : r.contains name = true ↔ name ∈ r.names := by
  simp [contains, names]

theorem map_replace_names (l : List α) (a : α) :
    (l.map fun b => if Named.name b = Named.name a then a else b).map Named.name
      = l.map Named.name := by
  induction l with
  | nil => rfl
  | cons b l ih => by_cases h : Named.name b = Named.name a <;> simp_all

/-- Stores `a` under its name: in the place of the thing that had the name, else at the end. -/
def insert (r : Roster α) (a : α) : Roster α :=
  if h : r.contains (Named.name a) then
    ⟨r.toList.map fun b => if Named.name b = Named.name a then a else b, by
      rw [map_replace_names]; exact r.nodup⟩
  else
    ⟨r.toList ++ [a], by
      have h' : Named.name a ∉ r.names := fun m => h (contains_iff.2 m)
      simp only [names, List.mem_map, not_exists, not_and] at h'
      rw [List.map_append, List.nodup_append]
      refine ⟨r.nodup, by simp, ?_⟩
      simp only [List.mem_map, List.map_cons, List.map_nil, List.mem_singleton]
      rintro _ ⟨b, hb, rfl⟩ _ rfl
      exact h' b hb⟩

/-- Drops what goes by `name`; the rest keeps its order. -/
def erase (r : Roster α) (name : String) : Roster α :=
  ⟨r.toList.filter fun a => Named.name a != name,
    r.nodup.sublist (List.filter_sublist.map Named.name)⟩

def insertAll (r : Roster α) (l : List α) : Roster α := l.foldl insert r

def eraseAll (r : Roster α) (l : List String) : Roster α := l.foldl erase r

def ofList (l : List α) : Roster α := insertAll empty l

/-! ### What each operation does to the view -/

@[simp] theorem toList_empty : (empty : Roster α).toList = [] := rfl

@[simp] theorem find?_empty (name : String) : (empty : Roster α).find? name = none := rfl

theorem toList_insert_of_contains {r : Roster α} {a : α} (h : r.contains (Named.name a) = true) :
    (r.insert a).toList = r.toList.map fun b => if Named.name b = Named.name a then a else b := by
  simp [insert, h]

theorem toList_insert_of_not_contains {r : Roster α} {a : α} (h : r.contains (Named.name a) = false) :
    (r.insert a).toList = r.toList ++ [a] := by
  simp [insert, h]

@[simp] theorem toList_erase (r : Roster α) (name : String) :
    (r.erase name).toList = r.toList.filter fun a => Named.name a != name := rfl

theorem names_insert (r : Roster α) (a : α) :
    (r.insert a).names = if Named.name a ∈ r.names then r.names else r.names ++ [Named.name a] := by
  by_cases h : r.contains (Named.name a) = true
  · rw [if_pos (contains_iff.1 h), names, toList_insert_of_contains h, map_replace_names, names]
  · have h' := h
    rw [contains_iff] at h'
    rw [if_neg h', names, toList_insert_of_not_contains (by simpa using h), names]
    simp

@[simp] theorem names_erase (r : Roster α) (name : String) :
    (r.erase name).names = r.names.filter (· != name) := by
  simp [names, List.filter_map, Function.comp_def]

theorem find?_isSome (r : Roster α) (name : String) : (r.find? name).isSome = r.contains name := by
  simp [find?, contains, List.isSome_find?]

theorem name_of_find? {r : Roster α} {name : String} {a : α} (h : r.find? name = some a) :
    Named.name a = name := by
  simpa using List.find?_some h

theorem find?_insert (r : Roster α) (a : α) (name : String) :
    (r.insert a).find? name = if name = Named.name a then some a else r.find? name := by
  by_cases h : r.contains (Named.name a) = true
  · rw [find?, toList_insert_of_contains h, List.find?_map]
    split
    · next e =>
      subst e
      rw [show ((fun b => Named.name b == Named.name a) ∘
        fun b => if Named.name b = Named.name a then a else b) = fun b => Named.name b == Named.name a by
          funext b; by_cases hb : Named.name b = Named.name a <;> simp [hb]]
      have := h
      rw [← find?_isSome, find?] at this
      obtain ⟨b, hb⟩ := Option.isSome_iff_exists.1 this
      have hn : Named.name b = Named.name a := by simpa using List.find?_some hb
      simp [hb, hn]
    · next e =>
      rw [show ((fun b => Named.name b == name) ∘
        fun b => if Named.name b = Named.name a then a else b) = fun b => Named.name b == name by
          funext b
          by_cases hb : Named.name b = Named.name a <;> simp [hb]]
      cases hf : r.toList.find? fun b => Named.name b == name with
      | none => simp [find?, hf]
      | some b =>
        have hn : Named.name b = name := by simpa using List.find?_some hf
        have : Named.name b ≠ Named.name a := fun x => e (hn ▸ x)
        simp [find?, hf, this]
  · have hc : r.contains (Named.name a) = false := by simpa using h
    rw [find?, toList_insert_of_not_contains hc, List.find?_append]
    split
    · next e =>
      subst e
      have : r.toList.find? (fun b => Named.name b == Named.name a) = none := by
        rw [List.find?_eq_none]
        simpa [contains] using hc
      simp [this]
    · next e => simp [find?, Ne.symm e]

theorem find?_erase (r : Roster α) (dropped name : String) :
    (r.erase dropped).find? name = if name = dropped then none else r.find? name := by
  rw [find?, toList_erase, List.find?_filter]
  split
  · next e => subst e; simp
  · next e =>
    rw [find?]
    congr 1
    funext a
    by_cases h : Named.name a = name <;> simp_all

end Roster

end HotSchema
