import HotSchema.Proofs.Healing.Target
import HotSchema.Proofs.Source.Location
/-!
# Which member a repair deletes

A handler that goes by the located entity hands on its identifier and the kinds that it may delete, and no
more. So the member that the diagnostic was located at is deleted, and it alone, exactly if no other member
gets in between: none that has the identifier and a kind tried before, in whatever type; none of the same kind
and identifier in a type that stands before; and none in the type itself.
-/

namespace HotSchema

/-- The head of a list of lists, when only the list made from `a` can hold it. -/
theorem head?_flatMap_eq_some_iff {α β γ : Type} [DecidableEq γ] {l : List α} {f : α → List β} {g : α → γ}
    {a : α} {x : β} (ha : a ∈ l) (hinj : ∀ b ∈ l, g b = g a → b = a)
    (honly : ∀ b ∈ l, g b ≠ g a → x ∉ f b) :
    (l.flatMap f).head? = some x ↔
      (∀ b ∈ l.takeWhile (g · ≠ g a), f b = []) ∧ (f a).head? = some x := by
  induction l with
  | nil => simp at ha
  | cons c l ih =>
    rw [List.flatMap_cons, List.takeWhile_cons]
    by_cases hc : g c = g a
    · obtain rfl := hinj c List.mem_cons_self hc
      rcases hfc : f c with _ | ⟨y, ys⟩
      · -- Nothing is made from it, so nothing holds the head.
        simp only [List.nil_append, List.head?_nil, reduceCtorEq, and_false, iff_false]
        intro hhead
        obtain ⟨b, hb, hx⟩ := List.mem_flatMap.1 (List.mem_of_mem_head? hhead)
        by_cases hgb : g b = g c
        · rw [hinj b (List.mem_cons_of_mem _ hb) hgb, hfc] at hx
          simp at hx
        · exact honly b (List.mem_cons_of_mem _ hb) hgb hx
      · simp
    · have ha : a ∈ l := (List.mem_cons.1 ha).resolve_left fun heq => hc (by rw [heq])
      have hrest := ih ha (fun b hb => hinj b (List.mem_cons_of_mem _ hb))
        (fun b hb => honly b (List.mem_cons_of_mem _ hb))
      rcases hfc : f c with _ | ⟨y, ys⟩
      · rw [List.nil_append, hrest]
        simp [hc, hfc]
      · have hy : y ≠ x := fun heq => honly c List.mem_cons_self hc (by simp [hfc, heq])
        simp [hc, hfc, hy]

namespace Schema

def targetsIn (t : TypeModel) (kind : EntityKind) (id : String) : List Target :=
  (t.members.filter fun m => m.kind = kind && m.id == id).map fun m => .members t.name kind m.id

theorem targets_byId (s : Schema) (id : String) (kind : EntityKind) :
    s.targets (.byId id) kind = s.types.toList.flatMap (targetsIn · kind id) := by
  have hall : s.types.toList.filter (EntityKey.byId id).admits = s.types.toList :=
    List.filter_eq_self.2 fun _ _ => rfl
  unfold targets
  rw [hall]
  rfl

theorem mem_targetsIn {t : TypeModel} {kind : EntityKind} {id : String} {x : Target} :
    x ∈ targetsIn t kind id ↔ x = .members t.name kind id ∧ ∃ m ∈ t.members, m.is kind id := by
  simp only [targetsIn, List.mem_map, List.mem_filter, Bool.and_eq_true, decide_eq_true_eq, beq_iff_eq,
    Member.is_iff]
  constructor
  · rintro ⟨m, ⟨hm, hkind, rfl⟩, rfl⟩
    exact ⟨rfl, m, hm, hkind, rfl⟩
  · rintro ⟨rfl, m, hm, hkind, rfl⟩
    exact ⟨m, ⟨hm, hkind, rfl⟩, rfl⟩

theorem targetsIn_eq_nil_iff {t : TypeModel} {kind : EntityKind} {id : String} :
    targetsIn t kind id = [] ↔ ∀ m ∈ t.members, m.is kind id = false := by
  rw [List.eq_nil_iff_forall_not_mem]
  simp only [mem_targetsIn, not_and, not_exists, Bool.not_eq_true]
  exact ⟨fun h m hm => h _ rfl m hm, fun h _ _ => h⟩

/-- Deleting what goes by the identifier comes upon one member of a type before all others. -/
structure Singles (s : Schema) (kinds : List EntityKind) (t : TypeModel) (kind : EntityKind) (id : String)
    (others : List Member) : Prop where
  kinds : ∀ kind' ∈ kinds.takeWhile (· ≠ kind), ∀ u ∈ s.types.toList, ∀ m ∈ u.members, m.is kind' id = false
  types : ∀ u ∈ s.types.toList.takeWhile (·.name ≠ t.name), ∀ m ∈ u.members, m.is kind id = false
  others : ∀ m ∈ others, m.is kind id = false

theorem eq_of_name {s : Schema} {t u : TypeModel} (hu : u ∈ s.types.toList) (ht : t ∈ s.types.toList)
    (hname : u.name = t.name) : u = t :=
  List.inj_on_of_nodup_map s.types.nodup hu ht hname

theorem head?_targetsIn {t : TypeModel} {kind : EntityKind} {id : String}
    (hm : ∃ m ∈ t.members, m.is kind id) : (targetsIn t kind id).head? = some (.members t.name kind id) := by
  obtain ⟨m, hm, his⟩ := hm
  rcases hin : targetsIn t kind id with _ | ⟨x, rest⟩
  · rw [targetsIn_eq_nil_iff.1 hin m hm] at his
    cases his
  · have hx : x ∈ targetsIn t kind id := by simp [hin]
    rw [(mem_targetsIn.1 hx).1, List.head?_cons]

theorem mem_targets_byId {s : Schema} {kind : EntityKind} {id : String} {x : Target} :
    x ∈ s.targets (.byId id) kind ↔
      ∃ u ∈ s.types.toList, x = .members u.name kind id ∧ ∃ m ∈ u.members, m.is kind id := by
  simp only [targets_byId, List.mem_flatMap, mem_targetsIn]

theorem head?_targets_byId_iff {s : Schema} {t : TypeModel} {kind : EntityKind} {id : String}
    (ht : t ∈ s.types.toList) (hm : ∃ m ∈ t.members, m.is kind id) :
    (s.targets (.byId id) kind).head? = some (.members t.name kind id) ↔
      ∀ u ∈ s.types.toList.takeWhile (·.name ≠ t.name), ∀ m ∈ u.members, m.is kind id = false := by
  have hother (u : TypeModel) (_ : u ∈ s.types.toList) (hname : u.name ≠ t.name) :
      .members t.name kind id ∉ targetsIn u kind id := by
    intro hx
    have heq := (mem_targetsIn.1 hx).1
    rw [Target.members.injEq] at heq
    exact hname heq.1.symm
  rw [targets_byId, head?_flatMap_eq_some_iff ht (fun _ hu hname => eq_of_name hu ht hname) hother,
    and_iff_left (head?_targetsIn hm)]
  simp only [targetsIn_eq_nil_iff]

/-- The members of one type come first among the targets exactly if no others get in between. -/
theorem head?_targets_iff {s : Schema} {kinds : List EntityKind} {t : TypeModel} {kind : EntityKind}
    {id : String} (hkind : kind ∈ kinds) (ht : t ∈ s.types.toList) (hm : ∃ m ∈ t.members, m.is kind id) :
    (kinds.flatMap (s.targets (.byId id))).head? = some (.members t.name kind id) ↔
      (∀ kind' ∈ kinds.takeWhile (· ≠ kind), ∀ u ∈ s.types.toList, ∀ m ∈ u.members, m.is kind' id = false) ∧
        ∀ u ∈ s.types.toList.takeWhile (·.name ≠ t.name), ∀ m ∈ u.members, m.is kind id = false := by
  have hother (kind' : EntityKind) (_ : kind' ∈ kinds) (hne : kind' ≠ kind) :
      .members t.name kind id ∉ s.targets (.byId id) kind' := by
    intro hx
    obtain ⟨u, -, heq, -⟩ := mem_targets_byId.1 hx
    rw [Target.members.injEq] at heq
    exact hne heq.2.1.symm
  rw [head?_flatMap_eq_some_iff (g := fun kind' => kind') hkind (fun _ _ heq => heq) hother,
    head?_targets_byId_iff ht hm]
  simp only [targets_byId, List.flatMap_eq_nil_iff, targetsIn_eq_nil_iff]

theorem strike_members {s : Schema} {u : TypeModel} (hu : u ∈ s.types.toList) (kind : EntityKind) (id : String) :
    s.strike (.members u.name kind id) =
      { s with types := s.types.insert (u.without kind id), revision := s.revision + 1 } := by
  have hfind : s.types.find? u.name = some u := Roster.find?_of_mem hu
  simp only [strike, hfind]

end Schema

theorem TypeModel.is_eq_false_of_mem_without {t : TypeModel} {kind : EntityKind} {id : String} {m : Member}
    (h : m ∈ (t.without kind id).members) : m.is kind id = false := by
  simpa using List.of_mem_filter h

/-- A member that is the only one of its kind and identifier goes alone. -/
theorem TypeModel.without_of_split {t : TypeModel} {before after : List Member} {m : Member}
    (hmembers : t.members = before ++ m :: after) {kind : EntityKind} {id : String} (his : m.is kind id = true)
    (hothers : ∀ m' ∈ before ++ after, m'.is kind id = false) :
    t.without kind id = { t with members := before ++ after } := by
  have hkept : (before ++ after).filter (fun m' => !m'.is kind id) = before ++ after :=
    List.filter_eq_self.2 fun m' hm' => by simp [hothers m' hm']
  have hdropped : (before ++ m :: after).filter (fun m' => !m'.is kind id) =
      (before ++ after).filter fun m' => !m'.is kind id := by
    simp [List.filter_append, his]
  rw [TypeModel.without, hmembers, hdropped, hkept]

namespace Schema

/-- Striking members of a type takes one away, and nothing else, exactly if it is the only one of its kind and
identifier there. -/
theorem strike_eq_iff {s : Schema} {t u : TypeModel} (ht : t ∈ s.types.toList) (hu : u ∈ s.types.toList)
    {kind : EntityKind} {id : String} (hstruck : ∃ m ∈ u.members, m.is kind id)
    {before after : List Member} {m : Member} (hmembers : t.members = before ++ m :: after) :
    s.strike (.members u.name kind id) =
        { s with types := s.types.insert { t with members := before ++ after }, revision := s.revision + 1 } ↔
      u = t ∧ m.is kind id ∧ ∀ m' ∈ before ++ after, m'.is kind id = false := by
  rw [strike_members hu]
  constructor
  · intro heq
    have hleft : (s.types.insert (u.without kind id)).find? u.name = some (u.without kind id) := by
      rw [Roster.find?_insert]
      exact if_pos rfl
    have hright : (s.types.insert { t with members := before ++ after }).find? u.name =
        if u.name = t.name then some { t with members := before ++ after } else s.types.find? u.name :=
      Roster.find?_insert ..
    have hat := hleft.symm.trans ((congrArg (fun s' : Schema => s'.types.find? u.name) heq).trans hright)
    obtain ⟨m', hm', his⟩ := hstruck
    by_cases hname : u.name = t.name
    · obtain rfl := eq_of_name hu ht hname
      rw [if_pos rfl, Option.some.injEq] at hat
      have hothers (other : Member) (hin : other ∈ before ++ after) : other.is kind id = false :=
        TypeModel.is_eq_false_of_mem_without (t := u) (by rwa [hat])
      have hnot : m' ∉ before ++ after := fun hin => by simp [hothers m' hin] at his
      have hm : m' = m := by
        rw [hmembers] at hm'
        simp only [List.mem_append, List.mem_cons] at hm' hnot
        tauto
      exact ⟨rfl, hm ▸ his, hothers⟩
    · -- The type that was struck at would stand as before, with the member that was struck.
      have hfindu : s.types.find? u.name = some u := Roster.find?_of_mem hu
      rw [if_neg hname, hfindu, Option.some.injEq] at hat
      have hstays : m'.is kind id = false := TypeModel.is_eq_false_of_mem_without (by rwa [hat])
      rw [hstays] at his
      cases his
  · rintro ⟨rfl, his, hothers⟩
    rw [TypeModel.without_of_split hmembers his hothers]

end Schema

/-- A deletion by identifier strikes the first target, which is members of some type. -/
theorem Handler.apply_byId {h : Handler} {t : Token} {kinds : List EntityKind} {id : String}
    (hplan : h.plan t = some (.delete kinds (.byId id))) {s s' : Schema} {repair : Repair}
    (happly : h.apply t s = (some repair, s')) :
    ∃ u ∈ s.types.toList, ∃ kind, (∃ m ∈ u.members, m.is kind id) ∧ s' = s.strike (.members u.name kind id) ∧
      (kinds.flatMap (s.targets (.byId id))).head? = some (.members u.name kind id) := by
  rw [apply, hplan] at happly
  rcases carryOut_cases hplan s with ⟨repair', target, hhead, hrun⟩ | ⟨s'', hrun, -⟩
  · have hfirst : (kinds.flatMap (s.targets (.byId id))).head? = some target := hhead
    obtain ⟨kind, -, htarget⟩ := List.mem_flatMap.1 (List.mem_of_mem_head? hfirst)
    obtain ⟨u, hu, rfl, hstruck⟩ := Schema.mem_targets_byId.1 htarget
    have hs' : s' = s.strike (.members u.name kind id) := (congrArg Prod.snd (hrun.symm.trans happly)).symm
    exact ⟨u, hu, kind, hstruck, hs', hfirst⟩
  · exact absurd (hrun.symm.trans happly) (by simp)

/-- A handler that deletes by the located entity's identifier deletes the located member, and changes nothing
else, exactly if the schema singles that member out. -/
theorem Handler.deletes_located_member_iff {s s' : Schema} {t : TypeModel} (ht : t ∈ s.types.toList)
    {unit : SourceUnit} (hunit : t.generate = .ok unit) {d : Diagnostic} {e : EntityRef}
    (he : (Token.correlate d (some unit)).entity = some e) {h : Handler} {kinds : List EntityKind}
    (hplan : h.plan (Token.correlate d (some unit)) = some (.delete kinds (.byId e.id))) {repair : Repair}
    (happly : h.apply (Token.correlate d (some unit)) s = (some repair, s')) :
    ∃ before m after, t.members = before ++ m :: after ∧
      (Token.correlate d (some unit)).LocatedAt t before m ∧ e = (m.block t.name).entity ∧
      (s' = { s with
          types := s.types.insert { t with members := before ++ after }, revision := s.revision + 1 } ↔
        s.Singles kinds t e.kind e.id (before ++ after)) := by
  obtain ⟨hkinds, hdeletion⟩ := plan_eq_delete hplan
  have hkind : e.kind ∈ kinds := by
    rcases hdeletion with ⟨e', he', hkind, -⟩ | ⟨name, hkey⟩
    · rw [he, Option.some.injEq] at he'
      rwa [he']
    · cases hkey
  have hnotype : e.kind ≠ .type := fun heq => hkinds (heq ▸ hkind)
  obtain ⟨before, m, after, hmembers, hlocated⟩ := Token.locatedAt_of_entity hunit he hnotype
  have hentity : e = (m.block t.name).entity := Option.some.inj (he.symm.trans hlocated.entity)
  have his : m.is e.kind e.id = true := Member.is_iff.2 (by rw [hentity]; exact ⟨rfl, rfl⟩)
  have hm : m ∈ t.members := by simp [hmembers]
  refine ⟨before, m, after, hmembers, hlocated, hentity, ?_⟩
  obtain ⟨u, hu, kind, hstruck, rfl, hfirst⟩ := apply_byId hplan happly
  have hsingle := Schema.head?_targets_iff hkind ht ⟨m, hm, his⟩
  rw [Schema.strike_eq_iff ht hu hstruck hmembers]
  constructor
  · rintro ⟨rfl, hmis, hothers⟩
    obtain rfl : e.kind = kind := (Member.is_iff.1 his).1.symm.trans (Member.is_iff.1 hmis).1
    obtain ⟨hkinds, htypes⟩ := hsingle.1 hfirst
    exact ⟨hkinds, htypes, hothers⟩
  · rintro ⟨hkinds, htypes, hothers⟩
    have heq := hfirst.symm.trans (hsingle.2 ⟨hkinds, htypes⟩)
    rw [Option.some.injEq, Target.members.injEq] at heq
    obtain ⟨hname, rfl, -⟩ := heq
    exact ⟨Schema.eq_of_name hu ht hname, his, hothers⟩

/-! ### A property and a method -/

def orderWith (property method : String) : TypeModel :=
  ⟨"app.Order", "type Order", [⟨.property, property, "total", "total: int"⟩, ⟨.method, method, "sum", "sum()"⟩]⟩

def duplicateAtMethod : Diagnostic :=
  ⟨.error, "app.Order", 3, "duplicate definition", some .duplicateDefinition⟩

/-- The handler for duplicates of every standard pipeline. -/
def Handler.duplicateHandler : Handler := .duplicateDefinition FailureClass.duplicateDefinition.pattern

theorem eq_method_of_split {property method : String} {before after : List Member} {m : Member}
    (h : (orderWith property method).members = before ++ m :: after) (hm : m.kind = .method) :
    before = [⟨.property, property, "total", "total: int"⟩] ∧ after = [] := by
  rcases before with _ | ⟨first, _ | ⟨second, before⟩⟩
  · obtain ⟨rfl, -⟩ := List.cons.inj h
    cases hm
  · obtain ⟨rfl, hrest⟩ := List.cons.inj h
    have hafter : [] = after := (List.cons.inj hrest).2
    exact ⟨rfl, hafter.symm⟩
  · have hlength := congrArg List.length h
    simp [orderWith] at hlength

/-- With two identifiers the method is deleted and the property stays. -/
theorem Handler.deletes_located_method :
    ∃ unit repair s', (orderWith "p" "m").generate = .ok unit ∧
      (Token.correlate duplicateAtMethod (some unit)).entity = some ⟨.method, "m", "sum", "app.Order"⟩ ∧
      duplicateHandler.plan (Token.correlate duplicateAtMethod (some unit)) =
        some (.delete [.property, .method] (.byId "m")) ∧
      duplicateHandler.apply (Token.correlate duplicateAtMethod (some unit))
        (Schema.empty.upsert (orderWith "p" "m")) = (some repair, s') ∧
      s'.types.find? "app.Order" =
        some { orderWith "p" "m" with members := [⟨.property, "p", "total", "total: int"⟩] } := by
  refine ⟨_, _, _, rfl, rfl, rfl, rfl, ?_⟩
  obtain ⟨before, m, after, hmembers, -, hentity, hiff⟩ :=
    deletes_located_member_iff (s := Schema.empty.upsert (orderWith "p" "m")) (t := orderWith "p" "m")
      List.mem_cons_self rfl (d := duplicateAtMethod) rfl (h := duplicateHandler) rfl rfl
  obtain ⟨rfl, rfl⟩ := eq_method_of_split hmembers (congrArg EntityRef.kind hentity).symm
  rw [hiff.2 ⟨by decide, by decide, by decide⟩]
  rfl

/-- With one identifier for both the property is deleted in the method's place. -/
theorem Handler.deletes_other_member :
    ∃ unit repair s', (orderWith "x" "x").generate = .ok unit ∧
      (Token.correlate duplicateAtMethod (some unit)).entity = some ⟨.method, "x", "sum", "app.Order"⟩ ∧
      duplicateHandler.plan (Token.correlate duplicateAtMethod (some unit)) =
        some (.delete [.property, .method] (.byId "x")) ∧
      duplicateHandler.apply (Token.correlate duplicateAtMethod (some unit))
        (Schema.empty.upsert (orderWith "x" "x")) = (some repair, s') ∧
      repair.action = .deleted ∧
      ¬ ∃ before m after, (orderWith "x" "x").members = before ++ m :: after ∧
        (Token.correlate duplicateAtMethod (some unit)).LocatedAt (orderWith "x" "x") before m ∧
        s'.types.find? "app.Order" = some { orderWith "x" "x" with members := before ++ after } := by
  refine ⟨_, _, _, rfl, rfl, rfl, rfl, rfl, ?_⟩
  rintro ⟨before, m, after, hmembers, hlocated, hafter⟩
  have hkind : m.kind = .method :=
    congrArg EntityRef.kind (Option.some.inj (hlocated.entity.symm.trans rfl))
  obtain ⟨rfl, rfl⟩ := eq_method_of_split hmembers hkind
  revert hafter
  decide

end HotSchema
