import HotSchema.Proofs.Roster
import HotSchema.Schema.Transaction
/-!
# Updates that fail

An update sets the fields that it is given one after the other, in the copy that its transaction works on, and
gives up at the first field that the entity does not have. The fields before that one stay set. So an update
that fails leaves the transaction as it was exactly if its entity was not there, or had the values already that
the fields before the unknown one set; and that is also when a commit publishes nothing of it.
-/

namespace HotSchema

/-! ### Assignments -/

/-- The fields that an update can set. -/
def EntityKind.fields (kind : EntityKind) : List String := if kind = .type then ["header"] else ["name", "source"]

/-- The assignments before the first to a field that the kind does not have. -/
def EntityKind.known (kind : EntityKind) (fields : List (String × String)) : List (String × String) :=
  fields.takeWhile fun f => f.1 ∈ kind.fields

def EntityKind.firstUnknown? (kind : EntityKind) (fields : List (String × String)) : Option String :=
  (fields.map Prod.fst).find? fun field => field ∉ kind.fields

/-- The value that assignments leave in a field: of those to the field the last counts. -/
def assigned? (fields : List (String × String)) (field : String) : Option String := fields.reverse.lookup field

theorem assigned?_cons (field value : String) (rest : List (String × String)) (other : String) :
    assigned? ((field, value) :: rest) other =
      (assigned? rest other).or (if other = field then some value else none) := by
  rw [assigned?, List.reverse_cons, List.lookup_append]
  by_cases h : other = field
  · simp [assigned?, h]
  · have hne : (other == field) = false := by simpa using h
    simp [assigned?, h, List.lookup_cons, hne]

theorem getD_assigned?_cons (field value : String) (rest : List (String × String)) (old : String) :
    (assigned? ((field, value) :: rest) field).getD old = (assigned? rest field).getD value := by
  rw [assigned?_cons, if_pos rfl]
  cases assigned? rest field <;> rfl

theorem assigned?_cons_of_ne {field other : String} (h : other ≠ field) (value : String)
    (rest : List (String × String)) : assigned? ((field, value) :: rest) other = assigned? rest other := by
  rw [assigned?_cons, if_neg h, Option.or_none]

def TypeModel.assign (t : TypeModel) (fields : List (String × String)) : TypeModel :=
  { t with header := (assigned? fields "header").getD t.header }

def Member.assign (m : Member) (fields : List (String × String)) : Member :=
  { m with name := (assigned? fields "name").getD m.name, source := (assigned? fields "source").getD m.source }

namespace Transaction

theorem setTypeFields_eq (t : TypeModel) (fields : List (String × String)) :
    setTypeFields t fields = (t.assign (EntityKind.known .type fields), EntityKind.firstUnknown? .type fields) := by
  induction fields generalizing t with
  | nil => rfl
  | cons first rest ih =>
    obtain ⟨field, value⟩ := first
    unfold setTypeFields
    by_cases hheader : field = "header"
    · subst hheader
      rw [if_pos rfl, ih]
      simp [TypeModel.assign, EntityKind.known, EntityKind.firstUnknown?, EntityKind.fields, getD_assigned?_cons]
    · rw [if_neg hheader]
      simp [TypeModel.assign, EntityKind.known, EntityKind.firstUnknown?, EntityKind.fields, hheader, assigned?]

theorem setMemberFields_eq {kind : EntityKind} (hkind : kind ≠ .type) (m : Member)
    (fields : List (String × String)) : setMemberFields m fields = (m.assign (kind.known fields), kind.firstUnknown? fields) := by
  have hfields : kind.fields = ["name", "source"] := if_neg hkind
  induction fields generalizing m with
  | nil => rfl
  | cons first rest ih =>
    obtain ⟨field, value⟩ := first
    unfold setMemberFields
    by_cases hname : field = "name"
    · subst hname
      rw [if_pos rfl, ih]
      simp [Member.assign, EntityKind.known, EntityKind.firstUnknown?, hfields, getD_assigned?_cons,
        assigned?_cons_of_ne (show "source" ≠ "name" by decide)]
    · rw [if_neg hname]
      by_cases hsource : field = "source"
      · subst hsource
        rw [if_pos rfl, ih]
        simp [Member.assign, EntityKind.known, EntityKind.firstUnknown?, hfields, getD_assigned?_cons,
          assigned?_cons_of_ne (show "name" ≠ "source" by decide)]
      · rw [if_neg hsource]
        simp [Member.assign, EntityKind.known, EntityKind.firstUnknown?, hfields, hname, hsource, assigned?]

/-! ### What an entity has -/

end Transaction

def TypeModel.field? (t : TypeModel) (field : String) : Option String :=
  if field = "header" then some t.header else none

def Member.field? (m : Member) (field : String) : Option String :=
  if field = "name" then some m.name else if field = "source" then some m.source else none

theorem getD_eq_self_iff {o : Option String} {old : String} :
    o.getD old = old ↔ ∀ value, o = some value → old = value := by
  cases o with
  | none => simp
  | some value => simp [eq_comm]

theorem TypeModel.assign_eq_self_iff {t : TypeModel} {fields : List (String × String)} :
    t.assign fields = t ↔ ∀ field ∈ EntityKind.fields .type, ∀ value, assigned? fields field = some value →
      t.field? field = some value := by
  have hheader : t.assign fields = t ↔ (assigned? fields "header").getD t.header = t.header := by
    cases t
    simp [assign]
  rw [hheader, getD_eq_self_iff]
  simp [EntityKind.fields, field?]

theorem Member.assign_eq_self_iff {kind : EntityKind} (hkind : kind ≠ .type) {m : Member}
    {fields : List (String × String)} :
    m.assign fields = m ↔ ∀ field ∈ kind.fields, ∀ value, assigned? fields field = some value →
      m.field? field = some value := by
  have hboth : m.assign fields = m ↔
      (assigned? fields "name").getD m.name = m.name ∧ (assigned? fields "source").getD m.source = m.source := by
    cases m
    simp [assign]
  rw [hboth, getD_eq_self_iff, getD_eq_self_iff]
  simp [EntityKind.fields, hkind, field?]

namespace Transaction

/-- The value that a field of an entity has in the copy. -/
def value? (tx : Transaction) (e : Entity) (field : String) : Option String :=
  if e.kind = .type then (tx.working.find? e.id).bind (·.field? field)
  else ((tx.ownerOf? e).bind fun t => t.members.find? fun m => m.kind = e.kind && m.id = e.id).bind (·.field? field)

/-- The entity has the values already that assignments leave in its fields. -/
def Has (tx : Transaction) (e : Entity) (fields : List (String × String)) : Prop :=
  ∀ field ∈ e.kind.fields, ∀ value, assigned? fields field = some value → tx.value? e field = some value

theorem splitAtMember_eq_some {p : Member → Bool} {l before after : List Member} {m : Member}
    (h : splitAtMember p l = some (before, m, after)) : l = before ++ m :: after ∧ l.find? p = some m := by
  induction l generalizing before with
  | nil => cases h
  | cons first rest ih =>
    unfold splitAtMember at h
    split at h
    · next hfirst =>
      cases h
      exact ⟨rfl, List.find?_cons_of_pos hfirst⟩
    · next hfirst =>
      obtain ⟨⟨before', m', after'⟩, hsplit, heq⟩ := Option.map_eq_some_iff.1 h
      cases heq
      obtain ⟨rfl, hfind⟩ := ih hsplit
      exact ⟨rfl, (List.find?_cons_of_neg hfirst).trans hfind⟩

/-! ### Updates -/

/-- An update does not find its entity and changes nothing, or it sets what comes before the first unknown
field. -/
theorem update_cases (tx : Transaction) (e : Entity) (fields : List (String × String)) :
    tx.update e fields = (.error (.vanished e.kind e.id), tx) ∨
      ∃ tx', tx.update e fields =
          (match e.kind.firstUnknown? fields with
            | none => .ok ()
            | some field => .error (.unknownField e.kind e.id field), tx') ∧
        (tx' = tx ↔ tx.Has e (e.kind.known fields)) := by
  have hsame (t u : TypeModel) (hfind : tx.working.find? t.name = some u) :
      ({ tx with working := tx.working.insert t } : Transaction) = tx ↔ t = u := by
    rw [← Roster.insert_eq_self_iff hfind]
    cases tx
    simp
  by_cases hkind : e.kind = .type
  · rcases hfind : tx.working.find? e.id with _ | t
    · exact Or.inl (by simp [update, hkind, hfind])
    · have hname : t.name = e.id := Roster.name_of_find? hfind
      have hstored : tx.working.find? (t.assign (e.kind.known fields)).name = some t := hname ▸ hfind
      refine Or.inr ⟨{ tx with working := tx.working.insert (t.assign (e.kind.known fields)) }, ?_, ?_⟩
      · rcases hunknown : EntityKind.firstUnknown? .type fields with _ | field <;>
          simp only [update, hkind, if_pos, hfind, setTypeFields_eq, hunknown]
      · rw [hsame _ t hstored, TypeModel.assign_eq_self_iff]
        simp only [Has, value?, hkind, if_pos, hfind, Option.bind_some]
  · rcases howner : tx.ownerOf? e with _ | t
    · exact Or.inl (by simp [update, hkind, howner])
    · rcases hsplit : splitAtMember (fun m => m.kind = e.kind && m.id = e.id) t.members with _ | ⟨before, m, after⟩
      · exact Or.inl (by simp [update, hkind, howner, hsplit])
      · obtain ⟨hmembers, hfound⟩ := splitAtMember_eq_some hsplit
        have hstored : tx.working.find? t.name = some t := by
          obtain ⟨owner, -, hfind⟩ := Option.bind_eq_some_iff.1 howner
          have hname : t.name = owner := Roster.name_of_find? hfind
          rwa [hname]
        let set : TypeModel := { t with members := before ++ m.assign (e.kind.known fields) :: after }
        have hset : set = t ↔ m.assign (e.kind.known fields) = m := by
          cases t
          simp_all [set]
        refine Or.inr ⟨{ tx with working := tx.working.insert set }, ?_, ?_⟩
        · rcases hunknown : e.kind.firstUnknown? fields with _ | field <;>
            simp only [update, if_neg hkind, howner, hsplit, setMemberFields_eq hkind, hunknown, set]
        · rw [hsame set t hstored, hset, Member.assign_eq_self_iff hkind]
          simp only [Has, value?, if_neg hkind, howner, Option.bind_some, hfound]

end Transaction

/-- What a commit publishes tells transactions apart. -/
theorem Schema.commit_eq_iff {s : Schema} (hs : s.failingCommits = 0) (tx tx' : Transaction) :
    (s.commit tx').2 = (s.commit tx).2 ↔ tx' = tx := by
  have hcommit (tx : Transaction) : (s.commit tx).2 =
      { s with types := tx.working, removed := s.removed ++ tx.removed, revision := s.revision + 1 } := by
    rw [commit, if_neg (by omega)]
  rw [hcommit, hcommit]
  cases tx
  cases tx'
  simp

namespace Transaction

/-- An update that fails did not find its entity, or names the first field that the entity does not have. It
leaves the transaction as it was, and a later commit without a trace of it, exactly if it did not find the
entity or the entity had the values of the fields before that one already. -/
theorem failed_update_unseen_iff {tx tx' : Transaction} {e : Entity} {fields : List (String × String)}
    {error : RepositoryError} (h : tx.update e fields = (.error error, tx')) :
    (error = .vanished e.kind e.id ∨
        ∃ field, e.kind.firstUnknown? fields = some field ∧ error = .unknownField e.kind e.id field) ∧
      (tx' = tx ↔ error = .vanished e.kind e.id ∨ tx.Has e (e.kind.known fields)) ∧
      ∀ s : Schema, s.failingCommits = 0 →
        ((s.commit tx').2 = (s.commit tx).2 ↔ error = .vanished e.kind e.id ∨ tx.Has e (e.kind.known fields)) := by
  have hleft : (error = .vanished e.kind e.id ∨
        ∃ field, e.kind.firstUnknown? fields = some field ∧ error = .unknownField e.kind e.id field) ∧
      (tx' = tx ↔ error = .vanished e.kind e.id ∨ tx.Has e (e.kind.known fields)) := by
    rcases update_cases tx e fields with hvanished | ⟨tx'', hset, hiff⟩
    · rw [hvanished] at h
      cases h
      exact ⟨Or.inl rfl, iff_of_true rfl (Or.inl rfl)⟩
    · rw [hset] at h
      obtain ⟨hresult, rfl⟩ := Prod.mk.inj h
      rcases hunknown : e.kind.firstUnknown? fields with _ | field <;> rw [hunknown] at hresult <;> cases hresult
      exact ⟨Or.inr ⟨field, rfl, rfl⟩, by simp [hiff]⟩
  exact ⟨hleft.1, hleft.2, fun s hs => (s.commit_eq_iff hs tx tx').trans hleft.2⟩

/-! ### A property and a colour -/

def order : Schema :=
  Schema.empty.upsert ⟨"app.Order", "type Order", [⟨.property, "p1", "total", "total: int"⟩]⟩

def total : Entity := ⟨.property, "p1", "total", some "app.Order", []⟩

/-- To set the text that is there already does no harm. -/
theorem failed_update_of_same_text :
    ∃ error tx', update ⟨order.types, []⟩ total [("source", "total: int"), ("colour", "red")] = (.error error, tx') ∧
      tx' = ⟨order.types, []⟩ := by
  have hupdate : update ⟨order.types, []⟩ total [("source", "total: int"), ("colour", "red")] =
      (.error (.unknownField .property "p1" "colour"),
        (update ⟨order.types, []⟩ total [("source", "total: int"), ("colour", "red")]).2) := Prod.ext rfl rfl
  refine ⟨_, _, hupdate, (failed_update_unseen_iff hupdate).2.1.2 (Or.inr ?_)⟩
  have hvalues : ∀ field ∈ total.kind.fields, ∀ value ∈ assigned? (total.kind.known
      [("source", "total: int"), ("colour", "red")]) field, value? ⟨order.types, []⟩ total field = some value := by
    decide
  exact hvalues

/-- A new text before an unknown colour is published, though the update failed. -/
theorem failed_update_published :
    ∃ error tx', update ⟨order.types, []⟩ total [("source", "total: text"), ("colour", "red")] = (.error error, tx') ∧
      tx' ≠ ⟨order.types, []⟩ ∧ (order.commit tx').1 = .ok () ∧
      (order.commit tx').2.types.find? "app.Order" =
        some ⟨"app.Order", "type Order", [⟨.property, "p1", "total", "total: text"⟩]⟩ :=
  ⟨.unknownField .property "p1" "colour", _, rfl, by decide, rfl, rfl⟩

end Transaction

end HotSchema
