import HotSchema.Compiled.Library
import HotSchema.Proofs.Registry
/-!
# The registry as an ordered map

Whatever calls a registry has seen, its snapshot is an ordered map: every name stands in the table once, and
the index says where, as long as the table has no more entries than the index can count. Each accepted call
makes one generation more. It takes out the entries that the batch replaces or the call retires, leaves the
others as and where they were, and puts the batch behind them; and its report tells the three kinds of names
apart. A batch that repeats a name, or that is to retire one of its own, is refused and changes nothing.
-/

namespace HotSchema

inductive RegistryCall (α : Type) where
  | install (batch : List α) (retire : List String)
  | retire (names : List String)
  | reset

variable {α : Type} [Named α]

/-- The table has every name once, and the index has for each the place of its entry, counted modulo 2^32. So in a
table that fits, the index has the place itself, and a name finds its entry. -/
structure Snapshot.Ordered (s : Snapshot α) : Prop where
  nodup : (s.table.map Named.name).Nodup
  counted : ∀ name i, s.place? name = some i ↔ ∃ k, s.table[k]?.map Named.name = some name ∧ .ofNat k = i
  place : s.Fits → ∀ name i, s.place? name = some i ↔ s.table[i.toNat]?.map Named.name = some name
  found : s.Fits → ∀ name, s.get? name = s.table.find? fun entry => Named.name entry == name

namespace Snapshot

theorem contains_ofTable {table : List α} (hnodup : (table.map Named.name).Nodup) (generation : Nat)
    (name : String) : (ofTable table generation).contains name = true ↔ name ∈ table.map Named.name := by
  have hnames : (indexFrom ∅ 0 table).names = table.map Named.name := by
    rw [names_indexFrom (by simpa using hnodup)]
    rfl
  rw [contains, Roster.contains_iff, ofTable, hnames]

end Snapshot

namespace Registry

theorem Sound.place?_iff {r : Registry α} (h : r.Sound) (name : String) (i : UInt32) :
    r.current.place? name = some i ↔ ∃ k, r.current.table[k]?.map Named.name = some name ∧ .ofNat k = i := by
  have hplace := Snapshot.place?_ofTable_iff h.nodup r.current.generation name i
  rwa [← h.indexed] at hplace

theorem Sound.ordered {r : Registry α} (h : r.Sound) : r.current.Ordered where
  nodup := h.nodup
  counted := h.place?_iff
  place := fun hfits name i => by
    rw [h.place?_iff]
    constructor
    · rintro ⟨k, hk, rfl⟩
      have hlt : k < r.current.table.length := by
        obtain ⟨entry, hentry, -⟩ := Option.map_eq_some_iff.1 hk
        exact (List.getElem?_eq_some_iff.1 hentry).1
      rwa [hfits.toNat_ofNat hlt]
    · intro hi
      exact ⟨i.toNat, hi, UInt32.ofNat_toNat⟩
  found := h.get?_eq

theorem Sound.contains_iff {r : Registry α} (h : r.Sound) {name : String} :
    r.current.contains name = true ↔ name ∈ r.registered := by
  have hcontains := Snapshot.contains_ofTable h.nodup r.current.generation name
  rwa [← h.indexed] at hcontains

/-! ### One call -/

/-- The second registry is the next generation of the first, with a batch brought and names retired, and the
report tells how. -/
structure Published (r : Registry α) (batch : List α) (retire : List String) (report : InstallReport)
    (r' : Registry α) : Prop where
  label : r'.label = r.label
  generation : r'.generation = r.generation + 1
  table : r'.current.table =
    (r.current.table.filter fun entry => Named.name entry ∉ retire && Named.name entry ∉ batch.map Named.name) ++ batch
  reported : report.generation = r'.generation
  replaced : report.replaced = r.registered.filter (· ∈ batch.map Named.name)
  added : report.added = (batch.map Named.name).filter (· ∉ r.registered)
  retired : report.retired = r.registered.filter (· ∈ retire)

theorem Sound.published {r : Registry α} (h : r.Sound) {batch : List α} {retire : List String}
    (hretire : ∀ name ∈ retire, name ∉ batch.map Named.name) :
    r.Published batch retire (r.publish batch retire).1 (r.publish batch retire).2 where
  label := rfl
  generation := rfl
  table := rfl
  reported := rfl
  replaced := by
    refine List.filter_congr fun name _ => ?_
    by_cases hbatch : name ∈ batch.map Named.name
    · have hkept : name ∉ retire := fun hmem => hretire name hmem hbatch
      simp only [hbatch, hkept, not_false_eq_true, decide_true, Bool.and_true]
    · simp only [hbatch, decide_false, Bool.and_false]
  added := by
    refine List.filter_congr fun name _ => ?_
    by_cases hold : name ∈ r.registered
    · simp [h.contains_iff.2 hold, hold]
    · have hcontains : r.current.contains name = false := by
        rw [← Bool.not_eq_true, h.contains_iff]
        exact hold
      simp [hcontains, hold]
  retired := rfl

theorem install_of_conflict {r : Registry α} {batch : List α} {retire : List String}
    (hbatch : (batch.map Named.name).Nodup) (hretire : ∃ name ∈ retire, name ∈ batch.map Named.name) :
    r.install batch retire =
      (.error (.installRetireConflict r.label (retire.filter (· ∈ batch.map Named.name))), r) := by
  have hrepeated : repeated? [] (batch.map Named.name) = none :=
    repeated?_eq_none_iff.2 ⟨hbatch, by simp⟩
  unfold install
  simp only [hrepeated]
  split
  · next hnone =>
    obtain ⟨name, hname, hincoming⟩ := hretire
    have hkept := List.filter_eq_nil_iff.1 hnone name hname
    simp [hincoming] at hkept
  · rfl

/-! ### Histories -/

def take (r : Registry α) : RegistryCall α → Registry α
  | .install batch retire => (r.install batch retire).2
  | .retire names => (r.retire names).2
  | .reset => r.reset

def after (r : Registry α) (calls : List (RegistryCall α)) : Registry α := calls.foldl take r

theorem Sound.take {r : Registry α} (h : r.Sound) (call : RegistryCall α) : (r.take call).Sound := by
  cases call with
  | install batch retire =>
    show (r.install batch retire).2.Sound
    rcases hinstall : r.install batch retire with ⟨error | report, r'⟩
    · by_cases hbatch : (batch.map Named.name).Nodup
      · by_cases hretire : ∃ name ∈ retire, name ∈ batch.map Named.name
        · cases hinstall.symm.trans (install_of_conflict hbatch hretire)
          exact h
        · push Not at hretire
          cases hinstall.symm.trans (install_of_nodup hbatch hretire)
      · obtain ⟨name, hrefused⟩ := install_of_repeated (r := r) retire hbatch
        cases hinstall.symm.trans hrefused
        exact h
    · obtain ⟨hbatch, rfl⟩ := install_eq_ok hinstall
      exact h.publish hbatch
  | retire names => exact h.publish (by simp)
  | reset => exact .empty _ rfl

theorem Sound.after {r : Registry α} (h : r.Sound) (calls : List (RegistryCall α)) : (r.after calls).Sound := by
  induction calls generalizing r with
  | nil => exact h
  | cons call rest ih => exact ih (h.take call)

/-- After any calls the registry is an ordered map, and what each further call makes of it is told here: what
is published, what a reset leaves, and that a batch is refused exactly if it repeats a name or shares one with
the names to retire, without a trace. -/
theorem ordered_after (label : String) (calls : List (RegistryCall α)) :
    let r := (Registry.new label : Registry α).after calls
    r.current.Ordered ∧
      (∀ batch retire, (batch.map Named.name).Nodup → (∀ name ∈ retire, name ∉ batch.map Named.name) →
        ∃ report r', r.install batch retire = (.ok report, r') ∧ r.Published batch retire report r') ∧
      (∀ names, r.Published [] names (r.retire names).1 (r.retire names).2) ∧
      (r.reset.current.table = [] ∧ r.reset.generation = r.generation + 1) ∧
      ∀ batch retire, (¬ (batch.map Named.name).Nodup ∨ ∃ name ∈ retire, name ∈ batch.map Named.name) →
        ∃ error, r.install batch retire = (.error error, r) := by
  intro r
  have hsound : r.Sound := Sound.after (.empty 0 rfl) calls
  refine ⟨hsound.ordered, ?_, ?_, ⟨rfl, rfl⟩, ?_⟩
  · intro batch retire hbatch hretire
    exact ⟨_, _, install_of_nodup hbatch hretire, hsound.published hretire⟩
  · intro names
    exact hsound.published (by simp)
  · intro batch retire hrefused
    by_cases hbatch : (batch.map Named.name).Nodup
    · have hretire := hrefused.resolve_left (not_not_intro hbatch)
      exact ⟨_, install_of_conflict hbatch hretire⟩
    · obtain ⟨name, hinstall⟩ := install_of_repeated (r := r) retire hbatch
      exact ⟨_, hinstall⟩

def twoUnits : List (RegistryCall CompiledUnit) :=
  [.install [.ofText "app.A" "a", .ofText "app.B" "b"] []]

/-- One unit stays where it was, one is replaced, one is new, and a name that was never there retires nothing. -/
theorem unit_replaced :
    ((Registry.new "units").after twoUnits).current.place? "app.B" = some 1 ∧
    ∃ report r', ((Registry.new "units").after twoUnits).install [.ofText "app.A" "new", .ofText "app.C" "c"]
        ["app.Missing"] = (.ok report, r') ∧
      r'.registered = ["app.B", "app.A", "app.C"] ∧ report = ⟨2, ["app.A"], ["app.C"], []⟩ := by
  obtain ⟨hordered, haccepted, -⟩ := ordered_after (α := CompiledUnit) "units" twoUnits
  obtain ⟨report, r', hinstall, hpublished⟩ :=
    haccepted [.ofText "app.A" "new", .ofText "app.C" "c"] ["app.Missing"] (by decide) (by decide)
  refine ⟨(hordered.place (by decide) "app.B" 1).2 rfl, report, r', hinstall, ?_, ?_⟩
  · rw [registered, hpublished.table]
    decide
  · have hgeneration := hpublished.reported.trans hpublished.generation
    cases report
    simp only [InstallReport.mk.injEq]
    exact ⟨hgeneration, hpublished.replaced, hpublished.added, hpublished.retired⟩

end Registry

end HotSchema
