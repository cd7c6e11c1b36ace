import HotSchema.Healing.Shape
import Mathlib.Data.List.Infix
/-!
# Which fit of a shape counts

A fit says how a text has a shape: what every part takes, and which of the alternatives it goes by. Where two fits part
for the first time, the better one has the longer run, the first alternative, or the optional part. This order does not
speak of any matching, and matching keeps to it: the ways of a shape are its fits at a place, the better ones first. So
the way that a search finds is that of the best fit at the leftmost place where there is one.
-/

namespace HotSchema

/-- Two texts stand at a place, one after the other, if the second stands where the first ends. -/
theorem append_prefix_iff {s t message : List Char} :
    s ++ t <+: message ↔ s <+: message ∧ t <+: message.drop s.length := by
  constructor
  · rintro ⟨after, rfl⟩
    rw [List.append_assoc, List.drop_left]
    exact ⟨List.prefix_append _ _, List.prefix_append _ _⟩
  · rintro ⟨⟨rest, rfl⟩, hrest⟩
    rw [List.drop_left] at hrest
    exact (List.prefix_append_right_inj _).2 hrest

inductive Fit where
  | nothing
  | one (x : Char)
  | run (taken : List Char)
  | seq (front back : Fit)
  | first (fit : Fit)
  | second (fit : Fit)
  | present (fit : Fit)
  | absent
  | named (fit : Fit)

namespace Fit

def text : Fit → List Char
  | nothing => []
  | one x => [x]
  | run taken => taken
  | seq front back => front.text ++ back.text
  | first fit => fit.text
  | second fit => fit.text
  | present fit => fit.text
  | absent => []
  | named fit => fit.text

/-- The text of the part that is wanted as a name, if there is one. -/
def name : Fit → Option (List Char)
  | nothing => none
  | one _ => none
  | run _ => none
  | seq front back => back.name.or front.name
  | first fit => fit.name
  | second fit => fit.name
  | present fit => fit.name
  | absent => none
  | named fit => some fit.text

/-- The first is better than the second, as a fit of one shape at one place. -/
inductive Better : Fit → Fit → Prop where
  | run {long short : List Char} (h : short <+: long) (hlength : short.length < long.length) :
    Better (run long) (run short)
  | front {front front' back back' : Fit} (h : Better front front') : Better (seq front back) (seq front' back')
  | back {front back back' : Fit} (h : Better back back') : Better (seq front back) (seq front back')
  | choice {fit fit' : Fit} : Better (first fit) (second fit')
  | first {fit fit' : Fit} (h : Better fit fit') : Better (first fit) (first fit')
  | second {fit fit' : Fit} (h : Better fit fit') : Better (second fit) (second fit')
  | optional {fit : Fit} : Better (present fit) absent
  | present {fit fit' : Fit} (h : Better fit fit') : Better (present fit) (present fit')
  | named {fit fit' : Fit} (h : Better fit fit') : Better (named fit) (named fit')

theorem Better.ne {f g : Fit} (h : Better f g) : f ≠ g := by
  induction h with
  | run _ hlength =>
    intro heq
    cases heq
    exact Nat.lt_irrefl _ hlength
  | choice | optional =>
    intro heq
    cases heq
  | front _ ih | back _ ih | first _ ih | second _ ih | present _ ih | named _ ih =>
    intro heq
    cases heq
    exact ih rfl

theorem Better.asymm {f g : Fit} (h : Better f g) : ¬ Better g f := by
  intro h'
  induction h with
  | run _ hlength =>
    cases h' with
    | run _ hlength' => exact Nat.lt_asymm hlength hlength'
  | front h ih =>
    cases h' with
    | front h' => exact ih h'
    | back => exact h.ne rfl
  | back _ ih =>
    cases h' with
    | front h' => exact h'.ne rfl
    | back h' => exact ih h'
  | choice => cases h'
  | optional => cases h'
  | first _ ih =>
    cases h' with
    | first h' => exact ih h'
  | second _ ih =>
    cases h' with
    | second h' => exact ih h'
  | present _ ih =>
    cases h' with
    | present h' => exact ih h'
  | named _ ih =>
    cases h' with
    | named h' => exact ih h'

/-- The place that matching reaches with the fit. -/
def way : Fit → Way → Way
  | nothing, w => w
  | one _, w => { w with rest := w.rest.tail }
  | run taken, w => { w with rest := w.rest.drop taken.length }
  | seq front back, w => back.way (front.way w)
  | first fit, w => fit.way w
  | second fit, w => fit.way w
  | present fit, w => fit.way w
  | absent, w => w
  | named fit, w => { fit.way w with name := some (w.rest, (fit.way w).rest) }

@[simp] theorem way_rest (f : Fit) (w : Way) : (f.way w).rest = w.rest.drop f.text.length := by
  induction f generalizing w with
  | nothing | absent | run taken => rfl
  | one x => exact List.drop_one.symm
  | seq front back ihFront ihBack =>
    rw [way, ihBack, ihFront, text, List.length_append, List.drop_drop]
  | first fit ih | second fit ih | present fit ih | named fit ih => exact ih w

/-- The name of a way is that of the fit, or else the one from before. -/
theorem symbol_way {f : Fit} {w : Way} (h : f.text <+: w.rest) :
    (f.way w).symbol = (f.name.map String.ofList).or w.symbol := by
  induction f generalizing w with
  | nothing | absent | one _ | run _ => rfl
  | seq front back ihFront ihBack =>
    obtain ⟨hfront, hback⟩ := append_prefix_iff.1 h
    rw [← way_rest front w] at hback
    rw [way, ihBack hback, ihFront hfront, name, Option.map_or, Option.or_assoc]
  | first fit ih | second fit ih | present fit ih => exact ih h
  | named fit ih =>
    obtain ⟨after, hrest⟩ := h
    have htaken : w.rest.take (w.rest.length - (fit.way w).rest.length) = fit.text := by
      rw [way_rest, ← hrest, text, List.drop_left, List.length_append, Nat.add_sub_cancel, List.take_left]
    show some (String.ofList (w.rest.take (w.rest.length - (fit.way w).rest.length))) = _
    rw [htaken]
    rfl

end Fit

namespace Shape

/-- The fits of a shape. -/
inductive Has : Shape → Fit → Prop where
  | nothing : Has nothing .nothing
  | one {c : CharClass} {x : Char} (h : c.has x = true) : Has (one c) (.one x)
  | run {c : CharClass} {taken : List Char} (h : ∀ x ∈ taken, c.has x = true) : Has (run c) (.run taken)
  | seq {first next : Shape} {f g : Fit} (hfirst : Has first f) (hnext : Has next g) :
    Has (seq first next) (.seq f g)
  | first {first second : Shape} {f : Fit} (h : Has first f) : Has (choice first second) (.first f)
  | second {first second : Shape} {f : Fit} (h : Has second f) : Has (choice first second) (.second f)
  | present {shape : Shape} {f : Fit} (h : Has shape f) : Has (optional shape) (.present f)
  | absent {shape : Shape} : Has (optional shape) .absent
  | named {shape : Shape} {f : Fit} (h : Has shape f) : Has (named shape) (.named f)

/-! ### The fits at a place -/

/-- The fits at the start of a text, the better ones first. -/
def fitsAt : Shape → List Char → List Fit
  | nothing, _ => [.nothing]
  | one c, s =>
    match s with
    | [] => []
    | x :: _ => if c.has x then [.one x] else []
  | run c, s => (runRests c [] s).map fun rest => .run (s.take (s.length - rest.length))
  | seq first next, s =>
    (first.fitsAt s).flatMap fun f => (next.fitsAt (s.drop f.text.length)).map (.seq f)
  | choice first second, s => (first.fitsAt s).map .first ++ (second.fitsAt s).map .second
  | optional shape, s => (shape.fitsAt s).map .present ++ [.absent]
  | named shape, s => (shape.fitsAt s).map .named

theorem mem_runRests {c : CharClass} {shorter : List (List Char)} {s rest : List Char} :
    rest ∈ runRests c shorter s ↔ rest ∈ shorter ∨ ∃ taken, s = taken ++ rest ∧ ∀ x ∈ taken, c.has x = true := by
  induction s generalizing shorter with
  | nil =>
    rw [runRests, List.mem_cons, or_comm]
    apply or_congr_right
    constructor
    · rintro rfl
      exact ⟨[], rfl, List.forall_mem_nil _⟩
    · rintro ⟨taken, hempty, -⟩
      exact (List.append_eq_nil_iff.1 hempty.symm).2
  | cons x s ih =>
    -- A run that takes anything takes the first character.
    have hsplit : (∃ taken, x :: s = taken ++ rest ∧ ∀ y ∈ taken, c.has y = true) ↔
        rest = x :: s ∨ c.has x = true ∧ ∃ taken, s = taken ++ rest ∧ ∀ y ∈ taken, c.has y = true := by
      constructor
      · rintro ⟨taken, heq, hall⟩
        rcases taken with _ | ⟨y, taken⟩
        · exact Or.inl heq.symm
        · obtain ⟨rfl, hrest⟩ := List.cons.inj heq
          obtain ⟨hfirst, hothers⟩ := List.forall_mem_cons.1 hall
          exact Or.inr ⟨hfirst, taken, hrest, hothers⟩
      · rintro (rfl | ⟨hfirst, taken, rfl, hall⟩)
        · exact ⟨[], rfl, List.forall_mem_nil _⟩
        · exact ⟨x :: taken, rfl, List.forall_mem_cons.2 ⟨hfirst, hall⟩⟩
    rw [hsplit, runRests]
    split
    · next hfirst =>
      rw [ih, List.mem_cons]
      tauto
    · next hfirst =>
      rw [List.mem_cons]
      tauto

/-- The longer a run is, the shorter is what it leaves, and the longer runs come first. -/
theorem pairwise_runRests {c : CharClass} {shorter : List (List Char)} {s : List Char}
    (hordered : shorter.Pairwise fun a b => a.length < b.length) (hlonger : ∀ rest ∈ shorter, s.length < rest.length) :
    (runRests c shorter s).Pairwise fun a b => a.length < b.length := by
  induction s generalizing shorter with
  | nil => exact List.pairwise_cons.2 ⟨hlonger, hordered⟩
  | cons x s ih =>
    have hcons : ((x :: s) :: shorter).Pairwise fun a b => a.length < b.length :=
      List.pairwise_cons.2 ⟨hlonger, hordered⟩
    rw [runRests]
    split
    · refine ih hcons (List.forall_mem_cons.2 ⟨Nat.lt_succ_self _, fun rest hrest => ?_⟩)
      exact Nat.lt_trans (Nat.lt_succ_self _) (hlonger rest hrest)
    · exact hcons

theorem mem_fitsAt_one_iff {c : CharClass} {s : List Char} {f : Fit} :
    f ∈ (one c).fitsAt s ↔ ∃ x, f = .one x ∧ c.has x = true ∧ [x] <+: s := by
  rcases s with _ | ⟨x, s⟩
  · refine iff_of_false List.not_mem_nil ?_
    rintro ⟨x, -, -, hprefix⟩
    exact List.cons_ne_nil _ _ (List.prefix_nil.1 hprefix)
  · rw [fitsAt]
    constructor
    · intro h
      split at h
      · next hx => exact ⟨x, List.mem_singleton.1 h, hx, List.prefix_append [x] s⟩
      · cases h
    · rintro ⟨y, rfl, hy, hprefix⟩
      obtain ⟨rfl, -⟩ := List.cons_prefix_cons.1 hprefix
      rw [if_pos hy]
      exact List.mem_singleton_self _

theorem mem_fitsAt_run_iff {c : CharClass} {s : List Char} {f : Fit} :
    f ∈ (run c).fitsAt s ↔ ∃ taken, f = .run taken ∧ (∀ x ∈ taken, c.has x = true) ∧ taken <+: s := by
  rw [fitsAt, List.mem_map]
  constructor
  · rintro ⟨rest, hrest, rfl⟩
    obtain ⟨taken, rfl, hall⟩ := (mem_runRests.1 hrest).resolve_left List.not_mem_nil
    rw [List.length_append, Nat.add_sub_cancel, List.take_left]
    exact ⟨taken, rfl, hall, List.prefix_append _ _⟩
  · rintro ⟨taken, rfl, hall, rest, rfl⟩
    refine ⟨rest, mem_runRests.2 (Or.inr ⟨taken, rfl, hall⟩), ?_⟩
    rw [List.length_append, Nat.add_sub_cancel, List.take_left]

/-- The fits at a place are those whose text stands there. -/
theorem mem_fitsAt_iff {shape : Shape} {s : List Char} {f : Fit} :
    f ∈ shape.fitsAt s ↔ shape.Has f ∧ f.text <+: s := by
  induction shape generalizing s f with
  | nothing =>
    rw [fitsAt, List.mem_singleton]
    constructor
    · rintro rfl
      exact ⟨.nothing, List.nil_prefix⟩
    · rintro ⟨⟨⟩, -⟩
      rfl
  | one c =>
    rw [mem_fitsAt_one_iff]
    constructor
    · rintro ⟨x, rfl, hx, hprefix⟩
      exact ⟨.one hx, hprefix⟩
    · rintro ⟨hhas, hprefix⟩
      cases hhas with
      | one hx => exact ⟨_, rfl, hx, hprefix⟩
  | run c =>
    rw [mem_fitsAt_run_iff]
    constructor
    · rintro ⟨taken, rfl, hall, hprefix⟩
      exact ⟨.run hall, hprefix⟩
    · rintro ⟨hhas, hprefix⟩
      cases hhas with
      | run hall => exact ⟨_, rfl, hall, hprefix⟩
  | seq first next ihFirst ihNext =>
    rw [fitsAt, List.mem_flatMap]
    constructor
    · rintro ⟨g, hg, hf⟩
      obtain ⟨h, hh, rfl⟩ := List.mem_map.1 hf
      obtain ⟨hfirst, hfront⟩ := ihFirst.1 hg
      obtain ⟨hnext, hback⟩ := ihNext.1 hh
      exact ⟨.seq hfirst hnext, append_prefix_iff.2 ⟨hfront, hback⟩⟩
    · rintro ⟨hhas, hprefix⟩
      cases hhas with
      | @seq _ _ g h hfirst hnext =>
        obtain ⟨hfront, hback⟩ := append_prefix_iff.1 hprefix
        exact ⟨g, ihFirst.2 ⟨hfirst, hfront⟩, List.mem_map.2 ⟨h, ihNext.2 ⟨hnext, hback⟩, rfl⟩⟩
  | choice first second ihFirst ihSecond =>
    rw [fitsAt, List.mem_append, List.mem_map, List.mem_map]
    constructor
    · rintro (⟨g, hg, rfl⟩ | ⟨g, hg, rfl⟩)
      · exact ⟨.first (ihFirst.1 hg).1, (ihFirst.1 hg).2⟩
      · exact ⟨.second (ihSecond.1 hg).1, (ihSecond.1 hg).2⟩
    · rintro ⟨hhas, hprefix⟩
      cases hhas with
      | first h => exact Or.inl ⟨_, ihFirst.2 ⟨h, hprefix⟩, rfl⟩
      | second h => exact Or.inr ⟨_, ihSecond.2 ⟨h, hprefix⟩, rfl⟩
  | optional shape ih =>
    rw [fitsAt, List.mem_append, List.mem_map, List.mem_singleton]
    constructor
    · rintro (⟨g, hg, rfl⟩ | rfl)
      · exact ⟨.present (ih.1 hg).1, (ih.1 hg).2⟩
      · exact ⟨.absent, List.nil_prefix⟩
    · rintro ⟨hhas, hprefix⟩
      cases hhas with
      | present h => exact Or.inl ⟨_, ih.2 ⟨h, hprefix⟩, rfl⟩
      | absent => exact Or.inr rfl
  | named shape ih =>
    rw [fitsAt, List.mem_map]
    constructor
    · rintro ⟨g, hg, rfl⟩
      exact ⟨.named (ih.1 hg).1, (ih.1 hg).2⟩
    · rintro ⟨hhas, hprefix⟩
      cases hhas with
      | named h => exact ⟨_, ih.2 ⟨h, hprefix⟩, rfl⟩

theorem pairwise_fitsAt (shape : Shape) (s : List Char) : (shape.fitsAt s).Pairwise Fit.Better := by
  induction shape generalizing s with
  | nothing => exact List.pairwise_singleton _ _
  | one c =>
    rcases s with _ | ⟨x, s⟩
    · exact List.Pairwise.nil
    · rw [fitsAt]
      split
      · exact List.pairwise_singleton _ _
      · exact List.Pairwise.nil
  | run c =>
    have hordered : (runRests c [] s).Pairwise fun a b => a.length < b.length :=
      pairwise_runRests List.Pairwise.nil (List.forall_mem_nil _)
    have hlength : ∀ rest ∈ runRests c [] s, rest.length ≤ s.length := by
      intro rest hrest
      obtain ⟨taken, rfl, -⟩ := (mem_runRests.1 hrest).resolve_left List.not_mem_nil
      rw [List.length_append]
      omega
    rw [fitsAt, List.pairwise_map]
    refine hordered.imp_of_mem fun {a b} ha hb hab => .run ?_ ?_
    · exact List.take_prefix_take_left (by omega)
    · have hle := hlength b hb
      rw [List.length_take, List.length_take]
      omega
  | seq first next ihFirst ihNext =>
    rw [fitsAt, List.pairwise_flatMap]
    refine ⟨fun f hf => List.pairwise_map.2 ((ihNext _).imp .back), (ihFirst s).imp fun {f f'} hbetter g hg g' hg' => ?_⟩
    obtain ⟨h, -, rfl⟩ := List.mem_map.1 hg
    obtain ⟨h', -, rfl⟩ := List.mem_map.1 hg'
    exact .front hbetter
  | choice first second ihFirst ihSecond =>
    rw [fitsAt, List.pairwise_append]
    refine ⟨List.pairwise_map.2 ((ihFirst s).imp .first), List.pairwise_map.2 ((ihSecond s).imp .second), ?_⟩
    intro f hf g hg
    obtain ⟨f, -, rfl⟩ := List.mem_map.1 hf
    obtain ⟨g, -, rfl⟩ := List.mem_map.1 hg
    exact .choice
  | optional shape ih =>
    rw [fitsAt, List.pairwise_append]
    refine ⟨List.pairwise_map.2 ((ih s).imp .present), List.pairwise_singleton _ _, ?_⟩
    intro f hf g hg
    obtain ⟨f, -, rfl⟩ := List.mem_map.1 hf
    cases List.mem_singleton.1 hg
    exact .optional
  | named shape ih => exact List.pairwise_map.2 ((ih s).imp .named)

theorem ways_eq (shape : Shape) (w : Way) : shape.ways w = (shape.fitsAt w.rest).map (·.way w) := by
  induction shape generalizing w with
  | nothing => rfl
  | one c =>
    rw [ways]
    rcases hrest : w.rest with _ | ⟨x, s⟩
    · rfl
    · rw [fitsAt]
      dsimp only
      split
      · simp [Fit.way, hrest]
      · rfl
  | run c =>
    rw [ways, fitsAt, List.map_map]
    refine List.map_congr_left fun rest hrest => ?_
    obtain ⟨taken, hsplit, -⟩ := (mem_runRests.1 hrest).resolve_left List.not_mem_nil
    simp [Fit.way, hsplit]
  | seq first next ihFirst ihNext =>
    rw [ways, fitsAt, ihFirst, List.flatMap_map, List.map_flatMap]
    refine List.flatMap_congr fun f _ => ?_
    rw [ihNext, Fit.way_rest, List.map_map]
    rfl
  | choice first second ihFirst ihSecond =>
    rw [ways, fitsAt, ihFirst, ihSecond, List.map_append, List.map_map, List.map_map]
    rfl
  | optional shape ih =>
    rw [ways, fitsAt, ih, List.map_append, List.map_map]
    rfl
  | named shape ih =>
    rw [ways, fitsAt, ih, List.map_map, List.map_map]
    rfl

end Shape

end HotSchema
