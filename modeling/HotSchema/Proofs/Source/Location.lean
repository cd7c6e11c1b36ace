import HotSchema.Diagnostic.Token
import HotSchema.Schema.Model
import Mathlib.Data.List.Basic
/-!
# Where a located line comes from

The spans of a generated unit are those of the type's blocks, header first, and perhaps one for lines that
no block accounts for. So a line that is located in the span of an entity other than the type itself comes
from one member, and the span's index tells from which, whatever names and identifiers there are. And two
units in which every line is located alike have the same spans.
-/

namespace HotSchema

/-! ### Sums in a word -/

/-- The number of lines that spans cover. -/
def covered (spans : List SourceSpan) : Nat := (spans.map (·.lines.toNat)).foldr (· + ·) 0

theorem covered_cons (span : SourceSpan) (rest : List SourceSpan) :
    covered (span :: rest) = span.lines.toNat + covered rest := rfl

theorem covered_append (left right : List SourceSpan) : covered (left ++ right) = covered left + covered right := by
  induction left with
  | nil => exact (Nat.zero_add _).symm
  | cons span rest ih => rw [List.cons_append, covered_cons, covered_cons, ih, Nat.add_assoc]

/-- What a word holds after one span more, if it holds that. -/
theorem toNat_add_lines {sum : UInt64} {span : SourceSpan} (h : sum.toNat + span.lines.toNat < UInt64.size) :
    (sum + span.lines.toUInt64).toNat = sum.toNat + span.lines.toNat := by
  rw [UInt64.toNat_add, UInt32.toNat_toUInt64]
  exact Nat.mod_eq_of_lt h

theorem addLines?_eq (sum : UInt64) (span : SourceSpan) :
    addLines? sum span =
      if sum.toNat + span.lines.toNat < UInt64.size then some (sum + span.lines.toUInt64) else none := by
  have hsum : sum.toNat < UInt64.size := sum.toNat_lt_size
  have hlines : span.lines.toNat < UInt64.size := Nat.lt_trans span.lines.toNat_lt_size (by decide)
  unfold addLines?
  dsimp only
  split_ifs with hwrapped hfits hfits
  · rw [UInt64.lt_iff_toNat_lt, toNat_add_lines hfits] at hwrapped
    omega
  · rfl
  · rfl
  · -- A sum that does not fit comes out smaller than what was added to.
    refine absurd ?_ hwrapped
    rw [UInt64.lt_iff_toNat_lt, UInt64.toNat_add, UInt32.toNat_toUInt64]
    have hmod : (sum.toNat + span.lines.toNat) % UInt64.size = sum.toNat + span.lines.toNat - UInt64.size := by
      rw [Nat.mod_eq_sub_mod (Nat.not_lt.1 hfits), Nat.mod_eq_of_lt (by omega)]
    exact lt_of_eq_of_lt hmod (by omega)

theorem foldlM_addLines? (sum : UInt64) (spans : List SourceSpan) :
    (spans.foldlM addLines? sum).map UInt64.toNat =
      if sum.toNat + covered spans < UInt64.size then some (sum.toNat + covered spans) else none := by
  induction spans generalizing sum with
  | nil =>
    have hsum : sum.toNat + covered [] < UInt64.size := sum.toNat_lt_size
    rw [if_pos hsum]
    rfl
  | cons span rest ih =>
    rw [List.foldlM_cons, addLines?_eq, covered_cons]
    split_ifs with hspan hall hall
    · rw [Option.bind_eq_bind, Option.bind_some, ih, toNat_add_lines hspan, Nat.add_assoc, if_pos hall]
    · rw [Option.bind_eq_bind, Option.bind_some, ih, toNat_add_lines hspan, Nat.add_assoc, if_neg hall]
    · omega
    · rfl

/-- The sum of the spans' lines is their number, or does not fit a word. -/
theorem declaredLines?_eq (spans : List SourceSpan) :
    (declaredLines? spans).map UInt64.toNat =
      if covered spans < UInt64.size then some (covered spans) else none := by
  have hsum := foldlM_addLines? 0 spans
  rwa [UInt64.toNat_zero, Nat.zero_add] at hsum

theorem declaredLines?_eq_some_iff {spans : List SourceSpan} {declared : UInt64} :
    declaredLines? spans = some declared ↔ declared.toNat = covered spans := by
  have hdeclared := declaredLines?_eq spans
  constructor
  · intro hsome
    rw [hsome, Option.map_some] at hdeclared
    obtain ⟨-, hcovered⟩ := Option.ite_none_right_eq_some.1 hdeclared.symm
    exact (Option.some.inj hcovered).symm
  · intro hcovered
    rw [if_pos (hcovered ▸ declared.toNat_lt_size)] at hdeclared
    obtain ⟨sum, hsum, hsame⟩ := Option.map_eq_some_iff.1 hdeclared
    rw [hsum, UInt64.toNat_inj.1 (hsame.trans hcovered.symm)]

theorem exists_declaredLines? {spans : List SourceSpan} (h : covered spans < UInt64.size) :
    ∃ declared, declaredLines? spans = some declared ∧ declared.toNat = covered spans := by
  have hdeclared : (UInt64.ofNat (covered spans)).toNat = covered spans := UInt64.toNat_ofNat_of_lt' h
  exact ⟨_, declaredLines?_eq_some_iff.2 hdeclared, hdeclared⟩

/-- The lines that are left are counted in a word without a loss. -/
theorem toNat_missing {declared : UInt64} {actual : UInt32} (h : declared.toNat ≤ actual.toNat) :
    (actual - declared.toUInt32).toNat = actual.toNat - declared.toNat := by
  have hnarrow : declared.toUInt32.toNat = declared.toNat := by
    rw [UInt64.toNat_toUInt32]
    exact Nat.mod_eq_of_lt (Nat.lt_of_le_of_lt h actual.toNat_lt_size)
  rw [UInt32.toNat_sub_of_le _ _ (UInt32.le_iff_toNat_le.2 (hnarrow ▸ h)), hnarrow]

theorem exists_missing {spans : List SourceSpan} {actual : UInt32} (h : covered spans < actual.toNat) :
    ∃ missing : UInt32, missing ≠ 0 ∧ covered spans + missing.toNat = actual.toNat := by
  have hactual : actual.toNat < UInt32.size := actual.toNat_lt_size
  have hmissing : (UInt32.ofNat (actual.toNat - covered spans)).toNat = actual.toNat - covered spans :=
    UInt32.toNat_ofNat_of_lt' (by omega)
  refine ⟨.ofNat (actual.toNat - covered spans), fun hzero => ?_, by omega⟩
  rw [hzero, UInt32.toNat_zero] at hmissing
  omega

/-! ### Looking a line up -/

/-- The look-up with its running sum in a number. -/
def holderFrom (line index before : Nat) : List SourceSpan → Option (Nat × SourceSpan)
  | [] => none
  | span :: rest =>
    if line ≤ before + span.lines.toNat then some (index, span)
    else holderFrom line (index + 1) (before + span.lines.toNat) rest

/-- The sum of the look-up stays below the line until the line is found, so the word always holds it. -/
theorem locateFrom_eq {line before : UInt64} {index : Nat} {spans : List SourceSpan} (hbefore : before < line)
    (hline : line.toNat < UInt32.size) :
    locateFrom line index before spans = holderFrom line.toNat index before.toNat spans := by
  induction spans generalizing index before with
  | nil => rfl
  | cons span rest ih =>
    rw [UInt64.lt_iff_toNat_lt] at hbefore
    have hlines : span.lines.toNat < UInt32.size := span.lines.toNat_lt_size
    have hword : UInt32.size + UInt32.size ≤ UInt64.size := by decide
    have hreached : (before + span.lines.toUInt64).toNat = before.toNat + span.lines.toNat := toNat_add_lines (by omega)
    simp only [locateFrom, holderFrom, UInt64.le_iff_toNat_le, hreached]
    split_ifs with hfound
    · rfl
    · have hbeyond : before + span.lines.toUInt64 < line := by
        rw [UInt64.lt_iff_toNat_lt, hreached]
        omega
      rw [ih hbeyond, hreached]

theorem locate_eq (spans : List SourceSpan) (line : UInt32) :
    locate spans line = if line = 0 then none else holderFrom line.toNat 0 0 spans := by
  unfold locate
  split_ifs with hzero
  · rfl
  · have hpositive : (0 : UInt64) < line.toUInt64 := by
      rw [UInt64.lt_iff_toNat_lt, UInt32.toNat_toUInt64, UInt64.toNat_zero]
      exact Nat.pos_of_ne_zero fun h => hzero (UInt32.toNat_inj.1 h)
    have hline : line.toUInt64.toNat < UInt32.size := by
      rw [UInt32.toNat_toUInt64]
      exact line.toNat_lt_size
    rw [locateFrom_eq hpositive hline, UInt32.toNat_toUInt64, UInt64.toNat_zero]

theorem holderFrom_eq_some {line index before i : Nat} {spans : List SourceSpan} {span : SourceSpan}
    (h : holderFrom line index before spans = some (i, span)) :
    index ≤ i ∧ spans[i - index]? = some span := by
  induction spans generalizing index before with
  | nil => cases h
  | cons first rest ih =>
    unfold holderFrom at h
    split at h
    · cases h
      simp
    · obtain ⟨hle, hspan⟩ := ih h
      refine ⟨by omega, ?_⟩
      rw [show i - index = i - (index + 1) + 1 by omega, List.getElem?_cons_succ, hspan]

theorem locate_eq_some {spans : List SourceSpan} {line : UInt32} {i : Nat} {span : SourceSpan}
    (h : locate spans line = some (i, span)) : spans[i]? = some span := by
  rw [locate_eq] at h
  split at h
  · cases h
  · exact (holderFrom_eq_some h).2

/-! ### Units and their blocks -/

/-- The thing that an entry of a filtered list was made from, between what stands before and after it. -/
theorem exists_of_getElem?_filterMap {α β : Type} {f : α → Option β} {l : List α} {i : Nat} {b : β}
    (h : (l.filterMap f)[i]? = some b) :
    ∃ left a right, l = left ++ a :: right ∧ f a = some b ∧ (left.filterMap f).length = i := by
  induction l generalizing i with
  | nil => simp at h
  | cons a l ih =>
    rcases hf : f a with _ | c
    · rw [List.filterMap_cons_none hf] at h
      obtain ⟨left, a', right, rfl, ha', hlength⟩ := ih h
      exact ⟨a :: left, a', right, rfl, ha', by rw [List.filterMap_cons_none hf, hlength]⟩
    · rw [List.filterMap_cons_some hf] at h
      rcases i with _ | i
      · exact ⟨[], a, l, rfl, hf.trans h, rfl⟩
      · obtain ⟨left, a', right, rfl, ha', hlength⟩ := ih h
        exact ⟨a :: left, a', right, rfl, ha', by rw [List.filterMap_cons_some hf, List.length_cons, hlength]⟩

namespace SourceUnit

variable {name text : String} {spans : List SourceSpan} {unit : SourceUnit}

theorem ofSpans_of_empty {span : SourceSpan} (hmem : span ∈ spans) (hempty : span.lines = 0) :
    ∃ error, ofSpans name text spans = .error error := by
  unfold ofSpans
  split
  · exact ⟨_, rfl⟩
  · next hnone =>
    have hpositive : span.lines ≠ 0 := by simpa using List.findIdx?_eq_none_iff.1 hnone span hmem
    exact absurd hempty hpositive

/-- If none of the spans is empty, what counts is how many lines they cover. -/
theorem ofSpans_of_positive (hpositive : ∀ span ∈ spans, span.lines ≠ 0) {declared : UInt64}
    (hdeclared : declared.toNat = covered spans) :
    ofSpans name text spans =
      if (HotSchema.lineCount text).toNat < covered spans then
        .error (.spanOverflow name declared (HotSchema.lineCount text))
      else if covered spans < (HotSchema.lineCount text).toNat then
        .ok ⟨name, text, spans ++ [.anonymous (HotSchema.lineCount text - declared.toUInt32)]⟩
      else .ok ⟨name, text, spans⟩ := by
  have hnone : spans.findIdx? (·.lines == 0) = none := by simpa [List.findIdx?_eq_none_iff] using hpositive
  unfold ofSpans
  rw [hnone, declaredLines?_eq_some_iff.2 hdeclared]
  simp only [UInt64.lt_iff_toNat_lt, UInt32.toNat_toUInt64, hdeclared]

theorem ofSpans_of_overflow (h : (HotSchema.lineCount text).toNat < covered spans) :
    ∃ error, ofSpans name text spans = .error error := by
  by_cases hpositive : ∀ span ∈ spans, span.lines ≠ 0
  · by_cases hfits : covered spans < UInt64.size
    · obtain ⟨declared, -, hdeclared⟩ := exists_declaredLines? hfits
      exact ⟨_, by rw [ofSpans_of_positive hpositive hdeclared, if_pos h]⟩
    · have hnone : declaredLines? spans = none := by
        have hsum := declaredLines?_eq spans
        rwa [if_neg hfits, Option.map_eq_none_iff] at hsum
      unfold ofSpans
      rw [hnone]
      split <;> exact ⟨_, rfl⟩
  · push Not at hpositive
    obtain ⟨span, hmem, hempty⟩ := hpositive
    exact ofSpans_of_empty hmem hempty

theorem ofSpans_of_covered (hpositive : ∀ span ∈ spans, span.lines ≠ 0)
    (hcovered : covered spans = (HotSchema.lineCount text).toNat) : ofSpans name text spans = .ok ⟨name, text, spans⟩ := by
  have hdeclared : (HotSchema.lineCount text).toUInt64.toNat = covered spans := by
    rw [UInt32.toNat_toUInt64, hcovered]
  rw [ofSpans_of_positive hpositive hdeclared, if_neg (by omega), if_neg (by omega)]

theorem ofSpans_of_short (hpositive : ∀ span ∈ spans, span.lines ≠ 0) {missing : UInt32} (hmissing : missing ≠ 0)
    (hcovered : covered spans + missing.toNat = (HotSchema.lineCount text).toNat) :
    ofSpans name text spans = .ok ⟨name, text, spans ++ [.anonymous missing]⟩ := by
  have hsome : 0 < missing.toNat := Nat.pos_of_ne_zero fun h => hmissing (UInt32.toNat_inj.1 h)
  have hcount : (HotSchema.lineCount text).toNat < UInt32.size := UInt32.toNat_lt_size _
  have hword : UInt32.size < UInt64.size := by decide
  have hfits : covered spans < UInt64.size := by omega
  obtain ⟨declared, -, hdeclared⟩ := exists_declaredLines? hfits
  have hrest : HotSchema.lineCount text - declared.toUInt32 = missing := by
    rw [← UInt32.toNat_inj, toNat_missing (by omega)]
    omega
  rw [ofSpans_of_positive hpositive hdeclared, if_neg (by omega), if_pos (by omega), hrest]

/-- A unit is made from spans of which none is empty. They cover the lines of its text, or a span without an entity
covers the lines that are left. -/
theorem ofSpans_eq_ok_iff :
    ofSpans name text spans = .ok unit ↔
      (∀ span ∈ spans, span.lines ≠ 0) ∧
        ((unit = ⟨name, text, spans⟩ ∧ covered spans = (HotSchema.lineCount text).toNat) ∨
          ∃ missing : UInt32, missing ≠ 0 ∧ unit = ⟨name, text, spans ++ [.anonymous missing]⟩ ∧
            covered spans + missing.toNat = (HotSchema.lineCount text).toNat) := by
  constructor
  · intro h
    have hpositive : ∀ span ∈ spans, span.lines ≠ 0 := by
      intro span hmem hempty
      obtain ⟨error, hrefused⟩ := @ofSpans_of_empty name text _ _ hmem hempty
      cases hrefused.symm.trans h
    refine ⟨hpositive, ?_⟩
    rcases Nat.lt_trichotomy (covered spans) (HotSchema.lineCount text).toNat with hshort | hall | hover
    · obtain ⟨missing, hmissing, hcovered⟩ := exists_missing hshort
      cases (ofSpans_of_short hpositive hmissing hcovered).symm.trans h
      exact Or.inr ⟨missing, hmissing, rfl, hcovered⟩
    · cases (ofSpans_of_covered hpositive hall).symm.trans h
      exact Or.inl ⟨rfl, hall⟩
    · obtain ⟨error, hrefused⟩ := @ofSpans_of_overflow name _ _ hover
      cases hrefused.symm.trans h
  · rintro ⟨hpositive, ⟨rfl, hcovered⟩ | ⟨missing, hmissing, rfl, hcovered⟩⟩
    · exact ofSpans_of_covered hpositive hcovered
    · exact ofSpans_of_short hpositive hmissing hcovered

/-- A unit has the spans it was made from, and behind them only spans of no entity. -/
theorem spans_of_ofSpans (h : ofSpans name text spans = .ok unit) :
    ∃ rest, unit.spans = spans ++ rest ∧ ∀ span ∈ rest, span.entity = none := by
  obtain ⟨-, ⟨rfl, -⟩ | ⟨missing, -, rfl, -⟩⟩ := ofSpans_eq_ok_iff.1 h
  · exact ⟨[], by simp, by simp⟩
  · exact ⟨_, rfl, by simp [SourceSpan.anonymous]⟩

end SourceUnit

def Member.block (m : Member) (owner : String) : Block := ⟨⟨m.kind, m.id, m.name, owner⟩, m.source⟩

theorem Block.entity_of_span? {b : Block} {span : SourceSpan} (h : b.span? = some span) :
    span.entity = some b.entity := by
  unfold span? at h
  split_ifs at h
  cases h
  rfl

/-- The entity of a located line is that of one of the type's blocks, and the line was located in the span of
that block. -/
theorem Token.exists_block_of_entity {t : TypeModel} {unit : SourceUnit} (hunit : t.generate = .ok unit)
    {d : Diagnostic} {e : EntityRef} (he : (correlate d (some unit)).entity = some e) :
    ∃ left b right span, t.blocks = left ++ b :: right ∧ b.entity = e ∧ b.span? = some span ∧
      locate unit.spans d.line = some ((left.filterMap Block.span?).length, span) := by
  obtain ⟨⟨i, span⟩, hlocate, hspan⟩ := Option.bind_eq_some_iff.1 he
  have hlocated : locate unit.spans d.line = some (i, span) := hlocate
  have hspan : span.entity = some e := hspan
  obtain ⟨rest, hspans, hnone⟩ := SourceUnit.spans_of_ofSpans hunit
  -- The spans behind those of the blocks have no entity, so this is one of the blocks'.
  have hblock : (t.blocks.filterMap Block.span?)[i]? = some span := by
    have hi := locate_eq_some hlocated
    rw [hspans, List.getElem?_append] at hi
    split at hi
    · exact hi
    · rw [hnone span (List.mem_of_getElem? hi)] at hspan
      cases hspan
  obtain ⟨left, b, right, hblocks, hb, rfl⟩ := exists_of_getElem?_filterMap hblock
  have hentity : b.entity = e := Option.some.inj ((Block.entity_of_span? hb).symm.trans hspan)
  exact ⟨left, b, right, span, hblocks, hentity, hb, hlocated⟩

theorem TypeModel.owner_of_mem_blocks {t : TypeModel} {b : Block} (hb : b ∈ t.blocks) :
    b.entity.owner = t.name := by
  rcases List.mem_cons.1 hb with rfl | hb
  · rfl
  · obtain ⟨m, -, rfl⟩ := List.mem_map.1 hb
    rfl

theorem Token.owner_of_entity {t : TypeModel} {unit : SourceUnit} (hunit : t.generate = .ok unit)
    {d : Diagnostic} {e : EntityRef} (he : (correlate d (some unit)).entity = some e) : e.owner = t.name := by
  obtain ⟨left, b, right, span, hblocks, rfl, -, -⟩ := exists_block_of_entity hunit he
  exact TypeModel.owner_of_mem_blocks (by simp [hblocks])

/-- A token whose span was generated from the member that stands behind some others in a type. -/
structure Token.LocatedAt (token : Token) (t : TypeModel) (before : List Member) (m : Member) : Prop where
  index : token.spanIndex = some (TypeModel.blocks { t with members := before } |>.filterMap Block.span?).length
  span : token.span = (m.block t.name).span?
  entity : token.entity = some (m.block t.name).entity

/-- A diagnostic located at an entity that is no type was located at a member. -/
theorem Token.locatedAt_of_entity {t : TypeModel} {unit : SourceUnit} (hunit : t.generate = .ok unit)
    {d : Diagnostic} {e : EntityRef} (he : (correlate d (some unit)).entity = some e) (hkind : e.kind ≠ .type) :
    ∃ before m after, t.members = before ++ m :: after ∧ (correlate d (some unit)).LocatedAt t before m := by
  obtain ⟨left, b, right, span, hblocks, hentity, hb, hlocated⟩ := exists_block_of_entity hunit he
  rcases left with _ | ⟨header, left⟩
  · -- The first block is the header, whose entity is the type.
    obtain ⟨hheader, -⟩ := List.cons.inj hblocks
    rw [← hentity, ← hheader] at hkind
    exact absurd rfl hkind
  · obtain ⟨hheader, hmembers⟩ := List.cons.inj hblocks
    obtain ⟨before, others, hsplit, hbefore, hothers⟩ := List.map_eq_append_iff.1 hmembers
    obtain ⟨m, after, rfl, hm, -⟩ := List.map_eq_cons_iff.1 hothers
    refine ⟨before, m, after, hsplit, ?_, ?_, ?_⟩
    · rw [correlate, Option.bind_some, hlocated, Option.map_some, ← hbefore, ← hheader]
      rfl
    · rw [← hm] at hb
      rw [correlate, Option.bind_some, hlocated]
      exact hb.symm
    · rw [he, ← hentity, ← hm]
      rfl

/-! ### Lines tell spans apart -/

theorem SourceUnit.text_of_ofSpans {name text : String} {spans : List SourceSpan} {unit : SourceUnit}
    (h : ofSpans name text spans = .ok unit) : unit.text = text := by
  obtain ⟨-, ⟨rfl, -⟩ | ⟨missing, -, rfl, -⟩⟩ := ofSpans_eq_ok_iff.1 h <;> rfl

/-- Every span covers a line, and all lines that are covered have numbers. -/
structure Numberable (spans : List SourceSpan) : Prop where
  positive : ∀ span ∈ spans, span.lines ≠ 0
  covered : covered spans < UInt32.size

theorem SourceUnit.numberable_of_ofSpans {name text : String} {spans : List SourceSpan} {unit : SourceUnit}
    (h : ofSpans name text spans = .ok unit) : Numberable unit.spans := by
  have hbound : (HotSchema.lineCount text).toNat < UInt32.size := UInt32.toNat_lt_size _
  obtain ⟨hpositive, ⟨rfl, hcovered⟩ | ⟨missing, hnonzero, rfl, hcovered⟩⟩ := ofSpans_eq_ok_iff.1 h
  · exact ⟨hpositive, hcovered ▸ hbound⟩
  · refine ⟨List.forall_mem_append.2 ⟨hpositive, List.forall_mem_singleton.2 hnonzero⟩, ?_⟩
    show HotSchema.covered (spans ++ [.anonymous missing]) < _
    rw [covered_append]
    exact hcovered ▸ hbound

theorem holderFrom_injective {index before : Nat} {left right : List SourceSpan}
    (hleft : ∀ span ∈ left, 0 < span.lines.toNat) (hright : ∀ span ∈ right, 0 < span.lines.toNat)
    (hleftCovered : before + covered left < UInt32.size) (hrightCovered : before + covered right < UInt32.size)
    (h : ∀ line, before < line → line < UInt32.size →
      holderFrom line index before left = holderFrom line index before right) : left = right := by
  induction left generalizing right index before with
  | nil =>
    rcases right with _ | ⟨second, right⟩
    · rfl
    · have hpositive := hright second List.mem_cons_self
      rw [covered_cons] at hrightCovered
      have hnext := h (before + 1) (by omega) (by omega)
      rw [holderFrom, holderFrom, if_pos (by omega)] at hnext
      cases hnext
  | cons first left ih =>
    obtain ⟨hfirst, hleft⟩ := List.forall_mem_cons.1 hleft
    rw [covered_cons] at hleftCovered
    have hnext := h (before + 1) (by omega) (by omega)
    rw [holderFrom, if_pos (by omega)] at hnext
    rcases right with _ | ⟨second, right⟩
    · cases hnext
    · obtain ⟨hsecond, hothers⟩ := List.forall_mem_cons.1 hright
      rw [covered_cons] at hrightCovered
      -- The line after those that are told apart already lies in the first span of each.
      rw [holderFrom, if_pos (by omega)] at hnext
      cases hnext
      have hlater : ∀ line, before + first.lines.toNat < line → line < UInt32.size →
          holderFrom line (index + 1) (before + first.lines.toNat) left =
            holderFrom line (index + 1) (before + first.lines.toNat) right := by
        intro line hline hsize
        have hsame := h line (by omega) hsize
        rwa [holderFrom, holderFrom, if_neg (by omega), if_neg (by omega)] at hsame
      exact congrArg (first :: ·) (ih hleft hothers (by omega) (by omega) hlater)

/-- Lines tell spans apart. -/
theorem locate_injective {left right : List SourceSpan} (hleft : Numberable left) (hright : Numberable right)
    (h : ∀ line, locate left line = locate right line) : left = right := by
  have hpositive {spans : List SourceSpan} (hspans : Numberable spans) :
      ∀ span ∈ spans, 0 < span.lines.toNat := fun span hspan =>
    Nat.pos_of_ne_zero fun hzero => hspans.positive span hspan (UInt32.toNat_inj.1 hzero)
  have hlines : ∀ line, 0 < line → line < UInt32.size → holderFrom line 0 0 left = holderFrom line 0 0 right := by
    intro line hline hsize
    have hnumber : (UInt32.ofNat line).toNat = line := UInt32.toNat_ofNat_of_lt' hsize
    have hnonzero : UInt32.ofNat line ≠ 0 := by
      intro hzero
      rw [hzero] at hnumber
      exact absurd hnumber (Nat.ne_of_lt hline)
    have hsame := h (.ofNat line)
    rwa [locate_eq, locate_eq, if_neg hnonzero, if_neg hnonzero, hnumber] at hsame
  have hleftCovered := hleft.covered
  have hrightCovered := hright.covered
  exact holderFrom_injective (hpositive hleft) (hpositive hright) (by omega) (by omega) hlines

/-- Diagnostics are located alike in two units at every line only if the units have the same spans. -/
theorem Token.spans_eq_of_correlate {unit unit' : SourceUnit} (hunit : Numberable unit.spans)
    (hunit' : Numberable unit'.spans) (name message : String)
    (h : ∀ line, correlate (.error name line message) (some unit) = correlate (.error name line message) (some unit')) :
    unit.spans = unit'.spans := by
  refine locate_injective hunit hunit' fun line => ?_
  have hindex : (locate unit.spans line).map (·.1) = (locate unit'.spans line).map (·.1) :=
    congrArg Token.spanIndex (h line)
  have hspan : (locate unit.spans line).map (·.2) = (locate unit'.spans line).map (·.2) :=
    congrArg Token.span (h line)
  generalize locate unit.spans line = located at hindex hspan ⊢
  generalize locate unit'.spans line = located' at hindex hspan ⊢
  rcases located with _ | ⟨i, span⟩ <;> rcases located' with _ | ⟨i', span'⟩
  · rfl
  · cases hindex
  · cases hindex
  · cases hindex
    cases hspan
    rfl

end HotSchema
