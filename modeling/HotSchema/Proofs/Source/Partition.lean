import HotSchema.Proofs.Source.Attribution
/-!
# Spans as a partition of lines

Spans stand one after the other, so a span holds the lines from behind the spans before it to its own end. The look-up
of a line finds the span that holds it, whatever the spans are, empty ones included, for the sum that it runs up does
not leave a word of 64 bits. A unit is made from spans exactly if none is empty and the text has lines enough for them,
so long as a word can count the lines of the spans; the spans of the unit then divide its lines among them.
-/

namespace HotSchema

/-- The line is behind the spans before this one, and no further than its end. -/
structure Holds (spans : List SourceSpan) (i line : Nat) : Prop where
  after : covered (spans.take i) < line
  within : line ≤ covered (spans.take (i + 1))

/-- None of the spans is empty, and together they cover that many lines. -/
structure Divides (spans : List SourceSpan) (lines : Nat) : Prop where
  positive : ∀ span ∈ spans, span.lines ≠ 0
  covered : covered spans = lines

/-! ### One span for each line -/

theorem covered_take_mono (spans : List SourceSpan) {i j : Nat} (h : i ≤ j) :
    covered (spans.take i) ≤ covered (spans.take j) := by
  have htake : spans.take i = (spans.take j).take i := by rw [List.take_take, Nat.min_eq_left h]
  rw [htake]
  exact covered_take_le _ _

theorem Holds.lt_length {spans : List SourceSpan} {i line : Nat} (h : Holds spans i line) : i < spans.length := by
  obtain ⟨hafter, hwithin⟩ := h
  by_contra hbeyond
  rw [List.take_of_length_le (by omega)] at hafter hwithin
  omega

theorem Holds.index_unique {spans : List SourceSpan} {i j line : Nat} (hi : Holds spans i line) (hj : Holds spans j line) :
    i = j := by
  obtain ⟨hiAfter, hiWithin⟩ := hi
  obtain ⟨hjAfter, hjWithin⟩ := hj
  rcases Nat.lt_trichotomy i j with hlt | heq | hgt
  · have hmono := covered_take_mono spans (show i + 1 ≤ j from hlt)
    omega
  · exact heq
  · have hmono := covered_take_mono spans (show j + 1 ≤ i from hgt)
    omega

theorem exists_holds_iff {spans : List SourceSpan} {line : Nat} :
    (∃ i, Holds spans i line) ↔ 1 ≤ line ∧ line ≤ covered spans := by
  constructor
  · rintro ⟨i, hafter, hwithin⟩
    have hle := covered_take_le spans (i + 1)
    omega
  · rintro ⟨hpositive, hle⟩
    induction spans generalizing line with
    | nil => exact absurd hle (Nat.not_le_of_gt hpositive)
    | cons first rest ih =>
      rw [covered_cons] at hle
      by_cases hfirst : line ≤ first.lines.toNat
      · exact ⟨0, hpositive, by rwa [List.take_succ_cons, List.take_zero, covered_cons]⟩
      · have hpositive : 1 ≤ line - first.lines.toNat := by omega
        obtain ⟨i, hafter, hwithin⟩ := ih hpositive (by omega)
        refine ⟨i + 1, ?_, ?_⟩ <;> rw [List.take_succ_cons, covered_cons] <;> omega

/-- In spans that divide lines, each line is held by one span. -/
theorem Divides.existsUnique_holds {spans : List SourceSpan} {lines line : Nat} (h : Divides spans lines)
    (hpositive : 1 ≤ line) (hle : line ≤ lines) : ∃! i, Holds spans i line := by
  obtain ⟨i, hi⟩ := exists_holds_iff.2 ⟨hpositive, h.covered ▸ hle⟩
  exact ⟨i, hi, fun _ hj => hj.index_unique hi⟩

theorem Divides.bounds_of_holds {spans : List SourceSpan} {lines line i : Nat} (h : Divides spans lines)
    (hi : Holds spans i line) : 1 ≤ line ∧ line ≤ lines := h.covered ▸ exists_holds_iff.1 ⟨i, hi⟩

/-- The look-up finds the span that holds the line. -/
theorem exists_locate_iff {spans : List SourceSpan} {line : UInt32} {i : Nat} :
    (∃ span, spans[i]? = some span ∧ locate spans line = some (i, span)) ↔ Holds spans i line.toNat := by
  constructor
  · rintro ⟨span, -, hlocate⟩
    obtain ⟨-, hafter, hwithin⟩ := locate_eq_some_iff.1 hlocate
    exact ⟨hafter, hwithin⟩
  · intro h
    have hspan := List.getElem?_eq_getElem h.lt_length
    exact ⟨_, hspan, locate_eq_some_iff.2 ⟨hspan, h.after, h.within⟩⟩

/-! ### The sum in a word -/

/-- Fewer than 2³² spans cover fewer than 2⁶⁴ lines. -/
theorem covered_lt_of_length_lt {spans : List SourceSpan} (h : spans.length < UInt32.size) :
    covered spans < UInt64.size := by
  have hbound : covered spans ≤ spans.length * (UInt32.size - 1) := by
    clear h
    induction spans with
    | nil => exact Nat.le_refl 0
    | cons first rest ih =>
      have hfirst : first.lines.toNat < UInt32.size := UInt32.toNat_lt_size _
      rw [covered_cons, List.length_cons, Nat.succ_mul]
      omega
  calc covered spans ≤ spans.length * (UInt32.size - 1) := hbound
    _ ≤ (UInt32.size - 1) * (UInt32.size - 1) := Nat.mul_le_mul_right _ (by omega)
    _ < UInt64.size := by decide

/-! ### Units -/

namespace SourceUnit

variable {name text : String} {spans : List SourceSpan}

theorem lineCount_toNat (h : (Text.lines text.toList).length < UInt32.size) :
    (HotSchema.lineCount text).toNat = (Text.lines text.toList).length :=
  UInt32.toNat_ofNat_of_lt' h

/-- A unit is made exactly if no span is empty and the text has lines enough. -/
theorem exists_ofSpans_iff :
    (∃ unit, ofSpans name text spans = .ok unit) ↔
      (∀ span ∈ spans, span.lines ≠ 0) ∧ covered spans ≤ (HotSchema.lineCount text).toNat := by
  constructor
  · rintro ⟨unit, hunit⟩
    obtain ⟨hpositive, ⟨-, hcovered⟩ | ⟨missing, -, -, hcovered⟩⟩ := ofSpans_eq_ok_iff.1 hunit <;>
      exact ⟨hpositive, by omega⟩
  · rintro ⟨hpositive, hle⟩
    rcases Nat.eq_or_lt_of_le hle with hall | hshort
    · exact ⟨_, ofSpans_of_covered hpositive hall⟩
    · obtain ⟨missing, hmissing, hcovered⟩ := exists_missing hshort
      exact ⟨_, ofSpans_of_short hpositive hmissing hcovered⟩

theorem divides_of_ofSpans {unit : SourceUnit} (h : ofSpans name text spans = .ok unit) :
    Divides unit.spans (HotSchema.lineCount text).toNat := by
  refine ⟨(numberable_of_ofSpans h).positive, ?_⟩
  obtain ⟨-, ⟨rfl, hcovered⟩ | ⟨missing, -, rfl, hcovered⟩⟩ := ofSpans_eq_ok_iff.1 h
  · exact hcovered
  · show HotSchema.covered (spans ++ [.anonymous missing]) = _
    rw [covered_append]
    exact hcovered

/-- The spans that were given come first, and one without an entity completes them if they stop short. -/
theorem spans_eq_of_ofSpans {unit : SourceUnit} (h : ofSpans name text spans = .ok unit) :
    unit.spans = spans ∨ ∃ missing, unit.spans = spans ++ [.anonymous missing] := by
  obtain ⟨-, ⟨rfl, -⟩ | ⟨missing, -, rfl, -⟩⟩ := ofSpans_eq_ok_iff.1 h
  · exact Or.inl rfl
  · exact Or.inr ⟨missing, rfl⟩

/-- A text of fewer than 2³² lines and fewer than 2³² spans, whose sum a word of 64 bits can hold, make a unit exactly
if no span is empty and they do not cover more lines than the text has. The unit has these spans and perhaps one more,
of no entity, and they divide the lines of the text: each line is held by one span, and a span holds nothing else. In
any spans at all, the look-up of a line finds the span that holds it. -/
theorem spans_divide_lines (hcount : (Text.lines text.toList).length < UInt32.size) (hfew : spans.length < UInt32.size) :
    (∃ declared, declaredLines? spans = some declared ∧ declared.toNat = covered spans) ∧
    ((∃ unit, ofSpans name text spans = .ok unit) ↔
      (∀ span ∈ spans, span.lines ≠ 0) ∧ covered spans ≤ (Text.lines text.toList).length) ∧
    (∀ unit, ofSpans name text spans = .ok unit →
      unit.lineCount.toNat = (Text.lines text.toList).length ∧
      (unit.spans = spans ∨ ∃ missing, unit.spans = spans ++ [.anonymous missing]) ∧
      Divides unit.spans (Text.lines text.toList).length ∧
      (∀ line, 1 ≤ line → line ≤ (Text.lines text.toList).length → ∃! i, Holds unit.spans i line) ∧
      ∀ line i, Holds unit.spans i line → 1 ≤ line ∧ line ≤ (Text.lines text.toList).length) ∧
    ∀ (any : List SourceSpan) (line : UInt32) (i : Nat),
      (∃ span, any[i]? = some span ∧ locate any line = some (i, span)) ↔ Holds any i line.toNat := by
  have hlines := lineCount_toNat hcount
  refine ⟨exists_declaredLines? (covered_lt_of_length_lt hfew), ?_, fun unit hunit => ?_, fun _ _ _ => exists_locate_iff⟩
  · rw [exists_ofSpans_iff, hlines]
  · have hdivides := divides_of_ofSpans hunit
    rw [hlines] at hdivides
    refine ⟨by rw [lineCount, text_of_ofSpans hunit, hlines], spans_eq_of_ofSpans hunit, hdivides, ?_, ?_⟩
    · exact fun line hpositive hle => hdivides.existsUnique_holds hpositive hle
    · exact fun line i hi => hdivides.bounds_of_holds hi

/-- Spans of two lines and of one leave two of five lines to a third, which holds the last line. -/
theorem spans_of_five_lines :
    (Text.lines "a\nb\n\r\nd\ne".toList).length < UInt32.size ∧
      ∃ unit, ofSpans "app.Order" "a\nb\n\r\nd\ne" [⟨2, none⟩, ⟨1, none⟩] = .ok unit ∧
        (∃! i, Holds unit.spans i 5) ∧ locate unit.spans 5 = some (2, ⟨2, none⟩) ∧ ¬ ∃ i, Holds unit.spans i 6 := by
  have hlength : (Text.lines "a\nb\n\r\nd\ne".toList).length = 5 := by decide
  have hcount : (Text.lines "a\nb\n\r\nd\ne".toList).length < UInt32.size := by rw [hlength]; decide
  obtain ⟨-, hmade, hunits, hlocated⟩ := @spans_divide_lines "app.Order" _ [⟨2, none⟩, ⟨1, none⟩] hcount (by decide)
  obtain ⟨unit, hunit⟩ := hmade.2 (by rw [hlength]; decide)
  obtain ⟨-, -, -, hheld, hbounds⟩ := hunits unit hunit
  rw [hlength] at hheld hbounds
  have hspans : unit.spans = [⟨2, none⟩, ⟨1, none⟩, ⟨2, none⟩] := by
    have hok : ofSpans "app.Order" "a\nb\n\r\nd\ne" [⟨2, none⟩, ⟨1, none⟩] =
        .ok ⟨"app.Order", "a\nb\n\r\nd\ne", [⟨2, none⟩, ⟨1, none⟩, ⟨2, none⟩]⟩ := by decide
    cases hok.symm.trans hunit
    rfl
  refine ⟨hcount, unit, hunit, hheld 5 (by decide) (by decide), ?_, ?_⟩
  · rw [hspans]
    obtain ⟨span, hspan, hlocate⟩ := (hlocated [⟨2, none⟩, ⟨1, none⟩, ⟨2, none⟩] 5 2).2 ⟨by decide, by decide⟩
    cases hspan
    exact hlocate
  · rintro ⟨i, hi⟩
    exact absurd (hbounds 6 i hi).2 (by decide)

end SourceUnit

end HotSchema
