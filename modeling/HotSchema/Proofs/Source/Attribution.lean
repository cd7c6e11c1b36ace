import HotSchema.Proofs.Source.Location
import HotSchema.Proofs.Text.Lines
/-!
# Lines and the blocks that they come from

A generated unit counts its lines twice: block by block, when it makes the spans, and in the whole text. The two
counts agree for any texts, because a block's lines are written each with a line feed behind it, and are read
back as so many lines. So the spans are those of the blocks that have a line, with nothing left over, and a line of
the unit lies in the span of the very block whose lines it falls on.
-/

namespace HotSchema

/-! ### Looking a line up in spans -/

/-- The span of a line is the one at which the spans up to it cover the line, and those before it do not. -/
theorem holderFrom_eq_some_iff {line index before i : Nat} {spans : List SourceSpan} {span : SourceSpan}
    (hline : before < line) :
    holderFrom line index before spans = some (index + i, span) ↔
      spans[i]? = some span ∧ before + covered (spans.take i) < line ∧
        line ≤ before + covered (spans.take (i + 1)) := by
  induction spans generalizing index before i with
  | nil => simp [holderFrom]
  | cons first rest ih =>
    rw [List.take_succ_cons, covered_cons, holderFrom]
    split
    · next hreached =>
      rcases i with _ | i
      · simp only [List.getElem?_cons_zero, List.take_zero]
        show some (index, first) = some (index, span) ↔ some first = some span ∧ before + 0 < line ∧ _
        constructor
        · intro h
          cases h
          exact ⟨rfl, by omega, by omega⟩
        · rintro ⟨h, -⟩
          cases h
          rfl
      · rw [List.take_succ_cons, covered_cons]
        refine iff_of_false (fun h => ?_) (fun h => by omega)
        have hindex : index = index + (i + 1) := congrArg Prod.fst (Option.some.inj h)
        omega
    · next hbeyond =>
      rcases i with _ | i
      · refine iff_of_false (fun h => ?_) (fun h => ?_)
        · have hle := (holderFrom_eq_some h).1
          omega
        · have hcovered : covered (rest.take 0) = 0 := rfl
          omega
      · rw [List.getElem?_cons_succ, List.take_succ_cons, covered_cons, show index + (i + 1) = index + 1 + i by omega,
          ih (by omega), Nat.add_assoc, Nat.add_assoc]

theorem locate_eq_some_iff {spans : List SourceSpan} {line : UInt32} {i : Nat} {span : SourceSpan} :
    locate spans line = some (i, span) ↔
      spans[i]? = some span ∧ covered (spans.take i) < line.toNat ∧ line.toNat ≤ covered (spans.take (i + 1)) := by
  rw [locate_eq]
  split
  · next hzero =>
    subst hzero
    exact iff_of_false (by simp) fun h => absurd h.2.1 (Nat.not_lt_zero _)
  · next hzero =>
    have hpositive : 0 < line.toNat := Nat.pos_of_ne_zero fun h => hzero (UInt32.toNat_inj.1 h)
    have hspan : holderFrom line.toNat 0 0 spans = some (0 + i, span) ↔ _ := holderFrom_eq_some_iff hpositive
    simpa only [Nat.zero_add] using hspan

theorem covered_take_le (spans : List SourceSpan) (i : Nat) : covered (spans.take i) ≤ covered spans := by
  have hparts := covered_append (spans.take i) (spans.drop i)
  rw [List.take_append_drop] at hparts
  omega

theorem locate_eq_none {spans : List SourceSpan} {line : UInt32} (h : line = 0 ∨ covered spans < line.toNat) :
    locate spans line = none := by
  rw [Option.eq_none_iff_forall_ne_some]
  rintro ⟨i, span⟩ hlocate
  obtain ⟨-, hbefore, hreached⟩ := locate_eq_some_iff.1 hlocate
  have hle := covered_take_le spans (i + 1)
  rcases h with rfl | hbeyond
  · exact Nat.not_lt_zero _ hbefore
  · omega

/-! ### Blocks and their spans -/

/-- The number of lines of some blocks. -/
def lineTotal : List Block → Nat
  | [] => 0
  | b :: rest => b.lines.length + lineTotal rest

theorem lineTotal_append (left right : List Block) : lineTotal (left ++ right) = lineTotal left + lineTotal right := by
  induction left with
  | nil => exact (Nat.zero_add _).symm
  | cons b rest ih => rw [List.cons_append, lineTotal, lineTotal, ih, Nat.add_assoc]

theorem length_flatMap_lines (blocks : List Block) :
    (blocks.flatMap fun b => b.lines.map Text.withoutReturn).length = lineTotal blocks := by
  induction blocks with
  | nil => rfl
  | cons b rest ih => rw [List.flatMap_cons, List.length_append, List.length_map, ih, lineTotal]

/-- The line of that number, counted through some blocks, is one of a block that stands behind others. -/
structure FallsOn (line : Nat) (before : List Block) (b : Block) : Prop where
  after : lineTotal before < line
  within : line ≤ lineTotal before + b.lines.length

theorem exists_fallsOn {blocks : List Block} {line : Nat} (hpositive : 0 < line) (hle : line ≤ lineTotal blocks) :
    ∃ before b after, blocks = before ++ b :: after ∧ FallsOn line before b := by
  induction blocks generalizing line with
  | nil => exact absurd hle (Nat.not_le_of_gt hpositive)
  | cons first rest ih =>
    rw [lineTotal] at hle
    by_cases hfirst : line ≤ first.lines.length
    · refine ⟨[], first, rest, rfl, hpositive, ?_⟩
      show line ≤ 0 + first.lines.length
      omega
    · have hrest : line - first.lines.length ≤ lineTotal rest := by omega
      obtain ⟨before, b, after, rfl, hafter, hwithin⟩ := ih (by omega) hrest
      refine ⟨first :: before, b, after, rfl, ?_, ?_⟩ <;> rw [lineTotal] <;> omega

namespace Block

def wholeSpan (b : Block) : SourceSpan := ⟨b.lines.length.toUInt32, some b.entity⟩

theorem span?_eq (b : Block) : b.span? = if b.lines = [] then none else some b.wholeSpan := by
  unfold span?
  by_cases h : b.lines = [] <;> simp [h, wholeSpan]

theorem filterMap_span? (blocks : List Block) :
    blocks.filterMap span? = (blocks.filter fun b => b.lines ≠ []).map wholeSpan := by
  induction blocks with
  | nil => rfl
  | cons b rest ih =>
    by_cases h : b.lines = []
    · rw [List.filterMap_cons_none (by rw [span?_eq, if_pos h]), ih, List.filter_cons_of_neg (by simpa using h)]
    · rw [List.filterMap_cons_some (by rw [span?_eq, if_neg h]), ih, List.filter_cons_of_pos (by simpa using h),
        List.map_cons]

theorem lines_wholeSpan {b : Block} (h : b.lines.length < UInt32.size) : b.wholeSpan.lines.toNat = b.lines.length :=
  UInt32.toNat_ofNat_of_lt' h

/-- Blocks without a line have no span, and the others have one for as many lines as they have. -/
theorem covered_filterMap_span? {blocks : List Block} (h : lineTotal blocks < UInt32.size) :
    covered (blocks.filterMap span?) = lineTotal blocks := by
  induction blocks with
  | nil => rfl
  | cons b rest ih =>
    rw [lineTotal] at h
    have hrest := ih (by omega)
    by_cases hb : b.lines = []
    · rw [List.filterMap_cons_none (by rw [span?_eq, if_pos hb]), hrest, lineTotal, hb, List.length_nil,
        Nat.zero_add]
    · rw [List.filterMap_cons_some (by rw [span?_eq, if_neg hb]), covered_cons, hrest, lines_wholeSpan (by omega),
        lineTotal]

theorem lines_ne_zero_of_span? {b : Block} (hb : b.lines.length < UInt32.size) {span : SourceSpan}
    (h : b.span? = some span) : span.lines ≠ 0 := by
  rw [span?_eq] at h
  split_ifs at h with hempty
  cases h
  intro hzero
  have hlength := lines_wholeSpan hb
  rw [hzero] at hlength
  exact hempty (List.length_eq_zero_iff.1 hlength.symm)

end Block

theorem length_lines_le_lineTotal {blocks : List Block} {b : Block} (h : b ∈ blocks) :
    b.lines.length ≤ lineTotal blocks := by
  obtain ⟨before, after, rfl⟩ := List.append_of_mem h
  rw [lineTotal_append, lineTotal]
  omega

/-- A line that falls on a block is located in the span of that block. -/
theorem locate_of_fallsOn {before after : List Block} {b : Block} {line : UInt32}
    (hcount : lineTotal (before ++ b :: after) < UInt32.size) (h : FallsOn line.toNat before b) :
    locate ((before ++ b :: after).filterMap Block.span?) line =
      some ((before.filter fun b => b.lines ≠ []).length, b.wholeSpan) := by
  rw [lineTotal_append, lineTotal] at hcount
  obtain ⟨hafter, hwithin⟩ := h
  have hb : b.lines ≠ [] := by
    intro hempty
    rw [hempty, List.length_nil] at hwithin
    omega
  have hspan : b.span? = some b.wholeSpan := by rw [Block.span?_eq, if_neg hb]
  have hlength : (before.filter fun b => b.lines ≠ []).length = (before.filterMap Block.span?).length := by
    rw [Block.filterMap_span?, List.length_map]
  rw [List.filterMap_append, List.filterMap_cons_some hspan, hlength, locate_eq_some_iff]
  refine ⟨by simp, ?_, ?_⟩
  · rwa [List.take_left, Block.covered_filterMap_span? (by omega)]
  · rw [List.take_length_add_append, covered_append, Block.covered_filterMap_span? (by omega), List.take_succ_cons,
      covered_cons, Block.lines_wholeSpan (by omega)]
    exact hwithin

/-! ### Units -/

namespace TypeModel

def text (t : TypeModel) : String := String.ofList (t.blocks.flatMap Block.text)

/-- The lines of the text are those of the blocks, one after the other. -/
theorem lines_text (t : TypeModel) :
    Text.lines t.text.toList = t.blocks.flatMap fun b => b.lines.map Text.withoutReturn := by
  have htext : t.blocks.flatMap Block.text = (t.blocks.flatMap Block.lines).flatMap (· ++ ['\n']) :=
    List.flatMap_assoc.symm
  have hlines : ∀ line ∈ t.blocks.flatMap Block.lines, '\n' ∉ line := by
    intro line hline
    obtain ⟨b, -, hb⟩ := List.mem_flatMap.1 hline
    exact Text.newline_not_mem_lines hb
  rw [text, String.toList_ofList, htext, Text.lines_flatMap_newline hlines, List.map_flatMap]

theorem lineCount_text {t : TypeModel} (hcount : lineTotal t.blocks < UInt32.size) :
    (HotSchema.lineCount t.text).toNat = lineTotal t.blocks := by
  rw [HotSchema.lineCount, lines_text, length_flatMap_lines]
  exact UInt32.toNat_ofNat_of_lt' hcount

/-- The unit of the type, if its lines can be counted. -/
def unit (t : TypeModel) : SourceUnit := ⟨t.name, t.text, t.blocks.filterMap Block.span?⟩

/-- The spans of the blocks cover the text, so that nothing is refused and nothing left over. -/
theorem generate_eq {t : TypeModel} (hcount : lineTotal t.blocks < UInt32.size) : t.generate = .ok t.unit := by
  refine SourceUnit.ofSpans_of_covered (fun span hspan => ?_) ?_
  · obtain ⟨b, hb, hspan⟩ := List.mem_filterMap.1 hspan
    exact Block.lines_ne_zero_of_span? (Nat.lt_of_le_of_lt (length_lines_le_lineTotal hb) hcount) hspan
  · rw [Block.covered_filterMap_span? hcount, ← lineCount_text hcount]
    rfl

end TypeModel

theorem Token.correlate_of_locate {d : Diagnostic} {unit : SourceUnit} {i : Nat} {span : SourceSpan}
    (h : locate unit.spans d.line = some (i, span)) :
    correlate d (some unit) = ⟨d, some i, some span, span.entity⟩ := by
  rw [correlate, Option.bind_some, h]
  rfl

theorem Token.correlate_of_locate_none {d : Diagnostic} {unit : SourceUnit} (h : locate unit.spans d.line = none) :
    correlate d (some unit) = ⟨d, none, none, none⟩ := by
  rw [correlate, Option.bind_some, h]
  rfl

namespace TypeModel

def headerBlock (t : TypeModel) : Block := ⟨⟨.type, t.name, Text.shortName t.name, t.name⟩, t.header⟩

/-- The line of that number is one of the member's, which stands behind some others. -/
def FallsOnMember (t : TypeModel) (line : Nat) (before : List Member) (m : Member) : Prop :=
  FallsOn line (blocks { t with members := before }) (m.block t.name)

theorem blocks_of_split {t : TypeModel} {before after : List Member} {m : Member}
    (h : t.members = before ++ m :: after) :
    t.blocks = blocks { t with members := before } ++ m.block t.name :: after.map (·.block t.name) := by
  rw [blocks, h, List.map_append]
  rfl

/-- Every line is the header's or a member's, and is correlated with the type or with that member. -/
structure Attributes (t : TypeModel) (unit : SourceUnit) : Prop where
  divided : ∀ line : UInt32, 1 ≤ line → line ≤ unit.lineCount →
    FallsOn line.toNat [] t.headerBlock ∨
      ∃ before m after, t.members = before ++ m :: after ∧ t.FallsOnMember line.toNat before m
  header : ∀ d : Diagnostic, FallsOn d.line.toNat [] t.headerBlock →
    (Token.correlate d (some unit)).entity = some ⟨.type, t.name, Text.shortName t.name, t.name⟩
  member : ∀ (d : Diagnostic) (before : List Member) (m : Member) (after : List Member),
    t.members = before ++ m :: after → t.FallsOnMember d.line.toNat before m →
      (Token.correlate d (some unit)).entity = some ⟨m.kind, m.id, m.name, t.name⟩

/-- It is enough that lines are correlated with the entities of the blocks that they fall on. -/
theorem attributes_of_blocks {t : TypeModel} {unit : SourceUnit}
    (hdivided : ∀ line : UInt32, 1 ≤ line → line ≤ unit.lineCount →
      ∃ before b after, t.blocks = before ++ b :: after ∧ FallsOn line.toNat before b)
    (hcorrelated : ∀ d : Diagnostic, ∀ before b after, t.blocks = before ++ b :: after →
      FallsOn d.line.toNat before b → (Token.correlate d (some unit)).entity = some b.entity) : t.Attributes unit where
  divided := by
    intro line hpositive hle
    obtain ⟨left, b, right, hblocks, hfalls⟩ := hdivided line hpositive hle
    rcases left with _ | ⟨header, left⟩
    · obtain ⟨rfl, -⟩ := List.cons.inj hblocks
      exact Or.inl hfalls
    · obtain ⟨rfl, hmembers⟩ := List.cons.inj hblocks
      obtain ⟨before, others, hsplit, rfl, hothers⟩ := List.map_eq_append_iff.1 hmembers
      obtain ⟨m, after, rfl, rfl, -⟩ := List.map_eq_cons_iff.1 hothers
      exact Or.inr ⟨before, m, after, hsplit, hfalls⟩
  header := fun d hfalls => hcorrelated d [] t.headerBlock _ rfl hfalls
  member := fun d _ _ _ hsplit hfalls => hcorrelated d _ _ _ (blocks_of_split hsplit) hfalls

end TypeModel

/-- A type whose blocks have fewer than 2³² lines generates a unit of just these lines, with one span for each block
that has a line. Every line of it falls on a block, and is correlated with the span and the entity of the block that
it falls on: with the type for a line of the header, and else with the member whose line it is. What lies outside the
unit is correlated with nothing. -/
theorem TypeModel.lines_attributed {t : TypeModel} (hcount : lineTotal t.blocks < UInt32.size) :
    ∃ unit, t.generate = .ok unit ∧ unit.name = t.name ∧
      Text.lines unit.text.toList = t.blocks.flatMap (fun b => b.lines.map Text.withoutReturn) ∧
      unit.lineCount.toNat = lineTotal t.blocks ∧
      unit.spans = (t.blocks.filter fun b => b.lines ≠ []).map (fun b => ⟨b.lines.length.toUInt32, some b.entity⟩) ∧
      (∀ line : UInt32, 1 ≤ line → line ≤ unit.lineCount →
        ∃ before b after, t.blocks = before ++ b :: after ∧ FallsOn line.toNat before b) ∧
      (∀ d : Diagnostic, ∀ before b after, t.blocks = before ++ b :: after → FallsOn d.line.toNat before b →
        Token.correlate d (some unit) =
          ⟨d, some (before.filter fun b => b.lines ≠ []).length, some ⟨b.lines.length.toUInt32, some b.entity⟩,
            some b.entity⟩) ∧
      t.Attributes unit ∧
      ∀ d : Diagnostic, d.line = 0 ∨ unit.lineCount < d.line →
        Token.correlate d (some unit) = ⟨d, none, none, none⟩ := by
  have hlineCount : t.unit.lineCount.toNat = lineTotal t.blocks := lineCount_text hcount
  have hdivided : ∀ line : UInt32, 1 ≤ line → line ≤ t.unit.lineCount →
      ∃ before b after, t.blocks = before ++ b :: after ∧ FallsOn line.toNat before b := by
    intro line hpositive hle
    rw [UInt32.le_iff_toNat_le] at hpositive hle
    exact exists_fallsOn hpositive (hlineCount ▸ hle)
  have hcorrelated : ∀ d : Diagnostic, ∀ before b after, t.blocks = before ++ b :: after →
      FallsOn d.line.toNat before b → Token.correlate d (some t.unit) =
        ⟨d, some (before.filter fun b => b.lines ≠ []).length, some b.wholeSpan, some b.entity⟩ := by
    intro d before b after hblocks hfalls
    refine Token.correlate_of_locate ?_
    rw [unit, hblocks]
    exact locate_of_fallsOn (hblocks ▸ hcount) hfalls
  have hattributes : t.Attributes t.unit := attributes_of_blocks hdivided fun d before b after hblocks hfalls =>
    congrArg Token.entity (hcorrelated d before b after hblocks hfalls)
  refine ⟨t.unit, generate_eq hcount, rfl, t.lines_text, hlineCount, Block.filterMap_span? t.blocks, hdivided, hcorrelated,
    hattributes, fun d houtside => ?_⟩
  refine Token.correlate_of_locate_none (locate_eq_none (houtside.imp_right fun hbeyond => ?_))
  rw [UInt32.lt_iff_toNat_lt, hlineCount] at hbeyond
  rwa [unit, Block.covered_filterMap_span? hcount]

/-! ### A type with odd line ends -/

/-- A type whose header has a blank line, and whose members have a carriage return too many, no line, and no line
feed at the end. -/
def oddlyEnded : TypeModel :=
  ⟨"app.Order", "type Order\n\n",
    [⟨.import, "i1", "money", "import money\r"⟩, ⟨.property, "p1", "note", ""⟩,
      ⟨.property, "p2", "total", "total\r\r\nint"⟩, ⟨.method, "m1", "sum", "sum()\n"⟩]⟩

/-- Its second line is the type's, the third the import's, the fifth the second of a property's, although another one
stands in between, and the sixth the method's. -/
theorem TypeModel.lines_of_members :
    ∃ unit, oddlyEnded.generate = .ok unit ∧ unit.lineCount = 6 ∧ unit.spans.length = 4 ∧
      (∀ d : Diagnostic, d.line = 2 →
        (Token.correlate d (some unit)).entity = some ⟨.type, "app.Order", "Order", "app.Order"⟩) ∧
      (∀ d : Diagnostic, d.line = 3 →
        (Token.correlate d (some unit)).entity = some ⟨.import, "i1", "money", "app.Order"⟩) ∧
      (∀ d : Diagnostic, d.line = 5 → Token.correlate d (some unit) =
        ⟨d, some 2, some ⟨2, some ⟨.property, "p2", "total", "app.Order"⟩⟩,
          some ⟨.property, "p2", "total", "app.Order"⟩⟩) ∧
      (∀ d : Diagnostic, d.line = 6 →
        (Token.correlate d (some unit)).entity = some ⟨.method, "m1", "sum", "app.Order"⟩) ∧
      ∀ d : Diagnostic, d.line = 7 → Token.correlate d (some unit) = ⟨d, none, none, none⟩ := by
  have hcount : lineTotal oddlyEnded.blocks < UInt32.size := by decide
  obtain ⟨unit, hgenerate, -, -, hlineCount, hspans, -, hwithin, hattributes, hbeyond⟩ := lines_attributed hcount
  have hsix : unit.lineCount = 6 := UInt32.toNat_inj.1 hlineCount
  refine ⟨unit, hgenerate, hsix, by rw [hspans]; decide, fun d hd => ?_, fun d hd => ?_, fun d hd => ?_,
    fun d hd => ?_, fun d hd => ?_⟩
  · exact hattributes.header d (by rw [hd]; exact ⟨by decide, by decide⟩)
  · exact hattributes.member d [] _ _ rfl (by rw [hd]; exact ⟨by decide, by decide⟩)
  · exact hwithin d (oddlyEnded.blocks.take 3) _ _ rfl (by rw [hd]; exact ⟨by decide, by decide⟩)
  · exact hattributes.member d (oddlyEnded.members.take 3) _ _ rfl (by rw [hd]; exact ⟨by decide, by decide⟩)
  · exact hbeyond d (Or.inr (by rw [hd, hsix]; decide))

end HotSchema
