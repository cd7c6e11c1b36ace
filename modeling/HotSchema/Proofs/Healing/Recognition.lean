import HotSchema.Proofs.Healing.Reading
import HotSchema.Proofs.Toolchain.Wording
/-!
# What the four patterns recognize

Each pattern is given here by its phrases: the words, the blanks between them, and the name with perhaps a backtick on
either side. An unclassified token is recognized exactly if a phrase stands in its message, wherever and among whatever
else. The symbol is the name in the phrase that counts: the leftmost, and of those that begin there the one that a reader
takes who prefers longer runs, earlier alternatives, and what is optional. A classified token is recognized by its class,
and its message only lends the symbol.
-/

namespace HotSchema

open Shape

/-! ### Phrases -/

/-- At least one character, and all of the kind. -/
def RunOf (kind : Char → Bool) (s : List Char) : Prop := s ≠ [] ∧ ∀ c ∈ s, kind c = true

def isDotted (c : Char) : Bool := Text.isWord c || c == '.'

def IsTick (s : List Char) : Prop := s = [] ∨ s = ['`']

/-- The text between perhaps one backtick and another. -/
def Ticked (inner s : List Char) : Prop := ∃ before after, IsTick before ∧ IsTick after ∧ s = before ++ (inner ++ after)

/-- The text of a phrase about a failure of the class, and the name that it is about. -/
inductive Phrase : FailureClass → List Char → List Char → Prop where
  | unresolvedImport {kind gap name ticked gap' ending : List Char}
    (hkind : SpellsOne ["package", "import", "module"] kind) (hgap : RunOf Text.isBlank gap)
    (hname : RunOf isDotted name) (hticked : Ticked name ticked) (hgap' : RunOf Text.isBlank gap')
    (hending : SpellsOne ["does not exist", "not found", "cannot be resolved"] ending) :
    Phrase .unresolvedImport (kind ++ (gap ++ (ticked ++ (gap' ++ ending)))) name
  | duplicateDefinition {start gap name ticked : List Char}
    (hstart : SpellsOne
      ["duplicate definition of", "duplicate declaration of", "already defined:", "already defined"] start)
    (hgap : RunOf Text.isBlank gap) (hname : RunOf Text.isWord name) (hticked : Ticked name ticked) :
    Phrase .duplicateDefinition (start ++ (gap ++ ticked)) name
  | unknownSymbol {start colon gap name ticked : List Char}
    (hstart : SpellsOne ["cannot find symbol", "unknown symbol", "undefined symbol"] start)
    (hcolon : colon = [] ∨ colon = [':']) (hgap : RunOf Text.isBlank gap)
    (hname : RunOf isDotted name) (hticked : Ticked name ticked) :
    Phrase .unknownSymbol (start ++ (colon ++ (gap ++ ticked))) name
  | signatureClash {name parens ticked gap ending : List Char} (hname : RunOf Text.isWord name)
    (hparens : parens = [] ∨ ∃ inside, ')' ∉ inside ∧ parens = '(' :: (inside ++ [')']))
    (hticked : Ticked (name ++ parens) ticked) (hgap : RunOf Text.isBlank gap)
    (hending : SpellsOne
      ["clashes with a base definition", "clashes with a base method", "clashes with a base signature",
        "clashes with the base definition", "clashes with the base method", "clashes with the base signature",
        "clashes with base definition", "clashes with base method", "clashes with base signature"] ending) :
    Phrase .signatureClash (ticked ++ (gap ++ ending)) name

variable {taken : List Char} {read : Option (List Char)}

theorem takes_backtick_iff {s : List Char} : backtick.Takes s ↔ IsTick s :=
  takes_optional_sign_iff (by decide) (by decide)

theorem reads_nameOf_iff {c : CharClass} :
    (nameOf c).Reads taken read ↔ ∃ name, read = some name ∧ RunOf c.has name ∧ Ticked name taken := by
  constructor
  · intro h
    obtain ⟨opening, rest, rfl, hopening, h⟩ := (reads_seq_of_plain (by decide)).1 h
    obtain ⟨name, closing, rfl, hnamed, hclosing⟩ := (reads_before_plain (by decide)).1 h
    obtain ⟨hname, rfl⟩ := reads_named_iff.1 hnamed
    exact ⟨name, rfl, takes_runs_iff.1 hname, opening, closing, takes_backtick_iff.1 hopening,
      takes_backtick_iff.1 (takes_seq_nothing_iff.1 hclosing), rfl⟩
  · rintro ⟨name, rfl, hname, opening, closing, hopening, hclosing, rfl⟩
    refine (reads_seq_of_plain (by decide)).2 ⟨opening, _, rfl, takes_backtick_iff.2 hopening, ?_⟩
    exact (reads_before_plain (by decide)).2 ⟨name, closing, rfl, reads_named_iff.2 ⟨takes_runs_iff.2 hname, rfl⟩,
      takes_seq_nothing_iff.2 (takes_backtick_iff.2 hclosing)⟩

theorem reads_unresolvedImport_iff : FailureClass.unresolvedImport.shape.Reads taken read ↔
    ∃ name, read = some name ∧ Phrase .unresolvedImport taken name := by
  have hkinds {s : List Char} : (anyText "package" ["import", "module"]).Takes s ↔
      SpellsOne ["package", "import", "module"] s := takes_iff_spells (by decide +kernel) (by decide +kernel)
  have hendings {s : List Char} :
      (seq (anyText "does not exist" ["not found", "cannot be resolved"]) nothing).Takes s ↔
        SpellsOne ["does not exist", "not found", "cannot be resolved"] s :=
    takes_iff_spells (by decide +kernel) (by decide +kernel)
  constructor
  · intro h
    obtain ⟨kind, rest, rfl, hkind, h⟩ := (reads_seq_of_plain (by decide +kernel)).1 h
    obtain ⟨gap, rest, rfl, hgap, h⟩ := (reads_seq_of_plain (by decide +kernel)).1 h
    obtain ⟨ticked, rest, rfl, hnamed, h⟩ := (reads_before_plain (by decide +kernel)).1 h
    obtain ⟨gap', ending, rfl, hgap', hending⟩ := takes_seq_iff.1 h
    obtain ⟨name, rfl, hname, hticked⟩ := reads_nameOf_iff.1 hnamed
    exact ⟨name, rfl, .unresolvedImport (hkinds.1 hkind) (takes_runs_iff.1 hgap) hname hticked
      (takes_runs_iff.1 hgap') (hendings.1 hending)⟩
  · rintro ⟨name, rfl, hphrase⟩
    obtain ⟨hkind, hgap, hname, hticked, hgap', hending⟩ := hphrase
    refine (reads_seq_of_plain (by decide +kernel)).2 ⟨_, _, rfl, hkinds.2 hkind, ?_⟩
    refine (reads_seq_of_plain (by decide +kernel)).2 ⟨_, _, rfl, takes_runs_iff.2 hgap, ?_⟩
    refine (reads_before_plain (by decide +kernel)).2 ⟨_, _, rfl, reads_nameOf_iff.2 ⟨name, rfl, hname, hticked⟩, ?_⟩
    exact takes_seq_iff.2 ⟨_, _, rfl, takes_runs_iff.2 hgap', hendings.2 hending⟩

theorem reads_duplicateDefinition_iff : FailureClass.duplicateDefinition.shape.Reads taken read ↔
    ∃ name, read = some name ∧ Phrase .duplicateDefinition taken name := by
  have hstarts {s : List Char} :
      (choice (all [text "duplicate ", anyText "definition" ["declaration"], text " of"])
        (all [text "already defined", optional (text ":")])).Takes s ↔
        SpellsOne
          ["duplicate definition of", "duplicate declaration of", "already defined:", "already defined"] s :=
    takes_iff_spells (by decide +kernel) (by decide +kernel)
  constructor
  · intro h
    obtain ⟨start, rest, rfl, hstart, h⟩ := (reads_seq_of_plain (by decide +kernel)).1 h
    obtain ⟨gap, rest, rfl, hgap, h⟩ := (reads_seq_of_plain (by decide +kernel)).1 h
    obtain ⟨name, rfl, hname, hticked⟩ := reads_nameOf_iff.1 (reads_seq_nothing_iff.1 h)
    exact ⟨name, rfl, .duplicateDefinition (hstarts.1 hstart) (takes_runs_iff.1 hgap) hname hticked⟩
  · rintro ⟨name, rfl, hphrase⟩
    obtain _ | ⟨hstart, hgap, hname, hticked⟩ := hphrase
    refine (reads_seq_of_plain (by decide +kernel)).2 ⟨_, _, rfl, hstarts.2 hstart, ?_⟩
    refine (reads_seq_of_plain (by decide +kernel)).2 ⟨_, _, rfl, takes_runs_iff.2 hgap, ?_⟩
    exact reads_seq_nothing_iff.2 (reads_nameOf_iff.2 ⟨name, rfl, hname, hticked⟩)

theorem reads_unknownSymbol_iff : FailureClass.unknownSymbol.shape.Reads taken read ↔
    ∃ name, read = some name ∧ Phrase .unknownSymbol taken name := by
  have hstarts {s : List Char} : (anyText "cannot find symbol" ["unknown symbol", "undefined symbol"]).Takes s ↔
      SpellsOne ["cannot find symbol", "unknown symbol", "undefined symbol"] s :=
    takes_iff_spells (by decide +kernel) (by decide +kernel)
  have hcolons {s : List Char} : (optional (text ":")).Takes s ↔ s = [] ∨ s = [':'] :=
    takes_optional_sign_iff (by decide) (by decide)
  constructor
  · intro h
    obtain ⟨start, rest, rfl, hstart, h⟩ := (reads_seq_of_plain (by decide +kernel)).1 h
    obtain ⟨colon, rest, rfl, hcolon, h⟩ := (reads_seq_of_plain (by decide +kernel)).1 h
    obtain ⟨gap, rest, rfl, hgap, h⟩ := (reads_seq_of_plain (by decide +kernel)).1 h
    obtain ⟨name, rfl, hname, hticked⟩ := reads_nameOf_iff.1 (reads_seq_nothing_iff.1 h)
    exact ⟨name, rfl, .unknownSymbol (hstarts.1 hstart) (hcolons.1 hcolon) (takes_runs_iff.1 hgap) hname hticked⟩
  · rintro ⟨name, rfl, hphrase⟩
    obtain _ | _ | ⟨hstart, hcolon, hgap, hname, hticked⟩ := hphrase
    refine (reads_seq_of_plain (by decide +kernel)).2 ⟨_, _, rfl, hstarts.2 hstart, ?_⟩
    refine (reads_seq_of_plain (by decide +kernel)).2 ⟨_, _, rfl, hcolons.2 hcolon, ?_⟩
    refine (reads_seq_of_plain (by decide +kernel)).2 ⟨_, _, rfl, takes_runs_iff.2 hgap, ?_⟩
    exact reads_seq_nothing_iff.2 (reads_nameOf_iff.2 ⟨name, rfl, hname, hticked⟩)

theorem takes_parens_iff {s : List Char} : (optional (all [text "(", run .inParens, text ")"])).Takes s ↔
    s = [] ∨ ∃ inside, ')' ∉ inside ∧ s = '(' :: (inside ++ [')']) := by
  rw [takes_optional_iff]
  refine or_congr_right ?_
  constructor
  · intro h
    obtain ⟨opening, rest, rfl, hopening, h⟩ := takes_seq_iff.1 h
    obtain ⟨inside, rest, rfl, hinside, h⟩ := takes_seq_iff.1 h
    obtain ⟨closing, rest, rfl, hclosing, h⟩ := takes_seq_iff.1 h
    rw [(takes_sign_iff (c := '(') (by decide) (by decide)).1 hopening,
      (takes_sign_iff (c := ')') (by decide) (by decide)).1 hclosing, takes_nothing_iff.1 h]
    refine ⟨inside, fun hmem => ?_, rfl⟩
    exact absurd (takes_run_iff.1 hinside _ hmem) (by decide)
  · rintro ⟨inside, hinside, rfl⟩
    have hall : ∀ c ∈ inside, CharClass.inParens.has c = true := by
      intro c hc
      have hne : c ≠ ')' := fun heq => hinside (heq ▸ hc)
      simpa [CharClass.has] using hne
    exact takes_seq_iff.2 ⟨['('], _, rfl, takes_text "(", takes_seq_iff.2 ⟨inside, _, rfl, takes_run_iff.2 hall,
      takes_seq_iff.2 ⟨[')'], [], rfl, takes_text ")", .nothing⟩⟩⟩

theorem reads_signatureClash_iff : FailureClass.signatureClash.shape.Reads taken read ↔
    ∃ name, read = some name ∧ Phrase .signatureClash taken name := by
  have hendings {s : List Char} :
      (all [text "clashes with ", optional (anyText "a " ["the "]), text "base ",
        anyText "definition" ["method", "signature"]]).Takes s ↔
        SpellsOne
          ["clashes with a base definition", "clashes with a base method", "clashes with a base signature",
            "clashes with the base definition", "clashes with the base method", "clashes with the base signature",
            "clashes with base definition", "clashes with base method", "clashes with base signature"] s :=
    takes_iff_spells (by decide +kernel) (by decide +kernel)
  -- The backticks stand around the parentheses too, so the name is not read together with them as elsewhere.
  constructor
  · intro h
    obtain ⟨opening, rest, rfl, hopening, h⟩ := (reads_seq_of_plain (by decide +kernel)).1 h
    obtain ⟨name, rest, rfl, hnamed, h⟩ := (reads_before_plain (by decide +kernel)).1 h
    obtain ⟨parens, rest, rfl, hparens, h⟩ := takes_seq_iff.1 h
    obtain ⟨closing, rest, rfl, hclosing, h⟩ := takes_seq_iff.1 h
    obtain ⟨gap, ending, rfl, hgap, hending⟩ := takes_seq_iff.1 h
    obtain ⟨hname, rfl⟩ := reads_named_iff.1 hnamed
    have hticked : Ticked (name ++ parens) (opening ++ (name ++ parens ++ closing)) :=
      ⟨opening, closing, takes_backtick_iff.1 hopening, takes_backtick_iff.1 hclosing, rfl⟩
    have hphrase := Phrase.signatureClash (takes_runs_iff.1 hname) (takes_parens_iff.1 hparens) hticked
      (takes_runs_iff.1 hgap) (hendings.1 hending)
    exact ⟨name, rfl, by simpa only [List.append_assoc] using hphrase⟩
  · rintro ⟨name, rfl, hphrase⟩
    obtain _ | _ | _ | ⟨hname, hparens, ⟨opening, closing, hopening, hclosing, rfl⟩, hgap, hending⟩ := hphrase
    simp only [List.append_assoc]
    refine (reads_seq_of_plain (by decide +kernel)).2 ⟨_, _, rfl, takes_backtick_iff.2 hopening, ?_⟩
    refine (reads_before_plain (by decide +kernel)).2
      ⟨name, _, rfl, reads_named_iff.2 ⟨takes_runs_iff.2 hname, rfl⟩, ?_⟩
    refine takes_seq_iff.2 ⟨_, _, rfl, takes_parens_iff.2 hparens, ?_⟩
    refine takes_seq_iff.2 ⟨_, _, rfl, takes_backtick_iff.2 hclosing, ?_⟩
    exact takes_seq_iff.2 ⟨_, _, rfl, takes_runs_iff.2 hgap, hendings.2 hending⟩

/-- The texts of a pattern are its phrases, with their names. -/
theorem reads_pattern_iff (f : FailureClass) :
    f.shape.Reads taken read ↔ ∃ name, read = some name ∧ Phrase f taken name := by
  cases f with
  | unresolvedImport => exact reads_unresolvedImport_iff
  | duplicateDefinition => exact reads_duplicateDefinition_iff
  | unknownSymbol => exact reads_unknownSymbol_iff
  | signatureClash => exact reads_signatureClash_iff

/-! ### Recognition -/

section

variable {f : FailureClass} {message before after : List Char} {fit : Fit}

theorem firstWay_isSome_iff_phrase : (f.shape.firstWay message).isSome = true ↔
    ∃ phrase name, Phrase f phrase name ∧ phrase <:+: message := by
  rw [firstWay_isSome_iff_occurs]
  constructor
  · rintro ⟨before, fit, after, hhas, rfl⟩
    obtain ⟨name, -, hphrase⟩ := (reads_pattern_iff f).1 ⟨fit, hhas, rfl, rfl⟩
    exact ⟨fit.text, name, hphrase, before, after, List.append_assoc _ _ _⟩
  · rintro ⟨phrase, name, hphrase, before, after, rfl⟩
    obtain ⟨fit, hhas, rfl, -⟩ := (reads_pattern_iff f).2 ⟨name, rfl, hphrase⟩
    exact ⟨before, fit, after, hhas, List.append_assoc _ _ _⟩

/-- The phrase that counts has a name in it. -/
theorem Shape.Counts.exists_name (h : f.shape.Counts message before fit after) :
    ∃ name, fit.name = some name ∧ Phrase f fit.text name :=
  (reads_pattern_iff f).1 ⟨fit, h.has, rfl, rfl⟩

end

namespace MessagePattern

variable {f g : FailureClass} {t : Token}

theorem recognize_of_unclassified (p : MessagePattern) (h : t.failure = none) :
    p.recognize t = p.search t.message := by
  rw [recognize, h]

theorem recognize_of_classified (p : MessagePattern) (h : t.failure = some g) : p.recognize t =
    if g = p.failure then some ⟨(p.recognize t.unclassified).bind (·.symbol)⟩ else none := by
  rw [recognize_of_unclassified p (t := t.unclassified) rfl, recognize, h]
  rfl

theorem recognize_isSome_iff (h : t.failure = none) : (f.pattern.recognize t).isSome = true ↔
    ∃ phrase name, Phrase f phrase name ∧ phrase <:+: t.message.toList := by
  rw [recognize_of_unclassified f.pattern h, f.search_pattern, Option.isSome_map, firstWay_isSome_iff_phrase]

theorem recognize_eq_some_iff (h : t.failure = none) (r : Recognition) : f.pattern.recognize t = some r ↔
    ∃ before fit after name, f.shape.Counts t.message.toList before fit after ∧
      fit.name = some name ∧ Phrase f fit.text name ∧ r = ⟨some (String.ofList name)⟩ := by
  rw [recognize_of_unclassified f.pattern h, f.search_pattern, Option.map_eq_some_iff]
  constructor
  · rintro ⟨way, hway, rfl⟩
    obtain ⟨before, fit, after, hcounts, hsymbol⟩ := counts_of_firstWay hway
    obtain ⟨name, hname, hphrase⟩ := hcounts.exists_name
    refine ⟨before, fit, after, name, hcounts, hname, hphrase, ?_⟩
    rw [hsymbol, hname, Option.map_some]
  · rintro ⟨before, fit, after, name, hcounts, hname, -, rfl⟩
    obtain ⟨way, hway, hsymbol⟩ := Option.map_eq_some_iff.1 hcounts.symbol_firstWay
    refine ⟨way, hway, ?_⟩
    rw [hsymbol, hname, Option.map_some]

/-- Text around a message hides none of its phrases. -/
theorem recognize_isSome_of_within {more : Token} (ht : t.failure = none) (hmore : more.failure = none)
    (hwithin : t.message.toList <:+: more.message.toList) (h : (f.pattern.recognize t).isSome = true) :
    (f.pattern.recognize more).isSome = true := by
  obtain ⟨phrase, name, hphrase, hstands⟩ := (recognize_isSome_iff ht).1 h
  exact (recognize_isSome_iff hmore).2 ⟨phrase, name, hphrase, hstands.trans hwithin⟩

/-- An unclassified token is recognized exactly if a phrase of the class stands in its message, whatever is around it, and
the symbol is the name in the phrase that counts. A classified token is recognized exactly by its own class, with the
symbol that it would give without it. -/
theorem recognizes_phrases (f : FailureClass) (t : Token) :
    (t.failure = none →
      ((f.pattern.recognize t).isSome = true ↔ ∃ phrase name, Phrase f phrase name ∧ phrase <:+: t.message.toList) ∧
      (∀ r, f.pattern.recognize t = some r ↔
        ∃ before fit after name, f.shape.Counts t.message.toList before fit after ∧
          fit.name = some name ∧ Phrase f fit.text name ∧ r = ⟨some (String.ofList name)⟩) ∧
      ((f.pattern.recognize t).isSome = true →
        ∀ before after, (f.pattern.recognize { t with message := before ++ t.message ++ after }).isSome = true)) ∧
    ∀ g, t.failure = some g → f.pattern.recognize t =
      if g = f then some ⟨(f.pattern.recognize t.unclassified).bind (·.symbol)⟩ else none := by
  refine ⟨fun h => ⟨recognize_isSome_iff h, recognize_eq_some_iff h, fun hsome before after => ?_⟩,
    fun g => recognize_of_classified f.pattern⟩
  refine recognize_isSome_of_within h h ⟨before.toList, after.toList, ?_⟩ hsome
  rw [String.toList_append, String.toList_append]

/-- What stands first is no phrase, as the base there goes on. In the phrase an s is long, and only one backtick is left. -/
def nearMiss : Token :=
  ⟨⟨.error, "dynamic.Invoice", 7, "`cost(a)` clashes with baseline, total(b)` Claſhes with the base Method", none⟩,
    none, none, none⟩

theorem recognizes_after_near_miss :
    (∃ phrase name, Phrase .signatureClash phrase name ∧ phrase <:+: nearMiss.message.toList) ∧
      FailureClass.signatureClash.pattern.recognize nearMiss = some ⟨some "total"⟩ ∧
      (∃ before fit after name,
        FailureClass.signatureClash.shape.Counts nearMiss.message.toList before fit after ∧
          fit.name = some name ∧ Phrase .signatureClash fit.text name ∧
          (⟨some "total"⟩ : Recognition) = ⟨some (String.ofList name)⟩) ∧
      (FailureClass.signatureClash.pattern.recognize
        { nearMiss with message := "note: " ++ nearMiss.message ++ "s" }).isSome = true ∧
      FailureClass.signatureClash.pattern.recognize { nearMiss with failure := some .signatureClash } =
        some ⟨some "total"⟩ ∧
      FailureClass.unknownSymbol.pattern.recognize { nearMiss with failure := some .signatureClash } = none := by
  have hread : FailureClass.signatureClash.pattern.recognize nearMiss = some ⟨some "total"⟩ := by decide +kernel
  have hsome : (FailureClass.signatureClash.pattern.recognize nearMiss).isSome = true := by
    rw [hread, Option.isSome_some]
  obtain ⟨hphrase, hcounts, hwithin⟩ := (recognizes_phrases .signatureClash nearMiss).1 rfl
  refine ⟨hphrase.1 hsome, hread, (hcounts _).1 hread, hwithin hsome _ _, ?_, ?_⟩
  · rw [(recognizes_phrases .signatureClash { nearMiss with failure := some .signatureClash }).2 _ rfl, if_pos rfl]
    show some (⟨(FailureClass.signatureClash.pattern.recognize nearMiss).bind Recognition.symbol⟩ : Recognition) = _
    rw [hread, Option.bind_some]
  · exact (recognizes_phrases .unknownSymbol { nearMiss with failure := some .signatureClash }).2 _ rfl

end MessagePattern

end HotSchema
