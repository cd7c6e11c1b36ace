import HotSchema.Healing.Pass
import HotSchema.Proofs.Healing.Letters
import HotSchema.Proofs.Healing.Shape
import HotSchema.Proofs.Text.Cut
import HotSchema.Toolchain.Statements
import Mathlib.Data.List.Infix
/-!
# How the statement compiler words its errors

Every error of a class is one name in a fixed wording, and the name has no blank in it. So where the texts that a
pattern looks for have a blank, it is one of the wording and not of the name, and what stands around the blanks
of the wording tells the classes apart: whatever the name, no pattern fits the wording of another class.

It follows that a healing pass does the same with and without the classes, unless an error has a class and its
message does not fit the pattern of that class.
-/

namespace HotSchema

/-! ### Around the blanks -/

namespace Text

/-- What stands before and after each blank of a text. -/
def aroundBlanks : List Char → List (List Char × List Char)
  | [] => []
  | c :: s =>
    let later := (aroundBlanks s).map fun parts => (c :: parts.1, parts.2)
    if c = ' ' then ([], s) :: later else later

theorem mem_aroundBlanks (before after : List Char) :
    (before, after) ∈ aroundBlanks (before ++ ' ' :: after) := by
  induction before with
  | nil => simp [aroundBlanks]
  | cons c before ih =>
    have hlater : (c :: before, after) ∈ (aroundBlanks (before ++ ' ' :: after)).map
        fun parts => (c :: parts.1, parts.2) := List.mem_map.2 ⟨_, ih, rfl⟩
    rw [List.cons_append, aroundBlanks]
    split
    · exact List.mem_cons_of_mem _ hlater
    · exact hlater

/-- A blank of two texts is a blank of the first or of the second. -/
theorem blank_of_append {first second before after : List Char} (h : first ++ second = before ++ ' ' :: after) :
    (∃ rest, first = before ++ ' ' :: rest ∧ after = rest ++ second) ∨ ∃ rest, second = rest ++ ' ' :: after := by
  rcases List.append_eq_append_iff.1 h with ⟨rest, -, hsecond⟩ | ⟨rest, hfirst, hafter⟩
  · exact Or.inr ⟨rest, hsecond⟩
  · rcases rest with _ | ⟨c, rest⟩
    · exact Or.inr ⟨[], hafter.symm⟩
    · obtain ⟨rfl, hrest⟩ := List.cons.inj hafter
      exact Or.inl ⟨rest, hfirst, hrest⟩

/-- Around no blank of a wording stand the two texts of the key, whatever the name between its start and its
ending is. -/
def Avoids (start ending : List Char) (key : List Char × List Char) : Prop :=
  (∀ parts ∈ aroundBlanks start, key.1 <:+ parts.1 → key.2.length ≤ parts.2.length ∧ ¬ key.2 <+: parts.2) ∧
    ∀ parts ∈ aroundBlanks ending, ¬ key.2 <+: parts.2

instance (start ending : List Char) (key : List Char × List Char) : Decidable (Avoids start ending key) :=
  inferInstanceAs (Decidable (_ ∧ _))

theorem Avoids.not_stands {start name ending : List Char} {key : List Char × List Char}
    (h : Avoids start ending key) (hname : ' ' ∉ name) :
    ¬ key.1 ++ ' ' :: key.2 <:+: start ++ (name ++ ending) := by
  obtain ⟨hstart, hending⟩ := h
  rintro ⟨before, after, heq⟩
  have hblank : start ++ (name ++ ending) = (before ++ key.1) ++ ' ' :: (key.2 ++ after) := by
    rw [← heq]
    simp
  rcases blank_of_append hblank with ⟨rest, hfirst, hrest⟩ | ⟨rest, hlater⟩
  · -- The second text begins in what is left of the start, and it is too short to leave it.
    have hparts := mem_aroundBlanks (before ++ key.1) rest
    rw [← hfirst] at hparts
    obtain ⟨hlength, hprefix⟩ := hstart _ hparts (List.suffix_append _ _)
    exact hprefix (List.prefix_of_prefix_length_le ⟨after, hrest⟩ (List.prefix_append _ _) hlength)
  · rcases blank_of_append hlater with ⟨rest, hfirst, -⟩ | ⟨rest, hlast⟩
    · exact hname (by simp [hfirst])
    · have hparts := mem_aroundBlanks rest (key.2 ++ after)
      rw [← hlast] at hparts
      exact hending _ hparts (List.prefix_append _ _)

end Text

/-! ### Wordings and patterns -/

theorem foldCase_eq_blank_iff {c : Char} : foldCase c = ' ' ↔ c = ' ' := by
  rw [foldCase_eq_iff (by decide), FormOf, show ' '.toUpper = ' ' by decide]
  simp

theorem Shape.blank_mem_folded_iff {s : List Char} : ' ' ∈ folded s ↔ ' ' ∈ s := by
  simp [folded, foldCase_eq_blank_iff]

namespace FailureClass

theorem search_pattern (f : FailureClass) (message : String) :
    f.pattern.search message = (f.shape.firstWay message.toList).map fun way => ⟨way.symbol⟩ := rfl

/-- The texts that the pattern of the class looks for, each cut at its first blank. -/
def keys : FailureClass → List (String × String)
  | unresolvedImport => [("does", "not exist"), ("not", "found"), ("cannot", "be resolved")]
  | duplicateDefinition =>
    [("duplicate", "definition of"), ("duplicate", "declaration of"), ("already", "defined:"), ("already", "defined")]
  | unknownSymbol => [("cannot", "find symbol"), ("unknown", "symbol"), ("undefined", "symbol")]
  | signatureClash => [("clashes", "with ")]

def keyTexts (f : FailureClass) : List (List Char) := f.keys.map fun key => key.1.toList ++ ' ' :: key.2.toList

theorem mentions_keyTexts (f : FailureClass) : f.shape.Mentions f.keyTexts := by
  cases f with
  | unresolvedImport =>
    have hending : (Shape.anyText "does not exist" ["not found", "cannot be resolved"]).Mentions unresolvedImport.keyTexts :=
      Shape.mentions_literals (by decide +kernel)
    exact ((((hending.before .nothing).after _).after _).after _).after _
  | duplicateDefinition => exact (Shape.mentions_literals (by decide +kernel)).before _
  | unknownSymbol => exact (Shape.mentions_literals (by decide +kernel)).before _
  | signatureClash =>
    have hverb : (Shape.text "clashes with ").Mentions signatureClash.keyTexts :=
      Shape.mentions_literals (by decide +kernel)
    exact (((((hverb.before _).after _).after _).after _).after _).after _

end FailureClass

namespace Statements

/-- What stands before the name and after it in an error of the class. -/
def wording : FailureClass → String × String
  | .unresolvedImport => ("package ", " does not exist")
  | .duplicateDefinition => ("duplicate definition of `", "`")
  | .unknownSymbol => ("cannot find symbol ", "")
  | .signatureClash => ("", "() clashes with base definition")

/-- The message is in the wording of the class, about a name without a blank. -/
def Worded (f : FailureClass) (message : String) : Prop :=
  ∃ name : List Char, ' ' ∉ name ∧ message.toList = (wording f).1.toList ++ (name ++ (wording f).2.toList)

theorem folded_wording (f : FailureClass) :
    Shape.folded (wording f).1.toList = (wording f).1.toList ∧ Shape.folded (wording f).2.toList = (wording f).2.toList := by
  cases f <;> decide +kernel

theorem avoids_wording {f g : FailureClass} (h : f ≠ g) :
    ∀ key ∈ g.keys, Text.Avoids (wording f).1.toList (wording f).2.toList (key.1.toList, key.2.toList) := by
  cases f <;> cases g <;> first | exact absurd rfl h | decide +kernel

/-- No pattern fits the wording of another class. -/
theorem Worded.firstWay_eq_none {f g : FailureClass} {message : String} (h : Worded f message) (hne : f ≠ g) :
    g.shape.firstWay message.toList = none := by
  obtain ⟨name, hname, hmessage⟩ := h
  refine g.mentions_keyTexts.firstWay_eq_none fun key hkey => ?_
  obtain ⟨cut, hcut, rfl⟩ := List.mem_map.1 hkey
  obtain ⟨hstart, hending⟩ := folded_wording f
  rw [hmessage, Shape.folded_append, Shape.folded_append, hstart, hending]
  exact (avoids_wording hne cut hcut).not_stands (by rwa [Shape.blank_mem_folded_iff])

/-! ### Plain names -/

/-- The characters that the pattern of a class accepts in a name. -/
def nameClass : FailureClass → CharClass
  | .unresolvedImport | .unknownSymbol => .dotted
  | .duplicateDefinition | .signatureClash => .word

/-- The pattern of a class fits its wording about any name that is made of the characters it accepts. -/
theorem fits_of_plain (f : FailureClass) {name : List Char} (hname : name ≠ [])
    (hplain : ∀ c ∈ name, (nameClass f).has c = true) :
    (f.shape.firstWay ((wording f).1.toList ++ (name ++ (wording f).2.toList))).isSome = true := by
  rw [Shape.firstWay_isSome_iff]
  have hruns := Shape.takes_runs hname hplain
  have hblank : (Shape.runs .blank).Takes [' '] :=
    Shape.takes_runs (List.cons_ne_nil _ _) (List.forall_mem_singleton.2 (by decide +kernel))
  cases f with
  | unresolvedImport =>
    have htakes : FailureClass.unresolvedImport.shape.Takes _ :=
      .seq (.first (Shape.takes_text "package")) (.seq hblank (.seq (Shape.takes_nameOf hruns)
        (.seq hblank (.seq (.first (Shape.takes_text "does not exist")) .nothing))))
    exact ⟨_, htakes, [], [], by simp [wording]⟩
  | duplicateDefinition =>
    have htakes : FailureClass.duplicateDefinition.shape.Takes _ :=
      .seq (.first (.seq (Shape.takes_text "duplicate ") (.seq (.first (Shape.takes_text "definition"))
        (.seq (Shape.takes_text " of") .nothing)))) (.seq hblank (.seq (Shape.takes_quoted hruns) .nothing))
    exact ⟨_, htakes, [], [], by simp [wording]⟩
  | unknownSymbol =>
    have htakes : FailureClass.unknownSymbol.shape.Takes _ :=
      .seq (.first (Shape.takes_text "cannot find symbol")) (.seq .absent (.seq hblank
        (.seq (Shape.takes_nameOf hruns) .nothing)))
    exact ⟨_, htakes, [], [], by simp [wording]⟩
  | signatureClash =>
    have hparens : (Shape.all [.text "(", .run .inParens, .text ")"]).Takes _ :=
      .seq (Shape.takes_text "(") (.seq (.run (List.forall_mem_nil _)) (.seq (Shape.takes_text ")") .nothing))
    have htakes : FailureClass.signatureClash.shape.Takes _ :=
      .seq .absent (.seq (.named hruns) (.seq (.present hparens) (.seq .absent (.seq hblank
        (.seq (Shape.takes_text "clashes with ") (.seq .absent (.seq (Shape.takes_text "base ")
          (.seq (.first (Shape.takes_text "definition")) .nothing))))))))
    exact ⟨_, htakes, [], [], by simp [wording]⟩

/-! ### What the compiler says -/

/-- The names that errors about a statement may be about, with the classes of those errors. -/
def Statement.subjects : Statement → List (FailureClass × String)
  | .needsPackage name => [(.unresolvedImport, name)]
  | .property name => [(.duplicateDefinition, name)]
  | .call target => [(.unknownSymbol, target)]
  | .method name target =>
    (.duplicateDefinition, name) :: (.signatureClash, name) :: target.toList.map fun target => (.unknownSymbol, target)
  | .warning _ | .failure _ | .other => []

theorem subjects_ofWords (words : List String) : ∀ subject ∈ (ofWords words).subjects, subject.2 ∈ words := by
  unfold ofWords
  split <;> simp [Statement.subjects]

theorem mem_wordsOf {line word : String} (h : word ∈ wordsOf line) : word.toList ≠ [] ∧ ' ' ∉ word.toList := by
  obtain ⟨letters, hletters, rfl⟩ := List.mem_map.1 h
  obtain ⟨hsegment, hne⟩ := List.mem_filter.1 hletters
  rw [String.toList_ofList]
  refine ⟨by simpa using hne, fun hblank => ?_⟩
  exact absurd (Text.not_of_mem_segments hsegment _ hblank) (by decide +kernel)

theorem subjects_ofLine (line : String) :
    ∀ subject ∈ (ofLine line).subjects, subject.2.toList ≠ [] ∧ ' ' ∉ subject.2.toList := by
  unfold ofLine
  split
  · simp [Statement.subjects]
  · simp [Statement.subjects]
  · exact fun subject hsubject => mem_wordsOf (subjects_ofWords _ subject hsubject)

/-- The message is the wording of the class about the name. -/
def Says (f : FailureClass) (name message : String) : Prop :=
  message.toList = (wording f).1.toList ++ (name.toList ++ (wording f).2.toList)

/-- If the finding has a class, it is about one of the subjects of the class, in the wording of the class. -/
def IsAbout (subjects : List (FailureClass × String)) (finding : Finding) : Prop :=
  ∀ f, finding.1 = some f → ∃ name, (f, name) ∈ subjects ∧ Says f name finding.2

section

variable {subjects : List (FailureClass × String)} {f : FailureClass} {name target : String}

theorem isAbout_singleton {message : String} (h : (f, name) ∈ subjects) (hsaid : Says f name message) :
    ∀ finding ∈ [(some f, message)], IsAbout subjects finding := by
  rw [List.forall_mem_singleton]
  intro g hg
  cases hg
  exact ⟨name, h, hsaid⟩

theorem isAbout_checkPackage (h : (.unresolvedImport, name) ∈ subjects) :
    ∀ finding ∈ checkPackage name, IsAbout subjects finding := by
  unfold checkPackage
  split
  · exact List.forall_mem_nil _
  · exact isAbout_singleton h (by simp [Says, wording, toString])

theorem isAbout_checkTarget (methods : List String) (h : (.unknownSymbol, target) ∈ subjects) :
    ∀ finding ∈ checkTarget methods target, IsAbout subjects finding := by
  unfold checkTarget
  split
  · exact List.forall_mem_nil _
  · exact isAbout_singleton h (by simp [Says, wording, toString])

theorem isAbout_checkNew (defined : List String) {isMethod : Bool} (h : (.duplicateDefinition, name) ∈ subjects)
    (hmethod : isMethod = true → (.signatureClash, name) ∈ subjects) :
    ∀ finding ∈ checkNew defined name isMethod, IsAbout subjects finding := by
  unfold checkNew
  split_ifs with hdefined hbase
  · exact isAbout_singleton h (by simp [Says, wording, toString])
  · exact isAbout_singleton (hmethod (Bool.and_eq_true_iff.1 hbase).1) (by simp [Says, wording, toString])
  · exact List.forall_mem_nil _

end

theorem isAbout_check (methods defined : List String) (statement : Statement) :
    ∀ finding ∈ check methods defined statement, IsAbout statement.subjects finding := by
  cases statement with
  | warning _ | other => exact List.forall_mem_nil _
  | failure message =>
    rw [check, List.forall_mem_singleton]
    rintro _ ⟨⟩
  | needsPackage name => exact isAbout_checkPackage List.mem_cons_self
  | property name => exact isAbout_checkNew defined List.mem_cons_self (by simp)
  | call target => exact isAbout_checkTarget methods List.mem_cons_self
  | method name target =>
    intro finding hfinding
    rcases List.mem_append.1 hfinding with hfinding | hfinding
    · exact isAbout_checkNew defined List.mem_cons_self (fun _ => by simp) finding hfinding
    · cases target with
      | none => cases hfinding
      | some target => exact isAbout_checkTarget methods (by simp [Statement.subjects]) finding hfinding

/-- Every error that has a class is about a subject of some line, in the wording of the class. -/
theorem exists_subject_of_diagnose (classify : Bool) (unit : String) (methods defined : List String) (line : UInt32)
    (texts : List String) : ∀ d ∈ diagnose classify unit methods defined line texts, ∀ f, d.failure = some f →
      ∃ text ∈ texts, ∃ name, (f, name) ∈ (ofLine text).subjects ∧ Says f name d.message := by
  induction texts generalizing defined line with
  | nil => exact List.forall_mem_nil _
  | cons text rest ih =>
    intro d hd f hf
    rw [diagnose, List.mem_append, List.mem_append] at hd
    rcases hd with (hwarning | herror) | hrest
    · split at hwarning
      · cases List.mem_singleton.1 hwarning
        cases hf
      · cases hwarning
    · obtain ⟨finding, hfinding, rfl⟩ := List.mem_map.1 herror
      have hclass : finding.1 = some f := by
        cases classify
        · cases hf
        · exact hf
      exact ⟨text, List.mem_cons_self, isAbout_check methods defined (ofLine text) finding hfinding f hclass⟩
    · obtain ⟨other, hother, hsubject⟩ := ih _ _ d hrest f hf
      exact ⟨other, List.mem_cons_of_mem _ hother, hsubject⟩

theorem worded_diagnose (classify : Bool) (unit : String) (methods defined : List String) (line : UInt32)
    (texts : List String) :
    ∀ d ∈ diagnose classify unit methods defined line texts, ∀ f, d.failure = some f → Worded f d.message := by
  intro d hd f hf
  obtain ⟨text, -, name, hsubject, hsaid⟩ := exists_subject_of_diagnose classify unit methods defined line texts d hd f hf
  exact ⟨name.toList, (subjects_ofLine text _ hsubject).2, hsaid⟩

/-- Every name in the line that an error may be about is made of the characters that the pattern of the error's class
accepts in a name. -/
def WellNamed (line : String) : Prop :=
  ∀ subject ∈ (ofLine line).subjects, ∀ c ∈ subject.2.toList, (nameClass subject.1).has c = true

instance (line : String) : Decidable (WellNamed line) := inferInstanceAs (Decidable (∀ subject ∈ _, _))

/-- Errors in lines of such names fit the patterns of their classes. -/
theorem fits_of_diagnose {texts : List String} (htexts : ∀ text ∈ texts, WellNamed text) (classify : Bool) (unit : String)
    (methods defined : List String) (line : UInt32) : ∀ d ∈ diagnose classify unit methods defined line texts,
      ∀ f, d.failure = some f → (f.shape.firstWay d.message.toList).isSome = true := by
  intro d hd f hf
  obtain ⟨text, htext, name, hsubject, hsaid⟩ :=
    exists_subject_of_diagnose classify unit methods defined line texts d hd f hf
  rw [hsaid]
  exact fits_of_plain f (subjects_ofLine text _ hsubject).1 (htexts text htext _ hsubject)

end Statements

/-! ### Healing without classes -/

def Diagnostic.unclassified (d : Diagnostic) : Diagnostic := { d with failure := none }

namespace Token

def unclassified (t : Token) : Token := { t with failure := none }

/-- If the token has a class, its message is in the wording of that class. -/
def Worded (t : Token) : Prop := ∀ f, t.failure = some f → Statements.Worded f t.message

/-- If the token has a class, the pattern of that class fits its message. -/
def isLegible (t : Token) : Bool :=
  match t.failure with
  | none => true
  | some f => (f.shape.firstWay t.message.toList).isSome

variable {t : Token}

theorem recognize_unclassified (hworded : t.Worded) (hlegible : t.isLegible = true) (g : FailureClass) :
    g.pattern.recognize t.unclassified = g.pattern.recognize t := by
  unfold isLegible at hlegible
  unfold MessagePattern.recognize
  rcases hfailure : t.failure with _ | f <;> rw [hfailure] at hlegible <;> dsimp only [unclassified]
  rw [g.search_pattern]
  by_cases hsame : f = g
  · subst hsame
    obtain ⟨way, hway⟩ := Option.isSome_iff_exists.1 hlegible
    rw [hway]
    exact (if_pos rfl).symm
  · rw [if_neg (show f ≠ g.pattern.failure from hsame), (hworded f hfailure).firstWay_eq_none hsame, Option.map_none]

end Token

/-- A handler with the pattern of some class plans the same repair for the token without its class. -/
theorem Handler.plan_unclassified {t : Token} (hworded : t.Worded) (hlegible : t.isLegible = true) {h : Handler}
    (hpattern : ∀ p ∈ h.pattern?, ∃ f : FailureClass, p = f.pattern) : h.plan t.unclassified = h.plan t := by
  have hrecognize (p : MessagePattern) (hp : p ∈ h.pattern?) : p.recognize t.unclassified = p.recognize t := by
    obtain ⟨f, rfl⟩ := hpattern p hp
    exact Token.recognize_unclassified hworded hlegible f
  cases h with
  | legacySignature legacy => rfl
  | unresolvedImport p | duplicateDefinition p | baseSignatureClash p | unknownSymbol p =>
    simp only [plan, hrecognize p rfl]
    rfl

namespace Pipeline

/-- The handlers of the pipeline have the patterns of the classes. -/
def HasClassPatterns (p : Pipeline) : Prop := ∀ h ∈ p, ∀ q ∈ h.pattern?, ∃ f : FailureClass, q = f.pattern

theorem hasClassPatterns_standard (legacy : LegacySignatures) : (standard legacy).HasClassPatterns := by
  simp [HasClassPatterns, standard, Handler.pattern?]

variable {p : Pipeline} (hp : p.HasClassPatterns)
include hp

theorem healToken_unclassified {t : Token} (hworded : t.Worded) (hlegible : t.isLegible = true) (s : Schema) :
    healToken t.unclassified p s = healToken t p s := by
  induction p generalizing s with
  | nil => rfl
  | cons h rest ih =>
    obtain ⟨hfirst, hothers⟩ := List.forall_mem_cons.1 hp
    have happly : h.apply t.unclassified s = h.apply t s := by
      unfold Handler.apply
      rw [Handler.plan_unclassified hworded hlegible hfirst]
      rfl
    rw [healToken, healToken, happly]
    rcases h.apply t s with ⟨_ | repair, s'⟩
    · exact ih hothers s'
    · rfl

theorem healInOrder_unclassified {tokens : List Token} (htokens : ∀ t ∈ tokens, t.Worded ∧ t.isLegible = true)
    (s : Schema) : p.healInOrder (tokens.map Token.unclassified) s = p.healInOrder tokens s := by
  induction tokens generalizing s with
  | nil => rfl
  | cons t rest ih =>
    obtain ⟨⟨hworded, hlegible⟩, hothers⟩ := List.forall_mem_cons.1 htokens
    rw [List.map_cons, healInOrder, healInOrder, healToken_unclassified hp hworded hlegible]
    simp only [ih hothers]

theorem heal_unclassified {tokens : List Token} (htokens : ∀ t ∈ tokens, t.Worded ∧ t.isLegible = true)
    (s : Schema) : p.heal (tokens.map Token.unclassified) s = p.heal tokens s := by
  have hsorted : (tokens.map Token.unclassified).mergeSort Token.before =
      (tokens.mergeSort Token.before).map Token.unclassified :=
    (List.map_mergeSort (f := Token.unclassified) (r := Token.before) fun _ _ _ _ => rfl).symm
  rw [heal, hsorted, heal]
  exact healInOrder_unclassified hp (fun t ht => htokens t (List.mem_mergeSort.1 ht)) s

end Pipeline

end HotSchema
