import HotSchema.Diagnostic.Line
import HotSchema.Proofs.Text.Cut
/-!
# Reading a diagnostic that was printed

A diagnostic line is read by four cuts: twice at the first place where the parts are set apart, then at the last colon
of the location and the first bracket of the severity. So it is read back as it was printed if the location does not
set parts apart itself: the line number holds no colon, and no severity or class holds a colon or a blank. What the
message holds does not matter, for it is what the cuts leave over.

Every diagnostic that is read can be printed: its unit and its message are what was left when separators, slashes and
blanks had been taken off.
-/

namespace HotSchema.Diagnostic

/-! ### Where parts are set apart -/

theorem separator_infix_append {s t : List Char} :
    partSeparator <:+: s ++ t ↔
      partSeparator <:+: s ∨ partSeparator <:+: t ∨ (s.getLast? = some ':' ∧ t.head? = some ' ') := by
  rw [List.infix_append_iff]
  constructor
  · rintro (h | h | ⟨left, right, hparts, hleft, hright⟩)
    · exact Or.inl h
    · exact Or.inr (Or.inl h)
    · -- Of the two characters none, one or both stand in the first text.
      rcases left with _ | ⟨c, _ | ⟨d, left⟩⟩
      · rw [List.nil_append] at hparts
        exact Or.inr (Or.inl (hparts ▸ hright.isInfix))
      · obtain ⟨rfl, rfl⟩ := List.cons.inj hparts
        obtain ⟨front, rfl⟩ := hleft
        obtain ⟨rest, rfl⟩ := hright
        exact Or.inr (Or.inr ⟨by simp, by simp⟩)
      · obtain ⟨rfl, hsecond⟩ := List.cons.inj hparts
        obtain ⟨rfl, hrest⟩ := List.cons.inj hsecond
        obtain ⟨rfl, -⟩ := List.append_eq_nil_iff.1 hrest.symm
        exact Or.inl hleft.isInfix
  · rintro (h | h | ⟨hlast, hhead⟩)
    · exact Or.inl h
    · exact Or.inr (Or.inl h)
    · obtain ⟨front, rfl⟩ := List.getLast?_eq_some_iff.1 hlast
      obtain ⟨rest, rfl⟩ := List.head?_eq_some_iff.1 hhead
      exact Or.inr (Or.inr ⟨[':'], [' '], rfl, List.suffix_append _ _, List.prefix_append [' '] rest⟩)

theorem not_separator_infix {s : List Char} (h : ' ' ∉ s) : ¬ partSeparator <:+: s :=
  fun hwithin => h (hwithin.subset (by decide))

/-! ### Line numbers -/

theorem of_isDigit {c : Char} (h : c.isDigit = true) : c ≠ ':' ∧ c ≠ ' ' ∧ c ≠ '+' ∧ Text.isBlank c = false := by
  have hrange : 48 ≤ c.toNat ∧ c.toNat ≤ 57 := by
    simp only [Char.isDigit, Bool.and_eq_true, decide_eq_true_eq] at h
    exact ⟨UInt32.le_iff_toNat_le.1 h.1, UInt32.le_iff_toNat_le.1 h.2⟩
  refine ⟨?_, ?_, ?_, ?_⟩
  · rintro rfl
    exact absurd hrange.2 (by decide)
  · rintro rfl
    exact absurd hrange.1 (by decide)
  · rintro rfl
    exact absurd hrange.1 (by decide)
  · simp only [Text.isBlank, Text.blank, Text.Ranges.has, Text.Ranges.covers, Bool.and_eq_false_imp, Bool.or_eq_false_iff,
      decide_eq_true_eq, decide_eq_false_iff_not]
    omega

def lineDigits (line : UInt32) : List Char := Nat.toDigits 10 line.toNat

theorem isDigit_of_mem_lineDigits {line : UInt32} {c : Char} (h : c ∈ lineDigits line) : c.isDigit = true :=
  Nat.isDigit_of_mem_toDigits (by decide) (by decide) h

theorem trim_lineDigits (line : UInt32) : Text.trim (lineDigits line) = lineDigits line :=
  (Text.trimmed_of_free fun _ hc => (of_isDigit (isDigit_of_mem_lineDigits hc)).2.2.2).trim_eq

theorem lineNumber?_lineDigits (line : UInt32) : lineNumber? (lineDigits line) = some line := by
  have hdigits : ∀ c ∈ lineDigits line, c.isDigit = true := fun _ hc => isDigit_of_mem_lineDigits hc
  have hvalue : (lineDigits line).foldl (fun n c => 10 * n + (c.toNat - 48)) 0 = line.toNat :=
    Nat.ofDigitChars_toDigits (by decide) (by decide)
  have hall : (lineDigits line).all Char.isDigit = true := List.all_eq_true.2 hdigits
  have hnonempty : (lineDigits line).isEmpty = false := by simp [lineDigits]
  have hsize : line.toNat < 4294967296 := UInt32.toNat_lt_size line
  rw [lineNumber?]
  · simp [hall, hnonempty, hvalue, hsize]
  · -- The first character is a digit, and so there is no sign to drop.
    intro rest hplus
    exact absurd rfl (of_isDigit (hdigits '+' (by rw [hplus]; exact List.mem_cons_self))).2.2.1

/-! ### Severities and classes -/

/-- The severity as it is printed, with the class in brackets after it if there is one. -/
def headOf (severity : Severity) (failure : Option FailureClass) : List Char :=
  severity.word.toList ++ match failure with
    | none => []
    | some c => '[' :: (c.word.toList ++ [']'])

theorem readHead?_headOf (severity : Severity) (failure : Option FailureClass) :
    readHead? (headOf severity failure) = some (severity, failure) := by
  rcases failure with _ | c
  · cases severity <;> decide +kernel
  · cases severity <;> cases c <;> decide +kernel

theorem blank_not_mem_headOf (severity : Severity) (failure : Option FailureClass) : ' ' ∉ headOf severity failure := by
  rcases failure with _ | c
  · cases severity <;> decide
  · cases severity <;> cases c <;> decide

/-! ### Lines -/

/-- The four cuts of a line. -/
structure CutInto (line path number head message : List Char) : Prop where
  whole : line = (path ++ ':' :: number) ++ (partSeparator ++ (head ++ (partSeparator ++ message)))
  location : ¬ partSeparator <:+: (path ++ ':' :: number) ++ [':']
  number : ':' ∉ number
  head : ¬ partSeparator <:+: head ++ [':']

theorem readTrimmed?_eq_some_iff {line : List Char} {d : Diagnostic} :
    readTrimmed? line = some d ↔ ∃ path number head message, CutInto line path number head message ∧
      lineNumber? (Text.trim number) = some d.line ∧ readHead? head = some (d.severity, d.failure) ∧
      unitOfLocation path ≠ [] ∧ d.unit = String.ofList (unitOfLocation path) ∧
      d.message = String.ofList (Text.trim message) := by
  have hseparator : partSeparator ≠ [] := List.cons_ne_nil _ _
  simp only [readTrimmed?, Option.bind_eq_bind, Option.bind_eq_some_iff, Prod.exists]
  constructor
  · rintro ⟨location, rest, hfirst, path, number, hlast, lineNumber, hnumber, head, message, hsecond, severity, failure,
      hhead, h⟩
    split at h
    · cases h
    · next hunit =>
      cases h
      obtain ⟨rfl, hlocation⟩ := (Text.splitFirst_eq_some_iff hseparator).1 hfirst
      obtain ⟨rfl, hcolon⟩ := Text.splitLast_eq_some_iff.1 hlast
      obtain ⟨rfl, hfree⟩ := (Text.splitFirst_eq_some_iff hseparator).1 hsecond
      exact ⟨path, number, head, message, ⟨rfl, hlocation, hcolon, hfree⟩, hnumber, hhead,
        fun hnil => hunit (List.isEmpty_iff.2 hnil), rfl, rfl⟩
  · rintro ⟨path, number, head, message, ⟨hwhole, hlocation, hcolon, hfree⟩, hnumber, hhead, hunit, hname, hmessage⟩
    refine ⟨_, _, (Text.splitFirst_eq_some_iff hseparator).2 ⟨hwhole, hlocation⟩, path, number,
      Text.splitLast_eq_some_iff.2 ⟨rfl, hcolon⟩, d.line, hnumber, head, message,
      (Text.splitFirst_eq_some_iff hseparator).2 ⟨rfl, hfree⟩, d.severity, d.failure, hhead, ?_⟩
    rw [if_neg (by simpa using hunit), ← hname, ← hmessage]

theorem printAt_toList (location : String) (d : Diagnostic) :
    (printAt location d).toList = (location.toList ++ ':' :: lineDigits d.line) ++
      (partSeparator ++ (headOf d.severity d.failure ++ (partSeparator ++ d.message.toList))) := by
  rcases hfailure : d.failure with _ | c <;>
    simp [printAt, hfailure, headOf, partSeparator, lineDigits, toString, Nat.repr_eq_ofList_toDigits]

/-- A diagnostic is read back from wherever it is printed, with the unit that the location names and its message trimmed,
unless the location sets parts apart or names no unit, or the message is blank. -/
theorem ofLine?_printAt {location : String} {d : Diagnostic} (hlocation : ¬ partSeparator <:+: location.toList)
    (hunit : unitOfLocation location.toList ≠ []) (hmessage : Text.trim d.message.toList ≠ []) :
    ofLine? (printAt location d) = some
      { d with unit := .ofList (unitOfLocation location.toList), message := .ofList (Text.trim d.message.toList) } := by
  have hnumber : ' ' ∉ ':' :: lineDigits d.line ++ [':'] := by
    intro hmem
    rcases List.mem_append.1 hmem with hmem | hmem
    · rcases List.mem_cons.1 hmem with heq | hmem
      · exact absurd heq (by decide)
      · exact (of_isDigit (isDigit_of_mem_lineDigits hmem)).2.1 rfl
    · exact absurd hmem (by decide)
  have hfree : ¬ partSeparator <:+: (location.toList ++ ':' :: lineDigits d.line) ++ [':'] := by
    rw [List.append_assoc, separator_infix_append]
    rintro (h | h | ⟨-, h⟩)
    · exact hlocation h
    · exact not_separator_infix hnumber h
    · exact absurd h (by simp)
  have hhead : ¬ partSeparator <:+: headOf d.severity d.failure ++ [':'] := by
    refine not_separator_infix fun hmem => ?_
    rcases List.mem_append.1 hmem with hmem | hmem
    · exact blank_not_mem_headOf _ _ hmem
    · exact absurd hmem (by decide)
  have hcolon : ':' ∉ lineDigits d.line := fun hmem => (of_isDigit (isDigit_of_mem_lineDigits hmem)).1 rfl
  rw [ofLine?, printAt_toList, ← List.append_assoc, ← List.append_assoc, ← List.append_assoc,
    Text.trimEnd_append_of_trim_ne_nil hmessage, readTrimmed?_eq_some_iff]
  refine ⟨_, _, _, Text.trimEnd d.message.toList, ⟨?_, hfree, hcolon, hhead⟩, ?_, readHead?_headOf _ _, hunit, rfl, ?_⟩
  · simp only [List.append_assoc]
  · rw [trim_lineDigits]
    exact lineNumber?_lineDigits d.line
  · rw [Text.trim_trimEnd hmessage]

/-! ### Paths -/

/-- A directory that a path can begin with, or nothing. -/
structure IsDirectory (s : List Char) : Prop where
  last : s = [] ∨ s.getLast? = some '/'
  separator : ¬ partSeparator <:+: s

/-- A name that stands in a path as one piece. -/
structure IsFileName (s : List Char) : Prop where
  ne_nil : s ≠ []
  slash : '/' ∉ s
  backslash : '\\' ∉ s
  separator : ¬ partSeparator <:+: s

theorem IsFileName.append_extension {s : List Char} (h : IsFileName s) : IsFileName (s ++ sourceExtension.toList) := by
  refine ⟨fun hnil => h.ne_nil (List.append_eq_nil_iff.1 hnil).1, fun hmem => ?_, fun hmem => ?_, fun hwithin => ?_⟩
  · exact (List.mem_append.1 hmem).elim h.slash (by decide)
  · exact (List.mem_append.1 hmem).elim h.backslash (by decide)
  · rcases separator_infix_append.1 hwithin with hwithin | hwithin | ⟨-, hhead⟩
    · exact h.separator hwithin
    · exact not_separator_infix (by decide) hwithin
    · exact absurd hhead (by decide)

theorem IsDirectory.not_separator_infix_append {directory file : List Char} (hdirectory : IsDirectory directory)
    (hfile : IsFileName file) : ¬ partSeparator <:+: directory ++ file := by
  intro hwithin
  rcases separator_infix_append.1 hwithin with hwithin | hwithin | ⟨hlast, -⟩
  · exact hdirectory.separator hwithin
  · exact hfile.separator hwithin
  · rcases hdirectory.last with rfl | hslash
    · cases hlast
    · exact absurd (hslash.symm.trans hlast) (by decide)

/-- A path names the unit that its last piece is the file of, whatever the directory. -/
theorem unitOfLocation_append {directory file : List Char} (hdirectory : IsDirectory directory) (hfile : IsFileName file) :
    unitOfLocation (directory ++ file) = (Text.dropSuffix? sourceExtension.toList file).getD file := by
  have hfree : ∀ c ∈ file, (c == '/' || c == '\\') = false := by
    intro c hc
    have hslash : c ≠ '/' := fun heq => hfile.slash (heq ▸ hc)
    have hbackslash : c ≠ '\\' := fun heq => hfile.backslash (heq ▸ hc)
    simp [hslash, hbackslash]
  have hsegment : Text.lastSegment (fun c => c == '/' || c == '\\') (directory ++ file) = file := by
    rcases hdirectory.last with rfl | hslash
    · exact Text.lastSegment_of_free hfree
    · obtain ⟨front, rfl⟩ := List.getLast?_eq_some_iff.1 hslash
      rw [List.append_assoc, List.singleton_append, Text.lastSegment_append (by decide), Text.lastSegment_of_free hfree]
  rw [unitOfLocation, hsegment]

theorem unitOfLocation_append_extension {directory unit : List Char} (hdirectory : IsDirectory directory)
    (hunit : IsFileName unit) : unitOfLocation (directory ++ (unit ++ sourceExtension.toList)) = unit := by
  rw [unitOfLocation_append hdirectory hunit.append_extension, Text.dropSuffix?_eq_some_iff.2 rfl, Option.getD_some]

/-- What a location names is a name in one piece, if it is a name at all and the location does not set parts apart. -/
theorem isFileName_unitOfLocation {path : List Char} (hne : unitOfLocation path ≠ [])
    (hseparator : ¬ partSeparator <:+: path) : IsFileName (unitOfLocation path) := by
  have hbegins : unitOfLocation path <+: Text.lastSegment (fun c => c == '/' || c == '\\') path := by
    unfold unitOfLocation
    dsimp only
    rcases hsuffix : Text.dropSuffix? sourceExtension.toList _ with _ | unit
    · exact List.prefix_refl _
    · exact ⟨_, (Text.dropSuffix?_eq_some_iff.1 hsuffix).symm⟩
  have hfree := @Text.lastSegment_free (fun c => c == '/' || c == '\\') path
  refine ⟨hne, fun hmem => ?_, fun hmem => ?_, fun hwithin => hseparator ?_⟩
  · exact absurd (hfree _ (hbegins.subset hmem)) (by decide)
  · exact absurd (hfree _ (hbegins.subset hmem)) (by decide)
  · exact hwithin.trans (hbegins.isInfix.trans (Text.lastSegment_suffix path).isInfix)

/-- At the source file of a unit, a diagnostic is read as one of that unit. -/
theorem ofLine?_printAt_file {d : Diagnostic} {directory unit : String} (hdirectory : IsDirectory directory.toList)
    (hunit : IsFileName unit.toList) (hmessage : Text.trim d.message.toList ≠ []) :
    ofLine? (printAt (directory ++ unit ++ sourceExtension) d) =
      some { d with unit := unit, message := .ofList (Text.trim d.message.toList) } := by
  have hlocation : (directory ++ unit ++ sourceExtension).toList =
      directory.toList ++ (unit.toList ++ sourceExtension.toList) := by
    rw [String.toList_append, String.toList_append, List.append_assoc]
  have hnamed := unitOfLocation_append_extension hdirectory hunit
  have hseparator := hdirectory.not_separator_infix_append hunit.append_extension
  rw [← hlocation] at hnamed hseparator
  have hne : unitOfLocation (directory ++ unit ++ sourceExtension).toList ≠ [] := hnamed ▸ hunit.ne_nil
  rw [ofLine?_printAt hseparator hne hmessage, hnamed, String.ofList_toList]

/-! ### Diagnostics that can be printed -/

/-- The unit is a name in one piece, and the message neither begins nor ends with a blank. -/
structure IsPrintable (d : Diagnostic) : Prop where
  unit : IsFileName d.unit.toList
  message_ne_nil : d.message.toList ≠ []
  message : Text.Trimmed d.message.toList

/-- The diagnostic as it is printed at the source file of its unit. -/
def printIn (directory : String) (d : Diagnostic) : String := printAt (directory ++ d.unit ++ sourceExtension) d

theorem IsPrintable.ofLine?_printIn {d : Diagnostic} (h : d.IsPrintable) {directory : String}
    (hdirectory : IsDirectory directory.toList) : ofLine? (d.printIn directory) = some d := by
  have hnonblank : Text.trim d.message.toList ≠ [] := by
    rw [h.message.trim_eq]
    exact h.message_ne_nil
  rw [printIn, ofLine?_printAt_file hdirectory h.unit hnonblank, h.message.trim_eq, String.ofList_toList]

/-- Were the message of a line blank, then the line would end in its blanks, or in the one before it. -/
theorem CutInto.trim_message_ne_nil {line path number head message : List Char}
    (h : CutInto (Text.trimEnd line) path number head message) : Text.trim message ≠ [] := by
  intro hnil
  obtain ⟨before, after, hsplit, hbefore, hafter⟩ := Text.exists_blanks_trim message
  have hblank : ∀ c ∈ ' ' :: message, Text.isBlank c = true := by
    refine List.forall_mem_cons.2 ⟨by decide, ?_⟩
    rw [hsplit, hnil]
    exact List.forall_mem_append.2 ⟨hbefore, hafter⟩
  obtain ⟨front, hfront⟩ : ∃ front, Text.trimEnd line = front ++ ' ' :: message := by
    refine ⟨path ++ ':' :: number ++ (partSeparator ++ (head ++ [':'])), ?_⟩
    rw [h.whole]
    simp [partSeparator]
  have hlast := Text.trimEnd_last line
  rw [hfront, List.getLast?_append_of_ne_nil _ (List.cons_ne_nil _ _)] at hlast
  obtain ⟨c, hc⟩ := Option.ne_none_iff_exists'.1 (fun hnone => List.cons_ne_nil _ _ (List.getLast?_eq_none_iff.1 hnone))
  exact absurd (hlast c hc) (by simp [hblank c (List.mem_of_getLast? hc)])

theorem isPrintable_of_ofLine? {line : String} {d : Diagnostic} (h : ofLine? line = some d) : d.IsPrintable := by
  obtain ⟨path, number, head, message, hcut, -, -, hunit, hname, hmessage⟩ := readTrimmed?_eq_some_iff.1 h
  have hpath : ¬ partSeparator <:+: path := by
    intro hwithin
    refine hcut.location (hwithin.trans ?_)
    rw [List.append_assoc]
    exact (List.prefix_append _ _).isInfix
  have htrimmed := Text.trimmed_trim message
  have hnonblank := hcut.trim_message_ne_nil
  refine ⟨?_, ?_, ?_⟩
  · rw [hname, String.toList_ofList]
    exact isFileName_unitOfLocation hunit hpath
  · rwa [hmessage, String.toList_ofList]
  · rwa [hmessage, String.toList_ofList]

/-- A printable diagnostic is read back from its line, at the source file of its unit in whatever directory; and only
printable diagnostics are read, from whatever line. -/
theorem printed_lines_read :
    (∀ (d : Diagnostic) (directory : String), d.IsPrintable → IsDirectory directory.toList →
      ofLine? (d.printIn directory) = some d) ∧
    ∀ (line : String) (d : Diagnostic), ofLine? line = some d →
      d.IsPrintable ∧ ∀ directory : String, IsDirectory directory.toList → ofLine? (d.printIn directory) = some d :=
  ⟨fun _ _ hprintable hdirectory => hprintable.ofLine?_printIn hdirectory, fun _ _ hread =>
    ⟨isPrintable_of_ofLine? hread, fun _ hdirectory => (isPrintable_of_ofLine? hread).ofLine?_printIn hdirectory⟩⟩

/-- A unit named like a file, with a colon in its name and a separator in its message, is read back. -/
theorem printed_line_of_colons :
    let d : Diagnostic := ⟨.error, "app:Order.src", 7, "expected: a colon", some .unknownSymbol⟩
    d.printIn "c:/ws/" = "c:/ws/app:Order.src.src:7: error[unknown-symbol]: expected: a colon" ∧
      d.IsPrintable ∧ IsDirectory "c:/ws/".toList ∧ ofLine? (d.printIn "c:/ws/") = some d := by
  intro d
  have hunit : IsFileName d.unit.toList := ⟨by decide, by decide, by decide, not_separator_infix (by decide)⟩
  have hmessage : Text.Trimmed d.message.toList := by decide +kernel
  have hprintable : d.IsPrintable := ⟨hunit, by decide, hmessage⟩
  have hdirectory : IsDirectory "c:/ws/".toList := ⟨Or.inr (by decide), not_separator_infix (by decide)⟩
  exact ⟨by decide +kernel, hprintable, hdirectory, printed_lines_read.1 d "c:/ws/" hprintable hdirectory⟩

end HotSchema.Diagnostic
