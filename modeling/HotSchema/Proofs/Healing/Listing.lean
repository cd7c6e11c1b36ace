import HotSchema.Healing.Legacy
import HotSchema.Proofs.Text.Runs
/-!
# What the legacy list names

An entry of the list is kept as a method with perhaps an owner, as its last dot parts them. Here the entries are put back
into texts: a method is listed exactly if its name stands among these texts, alone, behind the name of its type, or behind
the last part of that name. What is found in a message is the first word that is listed in this sense, where a word is a
run of alphanumeric characters and low lines.
-/

namespace HotSchema

/-! ### The last part of a name -/

namespace Text

/-- What stands behind the last dot of the name, or the whole name if it has no dot. -/
structure LastPart (part name : String) : Prop where
  undotted : '.' ∉ part.toList
  ends : name = part ∨ ∃ scope, name = scope ++ "." ++ part

theorem toList_dotted (scope name : String) : (scope ++ "." ++ name).toList = scope.toList ++ '.' :: name.toList := by
  simp

theorem shortName_of_undotted {name : String} (h : '.' ∉ name.toList) : shortName name = name := by
  have hfree : ∀ c ∈ name.toList, (c == '.') = false := by
    intro c hc
    simpa using fun heq : c = '.' => h (heq ▸ hc)
  rw [shortName, lastSegment_of_free hfree, String.ofList_toList]

theorem shortName_dotted (scope name : String) : shortName (scope ++ "." ++ name) = shortName name := by
  rw [shortName, toList_dotted, lastSegment_append (by simp), shortName]

theorem lastPart_iff {part name : String} : LastPart part name ↔ part = shortName name := by
  constructor
  · rintro ⟨hundotted, rfl | ⟨scope, rfl⟩⟩
    · rw [shortName_of_undotted hundotted]
    · rw [shortName_dotted, shortName_of_undotted hundotted]
  · rintro rfl
    rcases hcut : splitLast '.' name.toList with _ | ⟨before, after⟩
    · have hundotted := splitLast_eq_none_iff.1 hcut
      rw [shortName_of_undotted hundotted]
      exact ⟨hundotted, Or.inl rfl⟩
    · obtain ⟨hname, hundotted⟩ := splitLast_eq_some_iff.1 hcut
      have hdotted : name = String.ofList before ++ "." ++ String.ofList after := by
        rw [← String.toList_inj, toList_dotted, hname]
        simp
      have hundotted : '.' ∉ (String.ofList after).toList := by simpa using hundotted
      rw [hdotted, shortName_dotted, shortName_of_undotted hundotted]
      exact ⟨hundotted, Or.inr ⟨_, rfl⟩⟩

end Text

/-! ### Entries as texts -/

namespace LegacyEntry

def text : LegacyEntry → String
  | ⟨none, method⟩ => method
  | ⟨some owner, method⟩ => owner ++ "." ++ method

theorem undotted_ofText (entry : String) : '.' ∉ (ofText entry).method.toList := by
  unfold ofText
  split
  · next hcut => simpa using (Text.splitLast_eq_some_iff.1 hcut).2
  · next hcut => exact Text.splitLast_eq_none_iff.1 hcut

theorem text_ofText (entry : String) : (ofText entry).text = entry := by
  unfold ofText
  split
  · next hcut =>
    rw [text, ← String.toList_inj, Text.toList_dotted, (Text.splitLast_eq_some_iff.1 hcut).1]
    simp
  · rfl

/-- An entry whose method has no dot is read back from its text. -/
theorem ofText_text {entry : LegacyEntry} (h : '.' ∉ entry.method.toList) : ofText entry.text = entry := by
  obtain ⟨_ | owner, method⟩ := entry
  · rw [text, ofText, Text.splitLast_eq_none_iff.2 h]
  · rw [text, ofText, Text.toList_dotted, Text.splitLast_append h]
    simp

end LegacyEntry

namespace LegacySignatures

/-- The method of the owner stands among the entries: alone, or behind the whole name or the last part of the name of its
owner. -/
inductive Listed (entries : List String) (owner method : String) : Prop where
  | alone (hentry : method ∈ entries)
  | qualified (hentry : owner ++ "." ++ method ∈ entries)
  | short {part : String} (hpart : Text.LastPart part owner) (hentry : part ++ "." ++ method ∈ entries)

variable {entries : List String} {owner method : String}

theorem mem_ofTexts_iff {entry : LegacyEntry} :
    entry ∈ ofTexts entries ↔ '.' ∉ entry.method.toList ∧ entry.text ∈ entries := by
  rw [ofTexts, List.mem_map]
  constructor
  · rintro ⟨text, htext, rfl⟩
    rw [LegacyEntry.text_ofText]
    exact ⟨LegacyEntry.undotted_ofText text, htext⟩
  · rintro ⟨hundotted, htext⟩
    exact ⟨entry.text, htext, LegacyEntry.ofText_text hundotted⟩

/-- Three entries stand for a method of an owner. -/
theorem lists_iff_mem {l : LegacySignatures} : l.lists owner method = true ↔
    ⟨none, method⟩ ∈ l ∨ ⟨some owner, method⟩ ∈ l ∨ ⟨some (Text.shortName owner), method⟩ ∈ l := by
  rw [lists, List.any_eq_true]
  constructor
  · rintro ⟨⟨_ | type, name⟩, hmem, h⟩
    · have hname : name = method := by simpa using h
      exact Or.inl (hname ▸ hmem)
    · have hboth : name = method ∧ (type = owner ∨ type = Text.shortName owner) := by simpa using h
      obtain ⟨rfl, rfl | rfl⟩ := hboth
      · exact Or.inr (Or.inl hmem)
      · exact Or.inr (Or.inr hmem)
  · rintro (hmem | hmem | hmem)
    · exact ⟨_, hmem, by simp⟩
    · exact ⟨_, hmem, by simp⟩
    · exact ⟨_, hmem, by simp⟩

theorem lists_iff_listed :
    (ofTexts entries).lists owner method = true ↔ '.' ∉ method.toList ∧ Listed entries owner method := by
  simp only [lists_iff_mem, mem_ofTexts_iff, LegacyEntry.text]
  constructor
  · rintro (⟨hundotted, hentry⟩ | ⟨hundotted, hentry⟩ | ⟨hundotted, hentry⟩)
    · exact ⟨hundotted, .alone hentry⟩
    · exact ⟨hundotted, .qualified hentry⟩
    · exact ⟨hundotted, .short (Text.lastPart_iff.2 rfl) hentry⟩
  · rintro ⟨hundotted, hentry | hentry | ⟨hpart, hentry⟩⟩
    · exact Or.inl ⟨hundotted, hentry⟩
    · exact Or.inr (Or.inl ⟨hundotted, hentry⟩)
    · exact Or.inr (Or.inr ⟨hundotted, Text.lastPart_iff.1 hpart ▸ hentry⟩)

/-! ### Words of a message -/

/-- The characters that a word of a message is made of. -/
def isNameCharacter (c : Char) : Bool := Text.isAlphanumeric c || c == '_'

theorem findIn_eq_map (l : LegacySignatures) (owner message : String) : l.findIn owner message =
    ((Text.segments (fun c => !isNameCharacter c) message.toList).find? fun word =>
      !(String.ofList word).isEmpty && l.lists owner (String.ofList word)).map String.ofList := by
  rw [findIn, List.find?_map]
  rfl

/-- The dot separates words, so whether one is listed hangs on the entries alone. -/
theorem passes_iff {word : List Char} (hword : ∀ c ∈ word, isNameCharacter c = true) :
    (!(String.ofList word).isEmpty && (ofTexts entries).lists owner (String.ofList word)) = true ↔
      word ≠ [] ∧ Listed entries owner (String.ofList word) := by
  have hundotted : '.' ∉ (String.ofList word).toList := by
    rw [String.toList_ofList]
    intro hdot
    exact absurd (hword _ hdot) (by decide)
  have hempty : (String.ofList word).isEmpty = false ↔ word ≠ [] := by simp
  rw [Bool.and_eq_true, Bool.not_eq_true', hempty, lists_iff_listed]
  exact and_congr_right fun _ => and_iff_right hundotted

/-- Whatever the texts of the list are, a method of an owner is on it exactly if it has no dot and stands among them, alone
or behind the whole name or the last part of the name of the owner. In a message the first run of name characters for which
this holds is found, and nothing exactly if there is none. -/
theorem entries_name_methods (entries : List String) (owner : String) :
    (∀ method, (ofTexts entries).lists owner method = true ↔ '.' ∉ method.toList ∧ Listed entries owner method) ∧
    ∀ message : String,
      (∀ word, (ofTexts entries).findIn owner message = some word ↔ ∃ before after,
        Text.FirstRun isNameCharacter (fun run => Listed entries owner (String.ofList run)) message.toList before
          word.toList after) ∧
      ((ofTexts entries).findIn owner message = none ↔ ∀ before run after,
        Text.MaximalRun isNameCharacter message.toList before run after →
          ¬ Listed entries owner (String.ofList run)) := by
  refine ⟨fun method => lists_iff_listed, fun message => ⟨fun word => ?_, ?_⟩⟩
  · rw [← Text.find?_segments_eq_some_iff fun word => passes_iff, findIn_eq_map, Option.map_eq_some_iff]
    constructor
    · rintro ⟨run, hrun, rfl⟩
      rwa [String.toList_ofList]
    · intro hrun
      exact ⟨word.toList, hrun, String.ofList_toList⟩
  · rw [← Text.find?_segments_eq_none_iff fun word => passes_iff, findIn_eq_map, Option.map_eq_none_iff]

/-- The longer word before it and the method of another type are passed over. -/
example : (ofTexts ["Invoice.recalculate", "Order.total"]).findIn "dynamic.Invoice"
    "recalculated by total: `recalculate` was removed" = some "recalculate" := by decide

end LegacySignatures

end HotSchema
