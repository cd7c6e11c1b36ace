import HotSchema.Proofs.Diagnostic.Printed
import HotSchema.Toolchain.Process
/-!
# Two ways to name the unit of a diagnostic

Compilers name the unit that a diagnostic is about by its name alone or by the path of its source file. Either way the
source extension is taken off what they name, once if it is there. A path has it, and leaves the name of the unit. A name
that ends in the extension itself loses it, and then the diagnostic goes to a unit that it is not about.
-/

namespace HotSchema

namespace Diagnostic

theorem isFileName_of_isFileSafe {unit : String} (h : isFileSafe unit = true) : IsFileName unit.toList := by
  have hparts : ∀ part ∈ Text.segments (· == '.') unit.toList, part ≠ [] ∧ ∀ c ∈ part, isFileOctet c = true := by
    simpa [isFileSafe] using h
  have hsafe : ∀ c ∈ unit.toList, c = '.' ∨ isFileOctet c = true := by
    intro c hc
    by_cases hdot : c = '.'
    · exact Or.inl hdot
    · obtain ⟨part, hpart, hmem⟩ := @Text.exists_mem_segments (· == '.') _ _ hc (by simpa using hdot)
      exact Or.inr ((hparts part hpart).2 c hmem)
  refine ⟨fun hnil => ?_, fun hmem => ?_, fun hmem => ?_, not_separator_infix fun hmem => ?_⟩
  · rw [hnil] at hparts
    exact (hparts [] List.mem_cons_self).1 rfl
  · exact absurd (hsafe _ hmem) (by decide)
  · exact absurd (hsafe _ hmem) (by decide)
  · exact absurd (hsafe _ hmem) (by decide)

/-- The unit that a location names when it is a unit's bare name. -/
def unitOfName (unit : String) : String :=
  .ofList ((Text.dropSuffix? sourceExtension.toList unit.toList).getD unit.toList)

theorem unitOfName_eq_iff {unit : String} : unitOfName unit = unit ↔ ¬ sourceExtension.toList <:+ unit.toList := by
  rw [← Text.dropSuffix?_eq_none_iff, unitOfName]
  rcases hdrop : Text.dropSuffix? sourceExtension.toList unit.toList with _ | front
  · simp
  · refine iff_of_false (fun heq => ?_) (by simp)
    -- The name has lost the extension, so it is shorter.
    have hlength := congrArg List.length (Text.dropSuffix?_eq_some_iff.1 hdrop)
    rw [Option.getD_some] at heq
    rw [← heq, String.toList_ofList, List.length_append] at hlength
    have hextension : sourceExtension.toList.length = 4 := by decide
    omega

theorem ofLine?_printAt_name {d : Diagnostic} {unit : String} (hunit : isFileSafe unit = true)
    (hmessage : Text.trim d.message.toList ≠ []) :
    ofLine? (printAt unit d) =
      some { d with unit := unitOfName unit, message := .ofList (Text.trim d.message.toList) } := by
  have hname := isFileName_of_isFileSafe hunit
  have hnothing : IsDirectory [] := ⟨Or.inl rfl, not_separator_infix List.not_mem_nil⟩
  have hnamed := unitOfLocation_append hnothing hname
  rw [List.nil_append] at hnamed
  have hne : unitOfLocation unit.toList ≠ [] := by
    rw [hnamed]
    rcases hdrop : Text.dropSuffix? sourceExtension.toList unit.toList with _ | front
    · exact hname.ne_nil
    · -- Nothing would be left only of the extension itself, and that is no name of a file.
      rintro rfl
      have hextension : unit = sourceExtension := String.toList_inj.1 (Text.dropSuffix?_eq_some_iff.1 hdrop)
      exact absurd (hextension ▸ hunit) (by decide)
  rw [ofLine?_printAt hname.separator hne hmessage, hnamed, unitOfName]

/-- Of a unit whose name may be that of a file, a diagnostic printed at the source file is read as one of that unit. One
printed at the unit's name is read as one of the unit of that name less the source extension, so that the two are the
same exactly if the name does not end in the extension. -/
theorem locations_agree_iff {unit directory message : String} (hunit : isFileSafe unit = true)
    (hdirectory : IsDirectory directory.toList) (hmessage : Text.trim message.toList ≠ []) (severity : Severity)
    (line : UInt32) (failure : Option FailureClass) :
    ofLine? (printAt (directory ++ unit ++ sourceExtension) ⟨severity, unit, line, message, failure⟩) =
        some ⟨severity, unit, line, .ofList (Text.trim message.toList), failure⟩ ∧
      ofLine? (printAt unit ⟨severity, unit, line, message, failure⟩) =
        some ⟨severity, unitOfName unit, line, .ofList (Text.trim message.toList), failure⟩ ∧
      (ofLine? (printAt unit ⟨severity, unit, line, message, failure⟩) =
          ofLine? (printAt (directory ++ unit ++ sourceExtension) ⟨severity, unit, line, message, failure⟩) ↔
        ¬ sourceExtension.toList <:+ unit.toList) := by
  have hpath := ofLine?_printAt_file (d := ⟨severity, unit, line, message, failure⟩) hdirectory
    (isFileName_of_isFileSafe hunit) hmessage
  have hbare := ofLine?_printAt_name (d := ⟨severity, unit, line, message, failure⟩) hunit hmessage
  refine ⟨hpath, hbare, ?_⟩
  rw [hpath, hbare, ← unitOfName_eq_iff]
  constructor
  · intro h
    exact congrArg Diagnostic.unit (Option.some.inj h)
  · intro h
    rw [h]

theorem locations_of_plain_name :
    isFileSafe "app.Order$Line" = true ∧ IsDirectory "/tmp/.tmpWorkspace/src/".toList ∧
      Text.trim " not found: total ".toList ≠ [] ∧
      ofLine? (printAt "app.Order$Line" ⟨.error, "app.Order$Line", 3, " not found: total ", none⟩) =
        ofLine? (printAt ("/tmp/.tmpWorkspace/src/" ++ "app.Order$Line" ++ sourceExtension)
          ⟨.error, "app.Order$Line", 3, " not found: total ", none⟩) := by
  have hunit : isFileSafe "app.Order$Line" = true := by decide
  have hdirectory : IsDirectory "/tmp/.tmpWorkspace/src/".toList :=
    ⟨Or.inr (by decide), not_separator_infix (by decide)⟩
  have hmessage : Text.trim " not found: total ".toList ≠ [] := by decide
  exact ⟨hunit, hdirectory, hmessage,
    (locations_agree_iff hunit hdirectory hmessage .error 3 none).2.2.2 (by decide)⟩

/-- A diagnostic printed at the name of a unit that is named like a file goes to another unit. -/
theorem named_as_file_misread :
    isFileSafe "app.src" = true ∧ IsDirectory "/tmp/.tmpWorkspace/src/".toList ∧
      ofLine? (printAt "app.src" (.error "app.src" 3 "cannot find symbol x")) =
        some (.error "app" 3 "cannot find symbol x") ∧
      ofLine? (printAt ("/tmp/.tmpWorkspace/src/" ++ "app.src" ++ sourceExtension)
        (.error "app.src" 3 "cannot find symbol x")) = some (.error "app.src" 3 "cannot find symbol x") :=
  ⟨by decide, ⟨Or.inr (by decide), not_separator_infix (by decide)⟩, by decide +kernel, by decide +kernel⟩

end Diagnostic

end HotSchema
