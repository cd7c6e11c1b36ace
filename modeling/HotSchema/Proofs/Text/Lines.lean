import HotSchema.Text.Split
/-!
# Lines that are put together again

Lines hold no line feed. Written one below the other, each ended by a line feed, they are read back as they
were, but for a carriage return at the end of a line, which now counts as part of the line end. So texts can be
cut into lines and put together again without a change in the number of lines.
-/

namespace HotSchema.Text

/-- A line without the carriage return at its end, if it has one there. -/
def withoutReturn (line : List Char) : List Char := if line.getLast? = some '\r' then line.dropLast else line

theorem finishLine_eq (reversed : List Char) : finishLine reversed = withoutReturn reversed.reverse := by
  unfold finishLine withoutReturn
  split
  · simp
  · next hnone =>
    rw [if_neg]
    rw [List.getLast?_reverse]
    intro hhead
    obtain ⟨rest, rfl⟩ := List.head?_eq_some_iff.1 hhead
    exact hnone rest rfl

theorem mem_of_mem_withoutReturn {line : List Char} {c : Char} (h : c ∈ withoutReturn line) : c ∈ line := by
  unfold withoutReturn at h
  split at h
  · exact List.dropLast_subset _ h
  · exact h

theorem newline_not_mem_linesFrom {reversed s line : List Char} (hreversed : '\n' ∉ reversed)
    (h : line ∈ linesFrom reversed s) : '\n' ∉ line := by
  induction s generalizing reversed with
  | nil =>
    unfold linesFrom at h
    split at h
    · cases h
    · rw [List.mem_singleton.1 h, List.mem_reverse]
      exact hreversed
  | cons c s ih =>
    unfold linesFrom at h
    split at h
    · rcases List.mem_cons.1 h with rfl | hrest
      · rw [finishLine_eq]
        exact fun hmem => hreversed (List.mem_reverse.1 (mem_of_mem_withoutReturn hmem))
      · exact ih List.not_mem_nil hrest
    · next hc => exact ih (List.not_mem_cons_of_ne_of_not_mem (Ne.symm hc) hreversed) h

theorem newline_not_mem_lines {s line : List Char} (h : line ∈ lines s) : '\n' ∉ line :=
  newline_not_mem_linesFrom List.not_mem_nil h

theorem linesFrom_append_newline {line : List Char} (h : '\n' ∉ line) (reversed rest : List Char) :
    linesFrom reversed (line ++ '\n' :: rest) = finishLine (line.reverse ++ reversed) :: linesFrom [] rest := by
  induction line generalizing reversed with
  | nil => rfl
  | cons c line ih =>
    rw [List.mem_cons, not_or] at h
    rw [List.cons_append, linesFrom, if_neg (Ne.symm h.1), ih h.2]
    simp

/-- Lines that are each ended by a line feed are read back, without the carriage returns at their ends. -/
theorem lines_flatMap_newline {ls : List (List Char)} (h : ∀ line ∈ ls, '\n' ∉ line) :
    lines (ls.flatMap (· ++ ['\n'])) = ls.map withoutReturn := by
  induction ls with
  | nil => rfl
  | cons line ls ih =>
    obtain ⟨hline, hrest⟩ := List.forall_mem_cons.1 h
    rw [List.flatMap_cons, List.append_assoc, List.singleton_append, lines, linesFrom_append_newline hline,
      finishLine_eq, List.append_nil, List.reverse_reverse, ← lines, ih hrest, List.map_cons]

end HotSchema.Text
