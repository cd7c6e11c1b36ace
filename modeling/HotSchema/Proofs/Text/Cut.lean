import HotSchema.Text.Split
import Mathlib.Data.List.Infix
/-!
# Where a text is cut

What a cut gives back says where it was made: the text put together again, and a part in which the separator does not
stand. A separator of several characters might also begin in the part before it and end in itself, so it is the part
together with all but the last character of the separator that must be free of it.
-/

namespace HotSchema.Text

/-! ### Separators -/

section

variable {separator before after s : List Char}

/-- Behind something else, a separator ends within the next one. -/
theorem separator_prefix_iff (hbefore : before ≠ []) :
    separator <+: before ++ (separator ++ after) ↔ separator <+: before ++ separator.dropLast := by
  have hcut : before ++ separator.dropLast <+: before ++ (separator ++ after) :=
    (List.prefix_append_right_inj _).2 ((List.dropLast_prefix _).trans (List.prefix_append _ _))
  constructor
  · intro h
    refine List.prefix_of_prefix_length_le h hcut ?_
    have hpositive := List.length_pos_of_ne_nil hbefore
    rw [List.length_append, List.length_dropLast]
    omega
  · intro h
    exact h.trans hcut

theorem cut_of_splitFirst (hseparator : separator ≠ []) (h : splitFirst separator s = some (before, after)) :
    s = before ++ (separator ++ after) ∧ ¬ separator <:+: before ++ separator.dropLast := by
  induction s generalizing before with
  | nil => cases h
  | cons c s ih =>
    rw [splitFirst] at h
    split at h
    · next hstands =>
      cases h
      obtain ⟨rest, hrest⟩ := List.isPrefixOf_iff_prefix.1 hstands
      rw [← hrest, List.drop_left]
      refine ⟨rfl, fun hwithin => Nat.not_le_of_lt ?_ hwithin.length_le⟩
      rw [List.nil_append, List.length_dropLast]
      exact Nat.sub_lt (List.length_pos_of_ne_nil hseparator) Nat.one_pos
    · next hmissing =>
      obtain ⟨⟨before', after'⟩, hcut, h⟩ := Option.map_eq_some_iff.1 h
      cases h
      obtain ⟨rfl, hfree⟩ := ih hcut
      refine ⟨rfl, fun hwithin => ?_⟩
      rcases List.infix_cons_iff.1 hwithin with hbegins | hwithin
      · rw [List.isPrefixOf_iff_prefix] at hmissing
        exact hmissing ((separator_prefix_iff (List.cons_ne_nil c before')).2 hbegins)
      · exact hfree hwithin

theorem splitFirst_append (hseparator : separator ≠ []) (h : ¬ separator <:+: before ++ separator.dropLast) :
    splitFirst separator (before ++ (separator ++ after)) = some (before, after) := by
  induction before with
  | nil =>
    obtain ⟨c, rest, rfl⟩ := List.exists_cons_of_ne_nil hseparator
    have hstands : (c :: rest).isPrefixOf (c :: (rest ++ after)) = true :=
      List.isPrefixOf_iff_prefix.2 (List.prefix_append (c :: rest) after)
    rw [List.nil_append, List.cons_append, splitFirst, if_pos hstands, ← List.cons_append, List.drop_left]
  | cons d before ih =>
    have hmissing : ¬ separator.isPrefixOf (d :: (before ++ (separator ++ after))) = true := by
      rw [List.isPrefixOf_iff_prefix]
      exact fun hbegins => h ((separator_prefix_iff (List.cons_ne_nil d before)).1 hbegins).isInfix
    have hfree : ¬ separator <:+: before ++ separator.dropLast :=
      fun hwithin => h (hwithin.trans (List.suffix_cons d _).isInfix)
    rw [List.cons_append, splitFirst, if_neg hmissing, ih hfree, Option.map_some]

theorem splitFirst_eq_some_iff (hseparator : separator ≠ []) : splitFirst separator s = some (before, after) ↔
    s = before ++ (separator ++ after) ∧ ¬ separator <:+: before ++ separator.dropLast := by
  constructor
  · exact cut_of_splitFirst hseparator
  · rintro ⟨rfl, h⟩
    exact splitFirst_append hseparator h

end

section

variable {separator : Char} {before after s : List Char}

theorem cut_of_splitLast (h : splitLast separator s = some (before, after)) :
    s = before ++ separator :: after ∧ separator ∉ after := by
  induction s generalizing before after with
  | nil => cases h
  | cons c s ih =>
    rw [splitLast] at h
    split at h
    · next before' after' hcut =>
      cases h
      obtain ⟨rfl, hfree⟩ := ih hcut
      exact ⟨rfl, hfree⟩
    · next hnone =>
      split at h
      · next hc =>
        cases h
        exact ⟨congrArg (· :: s) hc, splitLast_eq_none_iff.1 hnone⟩
      · cases h

theorem splitLast_append (h : separator ∉ after) :
    splitLast separator (before ++ separator :: after) = some (before, after) := by
  induction before with
  | nil =>
    rw [List.nil_append, splitLast, splitLast_eq_none_iff.2 h]
    exact if_pos rfl
  | cons c before ih => rw [List.cons_append, splitLast, ih]

theorem splitLast_eq_some_iff :
    splitLast separator s = some (before, after) ↔ s = before ++ separator :: after ∧ separator ∉ after := by
  constructor
  · exact cut_of_splitLast
  · rintro ⟨rfl, h⟩
    exact splitLast_append h

end

/-! ### Segments -/

section

variable {isSeparator : Char → Bool}

variable {s word rest part : List Char} {c : Char}

theorem segments_eq_splitOnP (s : List Char) : segments isSeparator s = s.splitOnP isSeparator := by
  induction s with
  | nil => rw [segments_nil, List.splitOnP_nil]
  | cons c s ih =>
    rw [segments, List.splitOnP_cons_eq_if_modifyHead, ← ih]
    split
    · rfl
    · obtain ⟨word, more, hsegments⟩ := List.exists_cons_of_ne_nil (segments_ne_nil isSeparator s)
      rw [hsegments, List.modifyHead_cons]

/-- A text without a separator is one segment. -/
theorem segments_of_free (h : ∀ c ∈ s, isSeparator c = false) : segments isSeparator s = [s] := by
  rw [segments_eq_splitOnP]
  exact List.splitOnP_eq_singleton h

theorem segments_append_cons (hc : isSeparator c = true) (before after : List Char) :
    segments isSeparator (before ++ c :: after) = segments isSeparator before ++ segments isSeparator after := by
  simp only [segments_eq_splitOnP]
  exact List.splitOnP_append_cons before after hc

theorem segments_cut (hword : ∀ d ∈ word, isSeparator d = false) (hc : isSeparator c = true) :
    segments isSeparator (word ++ c :: rest) = word :: segments isSeparator rest := by
  rw [segments_append_cons hc, segments_of_free hword, List.singleton_append]

/-- A text is free of separators, or a text free of them stands before its first one. -/
theorem induction_on_cuts (isSeparator : Char → Bool) {motive : List Char → Prop} (s : List Char)
    (whole : ∀ word, (∀ c ∈ word, isSeparator c = false) → motive word)
    (cut : ∀ word c rest, (∀ d ∈ word, isSeparator d = false) → isSeparator c = true → motive rest →
      motive (word ++ c :: rest)) : motive s := by
  -- What has been read stands before the first separator, as long as there was none in it.
  have hfrom (read : List Char) (hread : ∀ c ∈ read, isSeparator c = false) : motive (read ++ s) := by
    induction s generalizing read with
    | nil =>
      rw [List.append_nil]
      exact whole read hread
    | cons c s ih =>
      by_cases hc : isSeparator c = true
      · exact cut read c s hread hc (ih [] (List.forall_mem_nil _))
      · have hfree : ∀ d ∈ read ++ [c], isSeparator d = false :=
          List.forall_mem_append.2 ⟨hread, List.forall_mem_singleton.2 (by simpa using hc)⟩
        have hnext := ih (read ++ [c]) hfree
        rwa [List.append_assoc] at hnext
  exact hfrom [] (List.forall_mem_nil _)

theorem not_of_mem_segments (h : part ∈ segments isSeparator s) : ∀ c ∈ part, isSeparator c = false := by
  induction s using induction_on_cuts isSeparator with
  | whole word hword =>
    rw [segments_of_free hword] at h
    cases List.mem_singleton.1 h
    exact hword
  | cut word c rest hword hc ih =>
    rw [segments_cut hword hc] at h
    rcases List.mem_cons.1 h with rfl | h
    · exact hword
    · exact ih h

/-- Every character is a separator or stands in a segment. -/
theorem exists_mem_segments (hc : c ∈ s) (hne : isSeparator c = false) :
    ∃ part ∈ segments isSeparator s, c ∈ part := by
  induction s using induction_on_cuts isSeparator with
  | whole word hword =>
    rw [segments_of_free hword]
    exact ⟨word, List.mem_cons_self, hc⟩
  | cut word d rest hword hd ih =>
    rw [segments_cut hword hd]
    rcases List.mem_append.1 hc with hc | hc
    · exact ⟨word, List.mem_cons_self, hc⟩
    · rcases List.mem_cons.1 hc with rfl | hc
      · rw [hd] at hne
        cases hne
      · obtain ⟨part, hpart, hmem⟩ := ih hc
        exact ⟨part, List.mem_cons_of_mem _ hpart, hmem⟩

theorem lastSegment_of_free (h : ∀ c ∈ s, isSeparator c = false) : lastSegment isSeparator s = s := by
  rw [lastSegment, segments_of_free h]
  rfl

theorem getLast?_segments (s : List Char) : (segments isSeparator s).getLast? = some (lastSegment isSeparator s) := by
  rw [lastSegment]
  rcases hlast : (segments isSeparator s).getLast? with _ | part
  · exact absurd (List.getLast?_eq_none_iff.1 hlast) (segments_ne_nil _ s)
  · rfl

theorem lastSegment_free (s : List Char) : ∀ c ∈ lastSegment isSeparator s, isSeparator c = false :=
  not_of_mem_segments (List.mem_of_getLast? (getLast?_segments s))

/-- What stands before a separator does not count for the last segment. -/
theorem lastSegment_append (hc : isSeparator c = true) (before after : List Char) :
    lastSegment isSeparator (before ++ c :: after) = lastSegment isSeparator after := by
  have hlast : (segments isSeparator (before ++ c :: after)).getLast? = _ := getLast?_segments _
  rw [segments_append_cons hc, List.getLast?_append, getLast?_segments, Option.some_or] at hlast
  exact (Option.some.inj hlast).symm

theorem lastSegment_suffix (s : List Char) : lastSegment isSeparator s <:+ s := by
  induction s using induction_on_cuts isSeparator with
  | whole word hword => rw [lastSegment_of_free hword]
  | cut word c rest hword hc ih =>
    rw [lastSegment_append hc]
    exact (ih.trans (List.suffix_cons c rest)).trans (List.suffix_append word _)

end

theorem dropSuffix?_eq_some_iff {ending s before : List Char} :
    dropSuffix? ending s = some before ↔ s = before ++ ending := by
  unfold dropSuffix?
  split
  · next h =>
    obtain ⟨front, rfl⟩ := List.isSuffixOf_iff_suffix.1 h
    rw [List.length_append, Nat.add_sub_cancel, List.take_left]
    exact ⟨fun h => by cases h; rfl, fun h => by rw [List.append_cancel_right h]⟩
  · next h =>
    refine iff_of_false (fun h => by cases h) ?_
    rintro rfl
    exact h (List.isSuffixOf_iff_suffix.2 (List.suffix_append _ _))

theorem dropSuffix?_eq_none_iff {ending s : List Char} : dropSuffix? ending s = none ↔ ¬ ending <:+ s := by
  unfold dropSuffix?
  split
  · next h => exact iff_of_false (fun h => by cases h) (not_not.2 (List.isSuffixOf_iff_suffix.1 h))
  · next h => exact iff_of_true rfl fun hsuffix => h (List.isSuffixOf_iff_suffix.2 hsuffix)

/-! ### Blanks at the ends -/

/-- Neither the first nor the last character is a blank. -/
structure Trimmed (s : List Char) : Prop where
  head : ∀ c ∈ s.head?, isBlank c = false
  last : ∀ c ∈ s.getLast?, isBlank c = false

theorem not_isBlank_head_dropWhile (s : List Char) : ∀ c ∈ (s.dropWhile isBlank).head?, isBlank c = false := by
  intro c hc
  have hfirst := List.head?_dropWhile_not isBlank s
  rw [Option.mem_def] at hc
  rw [hc] at hfirst
  simpa using hfirst

theorem trimEnd_last (s : List Char) : ∀ c ∈ (trimEnd s).getLast?, isBlank c = false := by
  rw [trimEnd, List.getLast?_reverse]
  exact not_isBlank_head_dropWhile _

theorem dropWhile_of_head {s : List Char} (h : ∀ c ∈ s.head?, isBlank c = false) : s.dropWhile isBlank = s := by
  rcases s with _ | ⟨c, s⟩
  · rfl
  · exact List.dropWhile_cons_of_neg (by simp [h c rfl])

theorem trimEnd_of_last {s : List Char} (h : ∀ c ∈ s.getLast?, isBlank c = false) : trimEnd s = s := by
  rw [trimEnd, dropWhile_of_head (by rwa [List.head?_reverse]), List.reverse_reverse]

theorem trimEnd_prefix (s : List Char) : trimEnd s <+: s := by
  have hsuffix := List.dropWhile_suffix isBlank (l := s.reverse)
  rw [trimEnd, ← List.reverse_suffix, List.reverse_reverse]
  exact hsuffix

/-- Trimming takes off nothing but blanks. -/
theorem exists_blanks_trim (s : List Char) :
    ∃ before after, s = before ++ (trim s ++ after) ∧ (∀ c ∈ before, isBlank c = true) ∧
      ∀ c ∈ after, isBlank c = true := by
  have hstart : s = s.takeWhile isBlank ++ trimStart s := List.takeWhile_append_dropWhile.symm
  have hend : trimStart s = trim s ++ ((trimStart s).reverse.takeWhile isBlank).reverse := by
    rw [trim, trimEnd, ← List.reverse_append, List.takeWhile_append_dropWhile, List.reverse_reverse]
  refine ⟨s.takeWhile isBlank, _, hend ▸ hstart, fun c hc => ?_, fun c hc => ?_⟩
  · exact List.all_eq_true.1 List.all_takeWhile c hc
  · exact List.all_eq_true.1 List.all_takeWhile c (List.mem_reverse.1 hc)

theorem trimmed_trim (s : List Char) : Trimmed (trim s) := by
  refine ⟨fun c hc => ?_, trimEnd_last _⟩
  obtain ⟨rest, hrest⟩ := trimEnd_prefix (trimStart s)
  refine not_isBlank_head_dropWhile s c ?_
  change c ∈ (trimStart s).head?
  rw [← hrest, List.head?_append]
  change c ∈ (trim s).head?.or _
  rw [Option.mem_def.1 hc]
  rfl

theorem Trimmed.trim_eq {s : List Char} (h : Trimmed s) : trim s = s := by
  rw [trim, trimStart, dropWhile_of_head h.head, trimEnd_of_last h.last]

theorem trimmed_iff {s : List Char} : Trimmed s ↔ trim s = s :=
  ⟨Trimmed.trim_eq, fun h => h ▸ trimmed_trim s⟩

instance (s : List Char) : Decidable (Trimmed s) := decidable_of_iff _ trimmed_iff.symm

/-- A text without blanks has none to trim. -/
theorem trimmed_of_free {s : List Char} (h : ∀ c ∈ s, isBlank c = false) : Trimmed s :=
  ⟨fun c hc => h c (List.mem_of_head? hc), fun c hc => h c (List.mem_of_getLast? hc)⟩

theorem trimEnd_append_blanks {s after : List Char} (h : ∀ c ∈ after, isBlank c = true) :
    trimEnd (s ++ after) = trimEnd s := by
  rw [trimEnd, List.reverse_append, List.dropWhile_append_of_pos fun c hc => h c (List.mem_reverse.1 hc), trimEnd]

/-- Blanks behind the last character of a text are trimmed, and nothing else is. -/
theorem trimEnd_append {s t after : List Char} (ht : t ≠ []) (hlast : ∀ c ∈ t.getLast?, isBlank c = false)
    (hafter : ∀ c ∈ after, isBlank c = true) : trimEnd (s ++ (t ++ after)) = s ++ t := by
  rw [← List.append_assoc, trimEnd_append_blanks hafter]
  refine trimEnd_of_last ?_
  rwa [List.getLast?_append_of_ne_nil _ ht]

theorem Trimmed.trim_append {before t after : List Char} (h : Trimmed t) (ht : t ≠ [])
    (hbefore : ∀ c ∈ before, isBlank c = true) (hafter : ∀ c ∈ after, isBlank c = true) :
    trim (before ++ (t ++ after)) = t := by
  have hstart : trimStart (before ++ (t ++ after)) = t ++ after := by
    rw [trimStart, List.dropWhile_append_of_pos hbefore]
    refine dropWhile_of_head ?_
    obtain ⟨c, rest, rfl⟩ := List.exists_cons_of_ne_nil ht
    exact h.head
  have hend := trimEnd_append (s := []) ht h.last hafter
  rwa [trim, hstart]

/-- A text that is trimmed at its end only begins with the same blanks. -/
theorem exists_blanks_trimEnd {s : List Char} (h : trim s ≠ []) :
    ∃ before after, s = before ++ (trim s ++ after) ∧ trimEnd s = before ++ trim s ∧
      (∀ c ∈ before, isBlank c = true) ∧ ∀ c ∈ after, isBlank c = true := by
  obtain ⟨before, after, hs, hbefore, hafter⟩ := exists_blanks_trim s
  have hend := trimEnd_append (s := before) h (trimmed_trim s).last hafter
  rw [← hs] at hend
  exact ⟨before, after, hs, hend, hbefore, hafter⟩

theorem trim_trimEnd {s : List Char} (h : trim s ≠ []) : trim (trimEnd s) = trim s := by
  obtain ⟨before, -, -, hend, hbefore, -⟩ := exists_blanks_trimEnd h
  have htrim := (trimmed_trim s).trim_append h hbefore (List.forall_mem_nil _)
  rwa [List.append_nil, ← hend] at htrim

theorem trimEnd_append_of_trim_ne_nil {s t : List Char} (h : trim t ≠ []) : trimEnd (s ++ t) = s ++ trimEnd t := by
  obtain ⟨before, after, ht, hend, -, hafter⟩ := exists_blanks_trimEnd h
  have hwhole := trimEnd_append (s := s ++ before) h (trimmed_trim t).last hafter
  rwa [List.append_assoc, ← ht, List.append_assoc, ← hend] at hwhole

end HotSchema.Text
