import HotSchema.Proofs.Healing.Log
import Mathlib.Data.Prod.Lex
import Mathlib.Data.String.Basic
/-!
# The order of the reports

A compiler may report errors in any order, and each repair changes the schema that the next one finds. But a pass
visits the tokens by unit and line, and it sorts them stably: what is reported for one line stays in the order in
which it was reported. So two lists of tokens are sorted to the same exactly if they hold the same tokens for each
line in the same order, and then healing does the same for both.
-/

namespace HotSchema

/-! ### Stable sorting -/

section

variable {α β : Type} [LinearOrder β] {key : α → β} {l l' : List α}

theorem mem_of_filter_eq {a : α} (h : l.filter (key · = key a) = l'.filter (key · = key a)) (ha : a ∈ l) : a ∈ l' := by
  have hfiltered : a ∈ l.filter (key · = key a) := List.mem_filter.2 ⟨ha, decide_eq_true rfl⟩
  rw [h] at hfiltered
  exact List.mem_of_mem_filter hfiltered

theorem key_le_of_mem {a b : α} (hl : (a :: l).Pairwise fun a b => key a ≤ key b) (hb : b ∈ a :: l) :
    key a ≤ key b := by
  rcases List.mem_cons.1 hb with rfl | hb
  · exact le_refl _
  · exact (List.pairwise_cons.1 hl).1 b hb

/-- A sorted list is known from what it holds under each key. -/
theorem eq_of_filter_eq (hl : l.Pairwise fun a b => key a ≤ key b) (hl' : l'.Pairwise fun a b => key a ≤ key b)
    (h : ∀ c, l.filter (key · = key c) = l'.filter (key · = key c)) : l = l' := by
  induction l generalizing l' with
  | nil =>
    cases l' with
    | nil => rfl
    | cons b rest' => cases mem_of_filter_eq (h b).symm List.mem_cons_self
  | cons a rest ih =>
    cases l' with
    | nil => cases mem_of_filter_eq (h a) List.mem_cons_self
    | cons b rest' =>
      -- Each list holds what the other begins with, so neither begins with more.
      have hleast : key a ≤ key b := key_le_of_mem hl (mem_of_filter_eq (h b).symm List.mem_cons_self)
      have hleast' : key b ≤ key a := key_le_of_mem hl' (mem_of_filter_eq (h a) List.mem_cons_self)
      have hkey : key b = key a := le_antisymm hleast' hleast
      have hfirst := h a
      rw [List.filter_cons_of_pos (by simp), List.filter_cons_of_pos (by simp [hkey])] at hfirst
      obtain ⟨rfl, hsame⟩ := List.cons.inj hfirst
      refine congrArg (a :: ·) (ih hl.of_cons hl'.of_cons fun c => ?_)
      by_cases hc : key a = key c
      · rw [← hc]
        exact hsame
      · have hothers := h c
        rwa [List.filter_cons_of_neg (by simpa using hc), List.filter_cons_of_neg (by simpa using hc)] at hothers

variable {le : α → α → Bool} (hle : ∀ a b, le a b = true ↔ key a ≤ key b)
include hle

theorem trans_of_key (a b c : α) (hab : le a b = true) (hbc : le b c = true) : le a c = true :=
  (hle a c).2 (le_trans ((hle a b).1 hab) ((hle b c).1 hbc))

theorem total_of_key (a b : α) : (le a b || le b a) = true := by
  rw [Bool.or_eq_true, hle, hle]
  exact le_total _ _

theorem pairwise_mergeSort_key (l : List α) : (l.mergeSort le).Pairwise fun a b => key a ≤ key b :=
  (List.pairwise_mergeSort (trans_of_key hle) (total_of_key hle) l).imp fun h => (hle _ _).1 h

/-- What has one key stays in its order. -/
theorem filter_mergeSort (l : List α) (c : α) :
    (l.mergeSort le).filter (key · = key c) = l.filter (key · = key c) := by
  have hequal : (l.filter (key · = key c)).Pairwise fun a b => le a b = true := by
    refine List.pairwise_of_forall_mem_list fun a ha b hb => (hle a b).2 (le_of_eq ?_)
    rw [of_decide_eq_true (List.mem_filter.1 ha).2, of_decide_eq_true (List.mem_filter.1 hb).2]
  have hsublist : (l.filter (key · = key c)).Sublist (l.mergeSort le) :=
    List.sublist_mergeSort (trans_of_key hle) (total_of_key hle) hequal List.filter_sublist
  have hfiltered := hsublist.filter (key · = key c)
  rw [List.filter_filter] at hfiltered
  simp only [Bool.and_self] at hfiltered
  exact (hfiltered.eq_of_length ((List.mergeSort_perm l le).filter _).length_eq.symm).symm

theorem mergeSort_eq_iff :
    l.mergeSort le = l'.mergeSort le ↔ ∀ c, l.filter (key · = key c) = l'.filter (key · = key c) := by
  constructor
  · intro hsame c
    rw [← filter_mergeSort hle l c, hsame, filter_mergeSort hle]
  · intro hkept
    refine eq_of_filter_eq (pairwise_mergeSort_key hle l) (pairwise_mergeSort_key hle l') fun c => ?_
    rw [filter_mergeSort hle, filter_mergeSort hle, hkept]

end

/-! ### Tokens -/

namespace Token

/-- What tokens are sorted by. -/
def position (t : Token) : String ×ₗ Nat := toLex (t.unit, t.line.toNat)

theorem position_le_iff {a b : Token} :
    a.position ≤ b.position ↔ a.unit < b.unit ∨ a.unit = b.unit ∧ a.line ≤ b.line := by
  rw [UInt32.le_iff_toNat_le]
  exact Prod.Lex.toLex_le_toLex

theorem before_iff (a b : Token) : a.before b = true ↔ a.position ≤ b.position := by
  rw [position_le_iff, before]
  split
  · next hsame => simp [hsame]
  · next hother => simp [hother, le_iff_lt_or_eq]

/-- The second list holds the same tokens in another order, but those of one line in the same. -/
structure Reordered (tokens tokens' : List Token) : Prop where
  perm : tokens.Perm tokens'
  kept : ∀ unit line, tokens.filter (fun t => t.unit = unit ∧ t.line = line) =
    tokens'.filter fun t => t.unit = unit ∧ t.line = line

theorem position_eq_iff {a b : Token} : a.position = b.position ↔ a.unit = b.unit ∧ a.line = b.line := by
  rw [← UInt32.toNat_inj]
  exact Prod.ext_iff

theorem Reordered.sorted {tokens tokens' : List Token} (h : Reordered tokens tokens') :
    tokens.mergeSort before = tokens'.mergeSort before := by
  refine (mergeSort_eq_iff before_iff).2 fun c => ?_
  simp only [position_eq_iff]
  exact h.kept c.unit c.line

/-- Tokens of different lines may change places. -/
theorem Reordered.swap {a b : Token} (h : a.unit ≠ b.unit ∨ a.line ≠ b.line) (before after : List Token) :
    Reordered (before ++ a :: b :: after) (before ++ b :: a :: after) where
  perm := (List.Perm.swap b a after).append_left before
  kept := by
    intro unit line
    have hnotBoth : ¬ ((a.unit = unit ∧ a.line = line) ∧ b.unit = unit ∧ b.line = line) := by
      rintro ⟨⟨rfl, rfl⟩, hunit, hline⟩
      exact h.elim (fun hne => hne hunit.symm) fun hne => hne hline.symm
    simp only [List.filter_append, List.filter_cons]
    split_ifs with ha hb <;> simp_all

end Token

/-! ### Healing -/

namespace Pipeline

theorem lines_of_answers {p : Pipeline} {repairs : List Repair} {answered : List Token}
    (h : List.Forall₂ (Repair.Answers p) repairs answered) :
    repairs.map (fun r => (r.unit, r.line)) = answered.map fun t => (t.unit, t.line) := by
  induction h with
  | nil => rfl
  | cons hanswer _ ih =>
    obtain ⟨-, -, -, -, hunit, hline⟩ := hanswer
    rw [List.map_cons, List.map_cons, hunit, hline, ih]

/-- The repairs of a pass come in the order of the lines that they answer. -/
theorem pairwise_heal (p : Pipeline) (tokens : List Token) (s : Schema) : (p.heal tokens s).1.Pairwise
    fun r r' => r.unit < r'.unit ∨ r.unit = r'.unit ∧ r.line ≤ r'.line := by
  obtain ⟨answered, hsublist, hanswers⟩ := p.healInOrder_answers (tokens.mergeSort Token.before) s
  have hsorted := (pairwise_mergeSort_key Token.before_iff tokens).sublist hsublist
  have hlines : (answered.map fun t => (t.unit, t.line)).Pairwise
      fun line line' => line.1 < line'.1 ∨ line.1 = line'.1 ∧ line.2 ≤ line'.2 :=
    List.pairwise_map.2 (hsorted.imp Token.position_le_iff.1)
  rw [← lines_of_answers hanswers] at hlines
  exact List.pairwise_map.1 hlines

/-- Tokens that are reported in another order, but not those of one line, are healed by the same repairs, with the same
schema in the end, whatever the handlers and their patterns and whatever the schema; and the repairs come in the order
of the lines. -/
theorem heal_reordered {tokens tokens' : List Token} (h : Token.Reordered tokens tokens') (p : Pipeline) (s : Schema) :
    p.heal tokens s = p.heal tokens' s ∧ (p.heal tokens s).1.Pairwise
      fun r r' => r.unit < r'.unit ∨ r.unit = r'.unit ∧ r.line ≤ r'.line := by
  refine ⟨?_, p.pairwise_heal tokens s⟩
  rw [heal, heal, h.sorted]

/-! ### A pipeline with a wording of its own -/

/-- As in "total is redefined". -/
def redefinition : MessagePattern :=
  ⟨.duplicateDefinition, (Shape.all [.nameOf .word, .runs .blank, .text "is redefined"]).search⟩

/-- The standard pipeline, with a handler for one more wording of duplicates. -/
def extended : Pipeline := standard [] ++ [.duplicateDefinition redefinition]

/-- A type with two properties of one name. -/
def twoTotals : Schema :=
  Schema.empty.upsert ⟨"app.A", "type A",
    [⟨.property, "p1", "total", "total: int"⟩, ⟨.property, "p2", "total", "total: text"⟩]⟩

/-- An error that is located in the first property. -/
def located : Token :=
  Token.correlate (.error "app.A" 2 "duplicate definition of total")
    (some ⟨"app.A", "type A", [⟨1, none⟩, ⟨1, some ⟨.property, "p1", "total", "app.A"⟩⟩]⟩)

/-- An error behind it that tells of the name alone. -/
def named : Token := Token.correlate (.error "app.A" 3 "total is redefined") none

/-- Both properties are deleted also if the second error is reported first. Taken in that order, it would have the
first property deleted, and nothing would be left to do for the other error. -/
theorem reversed_reports_healed_alike :
    Token.Reordered [named, located] [located, named] ∧
      (healInOrder extended [named, located] twoTotals).1.map Repair.target = ["p1"] ∧
      (heal extended [named, located] twoTotals).1.map Repair.target = ["p1", "p2"] ∧
      heal extended [named, located] twoTotals = heal extended [located, named] twoTotals := by
  have hlines : named.line ≠ located.line := by decide +kernel
  have hreordered : Token.Reordered [named, located] [located, named] := .swap (Or.inr hlines) [] []
  have hunsorted : (healInOrder extended [named, located] twoTotals).1.map Repair.target = ["p1"] := by
    decide +kernel
  have halike : heal extended [named, located] twoTotals = heal extended [located, named] twoTotals :=
    (heal_reordered hreordered extended twoTotals).1
  have hinOrder : heal extended [located, named] twoTotals = healInOrder extended [located, named] twoTotals := by
    rw [heal, List.mergeSort_of_pairwise (by decide +kernel)]
  have hsorted : (heal extended [named, located] twoTotals).1.map Repair.target = ["p1", "p2"] := by
    rw [halike, hinOrder]
    decide +kernel
  exact ⟨hreordered, hunsorted, hsorted, halike⟩

end Pipeline

end HotSchema
