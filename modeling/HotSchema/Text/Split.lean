import HotSchema.Text.Classes
/-!
# Cutting texts

Texts are cut at their first or last separator, at every separator, at blanks and at line ends. All of
it is on lists of characters, where each cut is one recursion on the list.

A line ends at a line feed, and a carriage return just before that line feed belongs to the line end.
The text after the last line feed is a line only if there is any, and keeps its carriage return.
-/

namespace HotSchema.Text

def splitFirst (separator : List Char) : List Char → Option (List Char × List Char)
  | [] => none
  | c :: s =>
    if separator.isPrefixOf (c :: s) then some ([], (c :: s).drop separator.length)
    else (splitFirst separator s).map fun parts => (c :: parts.1, parts.2)

def splitLast (separator : Char) : List Char → Option (List Char × List Char)
  | [] => none
  | c :: s =>
    match splitLast separator s with
    | some (before, after) => some (c :: before, after)
    | none => if c = separator then some ([], s) else none

/-- The parts between the separators: one more than there are separators. -/
def segments (isSeparator : Char → Bool) : List Char → List (List Char)
  | [] => [[]]
  | c :: s =>
    if isSeparator c then [] :: segments isSeparator s
    else
      match segments isSeparator s with
      | [] => [[c]]
      | word :: more => (c :: word) :: more

/-- The part after the last separator, the whole text if there is none. -/
def lastSegment (isSeparator : Char → Bool) (s : List Char) : List Char :=
  ((segments isSeparator s).getLast?).getD s

def words (s : List Char) : List (List Char) := (segments isBlank s).filter (!·.isEmpty)

def trimStart (s : List Char) : List Char := s.dropWhile isBlank

def trimEnd (s : List Char) : List Char := (s.reverse.dropWhile isBlank).reverse

def trim (s : List Char) : List Char := trimEnd (trimStart s)

def dropPrefix? (start s : List Char) : Option (List Char) :=
  if start.isPrefixOf s then some (s.drop start.length) else none

def dropSuffix? (ending s : List Char) : Option (List Char) :=
  if ending.isSuffixOf s then some (s.take (s.length - ending.length)) else none

/-- Walks over `s` and writes `new` for `old`; the next `skip` characters belong to an `old` already
written. -/
def replaceFrom (old new : List Char) (skip : Nat) : List Char → List Char
  | [] => []
  | c :: s =>
    if skip = 0 then
      if old.isPrefixOf (c :: s) then new ++ replaceFrom old new (old.length - 1) s
      else c :: replaceFrom old new 0 s
    else replaceFrom old new (skip - 1) s

/-- Writes `new` for every occurrence of `old`, taken from the left without overlap. -/
def replaceAll (old new s : List Char) : List Char := replaceFrom old new 0 s

/-- A finished line without the carriage return of its line end; the line is given backwards. -/
def finishLine : List Char → List Char
  | '\r' :: reversed => reversed.reverse
  | reversed => reversed.reverse

/-- The lines of `s` after the characters of the current line read so far, given backwards. -/
def linesFrom (reversed : List Char) : List Char → List (List Char)
  | [] => if reversed.isEmpty then [] else [reversed.reverse]
  | c :: s => if c = '\n' then finishLine reversed :: linesFrom [] s else linesFrom (c :: reversed) s

def lines (s : List Char) : List (List Char) := linesFrom [] s

def linesOf (s : String) : List String := (lines s.toList).map String.ofList

def shortName (name : String) : String := String.ofList (lastSegment (· == '.') name.toList)

@[simp] theorem segments_nil (p : Char → Bool) : segments p [] = [[]] := rfl

theorem segments_ne_nil (p : Char → Bool) (s : List Char) : segments p s ≠ [] := by
  cases s with
  | nil => simp
  | cons c s =>
    rw [segments]
    split
    · simp
    · split <;> simp

theorem splitLast_eq_none_iff {separator : Char} {s : List Char} :
    splitLast separator s = none ↔ separator ∉ s := by
  induction s with
  | nil => simp [splitLast]
  | cons c s ih =>
    rw [splitLast]
    cases h : splitLast separator s with
    | some parts =>
      have : separator ∈ s := by
        rw [← Classical.not_not (a := separator ∈ s), ← ih, h]
        simp
      simp [this]
    | none =>
      have hs := ih.1 h
      by_cases hc : c = separator
      · simp [hc]
      · simp [hc, hs, Ne.symm hc]

@[simp] theorem lines_nil : lines [] = [] := rfl

end HotSchema.Text
