import HotSchema.Text.Classes
/-!
# Shapes of text

A shape describes pieces of text: a character of a class, runs of them, one shape after another, a
choice, an optional part, and a part whose text is wanted as a name. A text may fit a shape in several
ways, and the ways come in an order of preference: a run is as long as possible, an optional part is
there if it can be, and the first choice goes before the second.

A shape is looked for anywhere in a message. The leftmost place where it fits counts, and there the
most preferred way.
-/

namespace HotSchema

/-- Lower case for the letters of the shapes, and the two signs that count as one of them. -/
def foldCase (c : Char) : Char :=
  if c = '\u212A' then 'k' else if c = '\u017F' then 's' else c.toLower

inductive CharClass where
  /-- The character itself, in either case if it is a letter. -/
  | letter (c : Char)
  | blank
  | word
  /-- A word character or a dot. -/
  | dotted
  /-- All but the closing parenthesis. -/
  | inParens
  deriving DecidableEq

def CharClass.has : CharClass → Char → Bool
  | letter c, x => foldCase x == foldCase c
  | blank, x => Text.isBlank x
  | word, x => Text.isWord x
  | dotted, x => Text.isWord x || x == '.'
  | inParens, x => x != ')'

inductive Shape where
  | nothing
  | one (c : CharClass)
  /-- A run of characters, perhaps empty. -/
  | run (c : CharClass)
  | seq (first next : Shape)
  | choice (first second : Shape)
  | optional (s : Shape)
  | named (s : Shape)
  deriving DecidableEq

/-- A place that matching has reached: the text from there on, and where the name began and ended. -/
structure Way where
  rest : List Char
  name : Option (List Char × List Char)
  deriving DecidableEq

def Way.symbol (w : Way) : Option String :=
  w.name.map fun (start, stop) => String.ofList (start.take (start.length - stop.length))

namespace Shape

/-- The rests after a run, the longest run first, before those in `shorter`. -/
def runRests (c : CharClass) (shorter : List (List Char)) : List Char → List (List Char)
  | [] => [] :: shorter
  | x :: s => if c.has x then runRests c ((x :: s) :: shorter) s else (x :: s) :: shorter

/-- All ways from a place through a shape, the most preferred first. -/
def ways : Shape → Way → List Way
  | nothing, w => [w]
  | one c, w =>
    match w.rest with
    | [] => []
    | x :: s => if c.has x then [{ w with rest := s }] else []
  | run c, w => (runRests c [] w.rest).map fun s => { w with rest := s }
  | seq first next, w => (first.ways w).flatMap next.ways
  | choice first second, w => first.ways w ++ second.ways w
  | optional s, w => s.ways w ++ [w]
  | named s, w => (s.ways w).map fun v => { v with name := some (w.rest, v.rest) }

/-- The most preferred way at the leftmost place where the shape fits. -/
def firstWay (shape : Shape) (s : List Char) : Option Way :=
  match shape.ways ⟨s, none⟩ with
  | w :: _ => some w
  | [] =>
    match s with
    | [] => none
    | _ :: rest => firstWay shape rest

/-! ### Building shapes -/

def text (s : String) : Shape := s.toList.foldr (fun c rest => seq (one (.letter c)) rest) nothing

def runs (c : CharClass) : Shape := seq (one c) (run c)

def all (shapes : List Shape) : Shape := shapes.foldr seq nothing

def anyText (first : String) (others : List String) : Shape :=
  match others with
  | [] => text first
  | second :: more => choice (text first) (anyText second more)

def backtick : Shape := optional (text "`")

def nameOf (c : CharClass) : Shape := all [backtick, named (runs c), backtick]

end Shape

end HotSchema
