import HotSchema.Text.Octets
/-!
# Shell syntax

A command is one simple command or is built from others. A simple command has words; a word is a row of
pieces, and some pieces stand for what they expand to: the value of a parameter, the output of a
command, the value of an expression.

Sequences, pipelines and lists of alternatives are built two by two.
-/

namespace HotSchema.Shell

/-- What is done with the value of a parameter. Those that look for a missing value take the empty one
for missing too if `orEmpty` is set. -/
inductive Substitution where
  | plain
  | length
  /-- The word stands in for a missing value. -/
  | orElse (orEmpty : Bool)
  /-- The word stands in for a missing value and becomes it. -/
  | assign (orEmpty : Bool)
  /-- A missing value ends the shell with the word as its message. -/
  | demand (orEmpty : Bool)
  /-- The word stands in for a value that is there. -/
  | instead (orEmpty : Bool)
  /-- The value without the shortest or longest start that the word, as a pattern, fits. -/
  | cutStart (longest : Bool)
  | cutEnd (longest : Bool)
  deriving DecidableEq

inductive Direction where
  | input
  | output
  | append
  | both
  /-- To where another descriptor leads. -/
  | copy
  /-- To the text of the word itself. -/
  | document
  deriving DecidableEq

mutual

inductive Piece where
  | text (octets : Octets)
  | quoted (pieces : List Piece)
  | parameter (name : Octets) (change : Substitution) (word : List Piece)
  | output (command : Command)
  | value (expression : List Piece)

inductive Command where
  | nothing
  | simple (assignments : List (Octets × List Piece)) (words : List (List Piece))
      (redirections : List Redirection)
  | redirected (command : Command) (redirections : List Redirection)
  | sequence (first next : Command)
  /-- The second runs if the first succeeds. -/
  | andThen (first next : Command)
  /-- The second runs if the first fails. -/
  | orElse (first next : Command)
  | negated (command : Command)
  | pipe (first next : Command)
  | background (command : Command)
  | subshell (command : Command)
  | choice (condition yes no : Command)
  /-- Repeats the body while the condition succeeds, or until it does. -/
  | loop (ending : Bool) (condition body : Command)
  /-- Runs the body for each word, for each argument if there are no words. -/
  | each (name : Octets) (words : Option (List (List Piece))) (body : Command)
  /-- Runs the body of the first arm with a pattern that the word fits. -/
  | select (word : List Piece) (arms : List Arm)
  | function (name : Octets) (body : Command)

inductive Redirection where
  | mk (descriptor : Nat) (direction : Direction) (target : List Piece)

inductive Arm where
  | mk (patterns : List (List Piece)) (body : Command)

end

abbrev Word := List Piece

/-- A letter, a digit or an underscore. -/
def isNameOctet (c : Char) : Bool := c.isAlphanum || c == '_'

def isName : Octets → Bool
  | [] => false
  | c :: rest => !c.isDigit && (c :: rest).all isNameOctet

end HotSchema.Shell
