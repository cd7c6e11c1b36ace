import HotSchema.Diagnostic.Token
import HotSchema.Healing.Shape
/-!
# Message patterns

A failure class is recognized by the class that the compiler gave, or, where it gave none, by what the
message says. A token with a class is never judged by its message; the message then only says which
symbol is meant. How a pattern finds something in a message is its own business; the patterns of the four
classes look for a shape, the wordings that compilers use for the class.
-/

namespace HotSchema

/-- What a pattern learned from a token: the symbol that the message names, if it names one. -/
structure Recognition where
  symbol : Option String
  deriving DecidableEq

structure MessagePattern where
  failure : FailureClass
  /-- What is learned from a message, if the pattern is found in it. -/
  search : String → Option Recognition

/-- Recognizes a token by its class, or an unclassified one by its message. -/
def MessagePattern.recognize (p : MessagePattern) (t : Token) : Option Recognition :=
  let found := p.search t.message
  match t.failure with
  | some failure => if failure = p.failure then some ⟨found.bind Recognition.symbol⟩ else none
  | none => found

def Shape.search (shape : Shape) (message : String) : Option Recognition :=
  (shape.firstWay message.toList).map fun way => ⟨way.symbol⟩

namespace FailureClass

open Shape

def shape : FailureClass → Shape
  -- As in "package billing.tax does not exist".
  | unresolvedImport =>
    all [anyText "package" ["import", "module"], runs .blank, nameOf .dotted, runs .blank,
      anyText "does not exist" ["not found", "cannot be resolved"]]
  -- As in "duplicate definition of `total`".
  | duplicateDefinition =>
    all [choice (all [text "duplicate ", anyText "definition" ["declaration"], text " of"])
        (all [text "already defined", optional (text ":")]),
      runs .blank, nameOf .word]
  -- As in "toString() clashes with base definition".
  | signatureClash =>
    all [backtick, named (runs .word), optional (all [text "(", run .inParens, text ")"]), backtick,
      runs .blank, text "clashes with ", optional (anyText "a " ["the "]), text "base ",
      anyText "definition" ["method", "signature"]]
  -- As in "cannot find symbol: recalculate".
  | unknownSymbol =>
    all [anyText "cannot find symbol" ["unknown symbol", "undefined symbol"], optional (text ":"),
      runs .blank, nameOf .dotted]

def pattern (f : FailureClass) : MessagePattern := ⟨f, f.shape.search⟩

end FailureClass

end HotSchema
