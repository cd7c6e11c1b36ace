/-!
# Reading bytes as text

Output of other programs is read as UTF-8 whatever it holds. The longest start of a well-formed
sequence that breaks off becomes one replacement character, and so does every byte that begins none;
reading goes on with the byte that broke the sequence.
-/

namespace HotSchema.Text

def replacement : Char := '\uFFFD'

/-- A sequence under way: the continuation bytes it still needs, the bits read so far, and the range
that the next byte must lie in. `owed` is zero between characters. -/
structure Partial where
  owed : Nat
  bits : Nat
  low : Nat
  high : Nat

namespace Partial

def between : Partial := ⟨0, 0, 0, 0⟩

/-- The characters that a byte completes when it comes between characters, and what it opens. -/
def lead (b : Nat) : List Char × Partial :=
  if b < 0x80 then ([Char.ofNat b], between)
  else if b < 0xC2 then ([replacement], between)
  else if b < 0xE0 then ([], ⟨1, b - 0xC0, 0x80, 0xBF⟩)
  else if b < 0xF0 then
    ([], ⟨2, b - 0xE0, if b = 0xE0 then 0xA0 else 0x80, if b = 0xED then 0x9F else 0xBF⟩)
  else if b < 0xF5 then
    ([], ⟨3, b - 0xF0, if b = 0xF0 then 0x90 else 0x80, if b = 0xF4 then 0x8F else 0xBF⟩)
  else ([replacement], between)

def step (p : Partial) (b : Nat) : List Char × Partial :=
  if p.owed = 0 then lead b
  else if p.low ≤ b ∧ b ≤ p.high then
    let bits := p.bits * 64 + b % 64
    if p.owed = 1 then ([Char.ofNat bits], between) else ([], ⟨p.owed - 1, bits, 0x80, 0xBF⟩)
  else
    let (chars, next) := lead b
    (replacement :: chars, next)

def decode (p : Partial) : List UInt8 → List Char
  | [] => if p.owed = 0 then [] else [replacement]
  | b :: bytes =>
    let (chars, next) := p.step b.toNat
    chars ++ decode next bytes

end Partial

/-- The text of `bytes`, with replacement characters for what is not UTF-8. -/
def decodeLossy (bytes : ByteArray) : List Char := Partial.between.decode bytes.toList

end HotSchema.Text
