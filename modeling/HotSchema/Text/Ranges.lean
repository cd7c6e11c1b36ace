/-!
# Character ranges

A character property is written as the increasing list of the closed ranges of code points that have
it. Membership walks the list and stops at the first range that begins above the code point, so the
low code points, which most texts are made of, are decided after a step or two.
-/

namespace HotSchema.Text

/-- Closed ranges of code points, in increasing order. -/
abbrev Ranges := List (Nat × Nat)

def Ranges.covers : Ranges → Nat → Bool
  | [], _ => false
  | (low, high) :: rest, n => decide (low ≤ n) && (decide (n ≤ high) || covers rest n)

def Ranges.has (r : Ranges) (c : Char) : Bool := r.covers c.toNat

end HotSchema.Text
