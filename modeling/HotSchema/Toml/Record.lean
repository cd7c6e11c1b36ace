import HotSchema.Toml.Value
/-!
# Records in TOML

Readers for values of a given form. A record is a table that has no key but the record's fields, or an
array that lists the values of the fields in their order; elements past the last field are not looked
at, and fields past the last element are missing. A word of a fixed list is a string, or a table whose
one key is the word and whose value is empty.
-/

namespace HotSchema.Toml.Value

def string? : Value → Option String
  | string s => some s
  | _ => none

def nat? : Value → Option Nat
  | integer n => if 0 ≤ n ∧ n < 18446744073709551616 then some n.toNat else none
  | _ => none

def list? {α : Type} (read : Value → Option α) : Value → Option (List α)
  | array _ elements => elements.mapM read
  | _ => none

def record? (fields : List String) : Value → Option Entries
  | table _ entries => if entries.all (·.1 ∈ fields) then some entries else none
  | array _ elements => some (fields.zip elements)
  | _ => none

def word? {α : Type} (ofWord? : String → Option α) : Value → Option α
  | string s => ofWord? s
  | table _ [(s, table _ [])] => ofWord? s
  | table _ [(s, array _ [])] => ofWord? s
  | _ => none

end HotSchema.Toml.Value

namespace HotSchema.Toml.Entries

def required? {α : Type} (t : Entries) (key : String) (read : Value → Option α) : Option α :=
  (t.get? key).bind read

def withDefault? {α : Type} (t : Entries) (key : String) (default : α) (read : Value → Option α) :
    Option α :=
  match t.get? key with
  | none => some default
  | some v => read v

end HotSchema.Toml.Entries
