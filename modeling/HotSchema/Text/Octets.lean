import HotSchema.Text.Utf8
/-!
# Octets

Programs exchange bytes, and nothing makes them write well-formed text. A list of octets holds bytes as
the characters of their numbers, so that the letters and signs of ASCII stand for themselves.
-/

namespace HotSchema

/-- Byte strings are compared byte by byte. -/
instance decidableEqBytes : DecidableEq ByteArray := ByteArray.instDecidableEq

/-- Bytes, each as the character of its number. -/
abbrev Octets := List Char

namespace Octets

def ofBytes (bytes : ByteArray) : Octets := bytes.toList.map fun b => Char.ofNat b.toNat

def toBytes (o : Octets) : ByteArray := ⟨(o.map fun c => c.toNat.toUInt8).toArray⟩

def ofText (s : String) : Octets := ofBytes s.toUTF8

def toText (o : Octets) : String := String.ofList (Text.decodeLossy (toBytes o))

end Octets

end HotSchema
