/-!
# Content digests

A 64-bit digest of a byte string, the unseeded XXH3. It tells whether a text changed since it was last
compiled, so all that matters is that it depends on the bytes alone and seldom repeats.

Inputs fall into length classes, each with a mixing of its own: up to 16 bytes a few overlapping words
are mixed at once, up to 240 bytes pairs of words are folded into one accumulator, and above that eight
lanes take the input in stripes of 64 bytes and are scrambled after every 16 stripes. Words are read
least significant byte first, and arithmetic wraps at 64 bits.
-/

namespace HotSchema.Digest

/-- The key stream that every input word is mixed with. -/
def key : ByteArray := ⟨#[
  0xb8, 0xfe, 0x6c, 0x39, 0x23, 0xa4, 0x4b, 0xbe, 0x7c, 0x01, 0x81, 0x2c, 0xf7, 0x21, 0xad, 0x1c,
  0xde, 0xd4, 0x6d, 0xe9, 0x83, 0x90, 0x97, 0xdb, 0x72, 0x40, 0xa4, 0xa4, 0xb7, 0xb3, 0x67, 0x1f,
  0xcb, 0x79, 0xe6, 0x4e, 0xcc, 0xc0, 0xe5, 0x78, 0x82, 0x5a, 0xd0, 0x7d, 0xcc, 0xff, 0x72, 0x21,
  0xb8, 0x08, 0x46, 0x74, 0xf7, 0x43, 0x24, 0x8e, 0xe0, 0x35, 0x90, 0xe6, 0x81, 0x3a, 0x26, 0x4c,
  0x3c, 0x28, 0x52, 0xbb, 0x91, 0xc3, 0x00, 0xcb, 0x88, 0xd0, 0x65, 0x8b, 0x1b, 0x53, 0x2e, 0xa3,
  0x71, 0x64, 0x48, 0x97, 0xa2, 0x0d, 0xf9, 0x4e, 0x38, 0x19, 0xef, 0x46, 0xa9, 0xde, 0xac, 0xd8,
  0xa8, 0xfa, 0x76, 0x3f, 0xe3, 0x9c, 0x34, 0x3f, 0xf9, 0xdc, 0xbb, 0xc7, 0xc7, 0x0b, 0x4f, 0x1d,
  0x8a, 0x51, 0xe0, 0x4b, 0xcd, 0xb4, 0x59, 0x31, 0xc8, 0x9f, 0x7e, 0xc9, 0xd9, 0x78, 0x73, 0x64,
  0xea, 0xc5, 0xac, 0x83, 0x34, 0xd3, 0xeb, 0xc3, 0xc5, 0x81, 0xa0, 0xff, 0xfa, 0x13, 0x63, 0xeb,
  0x17, 0x0d, 0xdd, 0x51, 0xb7, 0xf0, 0xda, 0x49, 0xd3, 0x16, 0x55, 0x26, 0x29, 0xd4, 0x68, 0x9e,
  0x2b, 0x16, 0xbe, 0x58, 0x7d, 0x47, 0xa1, 0xfc, 0x8f, 0xf8, 0xb8, 0xd1, 0x7a, 0xd0, 0x31, 0xce,
  0x45, 0xcb, 0x3a, 0x8f, 0x95, 0x16, 0x04, 0x28, 0xaf, 0xd7, 0xfb, 0xca, 0xbb, 0x4b, 0x40, 0x7e]⟩

def primeA32 : UInt64 := 0x9E3779B1
def primeB32 : UInt64 := 0x85EBCA77
def primeC32 : UInt64 := 0xC2B2AE3D
def primeA : UInt64 := 0x9E3779B185EBCA87
def primeB : UInt64 := 0xC2B2AE3D27D4EB4F
def primeC : UInt64 := 0x165667B19E3779F9
def primeD : UInt64 := 0x85EBCA77C2B2AE63
def primeE : UInt64 := 0x27D4EB2F165667C5
def mixerA : UInt64 := 0x165667919E3779F9
def mixerB : UInt64 := 0x9FB21C651E98DF25

/-! ### Words -/

/-- The byte at a position, zero past the end. -/
def byteAt (bytes : ByteArray) (i : Nat) : UInt64 :=
  if h : i < bytes.size then bytes[i].toUInt64 else 0

def word32 (bytes : ByteArray) (i : Nat) : UInt64 :=
  byteAt bytes i ||| byteAt bytes (i + 1) <<< 8 ||| byteAt bytes (i + 2) <<< 16
    ||| byteAt bytes (i + 3) <<< 24

def word (bytes : ByteArray) (i : Nat) : UInt64 :=
  word32 bytes i ||| word32 bytes (i + 4) <<< 32

def low32 (x : UInt64) : UInt64 := x &&& 0xFFFFFFFF

def rotate (x : UInt64) (n : UInt64) : UInt64 := x <<< n ||| x >>> (64 - n)

/-- The bytes of a 32-bit word in reverse order. -/
def reverse32 (x : UInt64) : UInt64 :=
  let byte (n : UInt64) : UInt64 := x >>> n &&& 0xFF
  byte 0 <<< 24 ||| byte 8 <<< 16 ||| byte 16 <<< 8 ||| byte 24

def reverse64 (x : UInt64) : UInt64 :=
  reverse32 (low32 x) <<< 32 ||| reverse32 (x >>> 32)

/-- The two halves of the 128-bit product, one over the other. -/
def fold (a b : UInt64) : UInt64 :=
  let product := a.toNat * b.toNat
  product.toUInt64 ^^^ (product >>> 64).toUInt64

/-! ### Last mixings -/

def shiftXor (x : UInt64) (n : UInt64) : UInt64 := x ^^^ x >>> n

/-- The mixing that ends all inputs above 8 bytes. -/
def avalanche (h : UInt64) : UInt64 := shiftXor (shiftXor h 37 * mixerA) 32

/-- The mixing that ends inputs of up to 3 bytes. -/
def avalancheShort (h : UInt64) : UInt64 :=
  shiftXor (shiftXor (shiftXor h 33 * primeB) 29 * primeC) 32

/-- The mixing that ends inputs of 4 to 8 bytes. -/
def avalancheWord (h : UInt64) (size : UInt64) : UInt64 :=
  let h := (h ^^^ rotate h 49 ^^^ rotate h 24) * mixerB
  let h := (h ^^^ (h >>> 35 + size)) * mixerB
  shiftXor h 28

/-! ### Length classes -/

def digestUpTo3 (bytes : ByteArray) : UInt64 :=
  let size := bytes.size
  let combined := byteAt bytes 0 <<< 16 ||| byteAt bytes (size / 2) <<< 24 ||| byteAt bytes (size - 1)
    ||| size.toUInt64 <<< 8
  avalancheShort (combined ^^^ (word32 key 0 ^^^ word32 key 4))

def digestUpTo8 (bytes : ByteArray) : UInt64 :=
  let size := bytes.size
  let both := word32 bytes (size - 4) + word32 bytes 0 <<< 32
  avalancheWord (both ^^^ (word key 8 ^^^ word key 16)) size.toUInt64

def digestUpTo16 (bytes : ByteArray) : UInt64 :=
  let size := bytes.size
  let low := word bytes 0 ^^^ (word key 24 ^^^ word key 32)
  let high := word bytes (size - 8) ^^^ (word key 40 ^^^ word key 48)
  avalanche (size.toUInt64 + reverse64 low + high + fold low high)

def mixPair (bytes : ByteArray) (at_ keyAt : Nat) : UInt64 :=
  fold (word bytes at_ ^^^ word key keyAt) (word bytes (at_ + 8) ^^^ word key (keyAt + 8))

/-- Pairs from both ends towards the middle, as many as the length needs. -/
def digestUpTo128 (bytes : ByteArray) : UInt64 :=
  let size := bytes.size
  let rounds := (size - 1) / 32 + 1
  let mixed := (List.range rounds).foldl (fun acc i =>
    acc + mixPair bytes (16 * i) (32 * i) + mixPair bytes (size - 16 * (i + 1)) (32 * i + 16))
    (size.toUInt64 * primeA)
  avalanche mixed

/-- Pairs in order, with a mixing after the eighth and the last one taken from the end. -/
def digestUpTo240 (bytes : ByteArray) : UInt64 :=
  let size := bytes.size
  let opening := (List.range 8).foldl (fun acc i => acc + mixPair bytes (16 * i) (16 * i))
    (size.toUInt64 * primeA)
  let middle := (List.range (size / 16 - 8)).foldl
    (fun acc i => acc + mixPair bytes (16 * (i + 8)) (16 * i + 3)) (avalanche opening)
  avalanche (middle + mixPair bytes (size - 16) 119)

/-! ### Long inputs -/

def lanes : Array UInt64 :=
  #[primeC32, primeA, primeB, primeC, primeD, primeB32, primeE, primeA32]

def lane (acc : Array UInt64) (i : Nat) : UInt64 := acc.getD i 0

/-- Takes in one stripe: each lane gets the product of the halves of its own keyed word, and its
neighbour's word as it is. -/
def takeStripe (bytes : ByteArray) (at_ keyAt : Nat) (acc : Array UInt64) : Array UInt64 :=
  Array.ofFn fun i : Fin 8 =>
    let keyed := word bytes (at_ + 8 * i.val) ^^^ word key (keyAt + 8 * i.val)
    lane acc i.val + word bytes (at_ + 8 * (if i.val % 2 = 0 then i.val + 1 else i.val - 1))
      + low32 keyed * (keyed >>> 32)

def scramble (acc : Array UInt64) : Array UInt64 :=
  Array.ofFn fun i : Fin 8 =>
    (shiftXor (lane acc i.val) 47 ^^^ word key (128 + 8 * i.val)) * primeA32

/-- Takes in the stripes of a block of 1024 bytes that have numbers below `count`. -/
def takeBlock (bytes : ByteArray) (at_ count : Nat) (acc : Array UInt64) : Array UInt64 :=
  (List.range count).foldl (fun acc i => takeStripe bytes (at_ + 64 * i) (8 * i) acc) acc

def mergeLanes (acc : Array UInt64) (start : UInt64) : UInt64 :=
  avalanche ((List.range 4).foldl (fun h i =>
    h + fold (lane acc (2 * i) ^^^ word key (11 + 16 * i))
      (lane acc (2 * i + 1) ^^^ word key (19 + 16 * i))) start)

def digestLong (bytes : ByteArray) : UInt64 :=
  let size := bytes.size
  let blocks := (size - 1) / 1024
  let full := (List.range blocks).foldl
    (fun acc i => scramble (takeBlock bytes (1024 * i) 16 acc)) lanes
  let rest := takeBlock bytes (1024 * blocks) ((size - 1 - 1024 * blocks) / 64) full
  let last := takeStripe bytes (size - 64) 121 rest
  mergeLanes last (size.toUInt64 * primeA)

def ofBytes (bytes : ByteArray) : UInt64 :=
  if bytes.size = 0 then avalancheShort (word key 56 ^^^ word key 64)
  else if bytes.size ≤ 3 then digestUpTo3 bytes
  else if bytes.size ≤ 8 then digestUpTo8 bytes
  else if bytes.size ≤ 16 then digestUpTo16 bytes
  else if bytes.size ≤ 128 then digestUpTo128 bytes
  else if bytes.size ≤ 240 then digestUpTo240 bytes
  else digestLong bytes

def ofText (text : String) : UInt64 := ofBytes text.toUTF8

def toHex (digest : UInt64) : String :=
  let digits := Nat.toDigits 16 digest.toNat
  String.ofList (List.replicate (16 - digits.length) '0' ++ digits)

end HotSchema.Digest
