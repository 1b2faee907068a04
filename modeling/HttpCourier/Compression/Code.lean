/-!
# HttpCourier.Compression.Code

**Prefix codes given by the lengths of their words.** Words of one length are handed out to
symbols in order, shorter ones first, so that the lengths alone tell the code. Reading a symbol
takes bits until they spell a word.

Bits are a list; the first bit of a byte is its lowest one.
-/

namespace HttpCourier.Compression

/-- Bits, in the order in which they are read. -/
abbrev Bits := List Bool

/-- The bits of a byte, the lowest one first. -/
def bitsOfByte (b : UInt8) : Bits := (List.range 8).map fun i => b.toNat.testBit i

/-- The bits of bytes. -/
def bitsOf (bytes : List UInt8) : Bits := bytes.flatMap bitsOfByte

/-- The number that bits spell, the lowest one first. -/
def Bits.value (bits : Bits) : Nat := bits.foldr (fun b n => 2 * n + b.toNat) 0

/-- A number of `n` bits and what follows it. -/
def Bits.take? (n : Nat) (bits : Bits) : Option (Nat × Bits) :=
  if (bits.take n).length < n then none
  else some (Bits.value (bits.take n), bits.drop n)

/-- A prefix code. -/
structure Code where
  /-- How many words there are of each length, from one bit on. -/
  counts : List Nat
  /-- The symbols in the order of their words. -/
  symbols : Array Nat

namespace Code

/-- The code of word lengths; the symbol at a place with length zero has no word. -/
def ofLengths (longest : Nat) (lengths : List Nat) : Code :=
  let sizes := (List.range longest).map (· + 1)
  let numbered := lengths.zipIdx
  ⟨sizes.map fun n => (lengths.filter (· = n)).length,
    (sizes.flatMap fun n => (numbered.filter fun p => p.1 = n).map Prod.snd).toArray⟩

/-- The words that are still free after each length: `none` if there are too many words. -/
def free? (counts : List Nat) : Option Nat :=
  counts.foldlM (fun left n => if 2 * left < n then none else some (2 * left - n)) 1

/-- Whether there are no words but one of a single bit. -/
def isSingle (c : Code) : Bool := c.counts.head? = some 1 && (c.counts.drop 1).all (· = 0)

/-- Whether there are no words at all. -/
def isEmpty (c : Code) : Bool := c.counts.all (· = 0)

/-- Whether every text of bits spells words. -/
def isComplete (c : Code) : Bool := free? c.counts = some 0

/-- What comes of reading one symbol. -/
inductive Symbol where
  | found (symbol : Nat) (rest : Bits)
  /-- The bits end within a word. -/
  | short
  /-- The bits spell no word. -/
  | unknown

/-- Reads a symbol: `value` are the bits read so far, `first` is the first word of their length
and `index` its place among the symbols. -/
def readFrom (c : Code) (value first index : Nat) : List Nat → Bits → Symbol
  | [], _ => .unknown
  | _ :: _, [] => .short
  | count :: counts, b :: rest =>
    let value := 2 * value + b.toNat
    if value < first + count then
      match c.symbols[index + (value - first)]? with
      | some symbol => .found symbol rest
      | none => .unknown
    else readFrom c value (2 * (first + count)) (index + count) counts rest

/-- Reads a symbol. -/
def read (c : Code) (bits : Bits) : Symbol := readFrom c 0 0 0 c.counts bits

end Code

end HttpCourier.Compression
