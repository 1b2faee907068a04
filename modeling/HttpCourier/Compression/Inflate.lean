import HttpCourier.Compression.Code

/-!
# HttpCourier.Compression.Inflate

**Deflated data, inflated.** Data come in blocks: bytes as they are, or symbols of two prefix
codes, one for bytes and for the lengths of repetitions, one for their distances. The codes are
fixed ones, or are written in front of the block.

The data may break off anywhere; what they tell up to there is given.
-/

namespace HttpCourier.Compression

/-- Why data cannot be inflated. -/
inductive InflateFault where
  | blockType
  | storedLengths
  | tooManySymbols
  | codeLengthCode
  | lengthRepeat
  | noEndOfBlock
  | literalCode
  | distanceCode
  | literalSymbol
  | distanceSymbol
  | distanceTooFar
  deriving DecidableEq, Repr

/-- The wording of a fault. -/
def InflateFault.message : InflateFault → String
  | blockType => "invalid block type"
  | storedLengths => "invalid stored block lengths"
  | tooManySymbols => "too many length or distance symbols"
  | codeLengthCode => "invalid code lengths set"
  | lengthRepeat => "invalid bit length repeat"
  | noEndOfBlock => "invalid code -- missing end-of-block"
  | literalCode => "invalid literal/lengths set"
  | distanceCode => "invalid distances set"
  | literalSymbol => "invalid literal/length code"
  | distanceSymbol => "invalid distance code"
  | distanceTooFar => "invalid distance too far back"

/-- How inflating ends. -/
inductive InflateEnd where
  /-- The data are at their end, and the bits follow them. -/
  | complete (rest : Bits)
  /-- The data break off. -/
  | short
  | fault (f : InflateFault)

/-- What was inflated, and how it ended. -/
structure Inflated where
  output : Array UInt8
  ending : InflateEnd

/-- Where one block leads to. -/
inductive BlockEnd where
  | next (rest : Bits)
  | short
  | fault (f : InflateFault)

/-- The base and the number of extra bits of each length symbol, from 257 on. -/
def lengthBases : List (Nat × Nat) :=
  [(3, 0), (4, 0), (5, 0), (6, 0), (7, 0), (8, 0), (9, 0), (10, 0), (11, 1), (13, 1), (15, 1),
   (17, 1), (19, 2), (23, 2), (27, 2), (31, 2), (35, 3), (43, 3), (51, 3), (59, 3), (67, 4),
   (83, 4), (99, 4), (115, 4), (131, 5), (163, 5), (195, 5), (227, 5), (258, 0)]

/-- The base and the number of extra bits of each distance symbol. -/
def distanceBases : List (Nat × Nat) :=
  [(1, 0), (2, 0), (3, 0), (4, 0), (5, 1), (7, 1), (9, 2), (13, 2), (17, 3), (25, 3), (33, 4),
   (49, 4), (65, 5), (97, 5), (129, 6), (193, 6), (257, 7), (385, 7), (513, 8), (769, 8),
   (1025, 9), (1537, 9), (2049, 10), (3073, 10), (4097, 11), (6145, 11), (8193, 12), (12289, 12),
   (16385, 13), (24577, 13)]

/-- The output with a repetition of what stands `distance` bytes back. -/
def repeatBack (output : Array UInt8) (distance : Nat) : Nat → Array UInt8
  | 0 => output
  | n + 1 => repeatBack (output.push (output.getD (output.size - distance) 0)) distance n

/-- A base and its extra bits. -/
def extended (bases : List (Nat × Nat)) (symbol : Nat) (bits : Bits) :
    Option (Option (Nat × Bits)) :=
  (bases[symbol]?).map fun (base, extra) =>
    (Bits.take? extra bits).map fun (n, rest) => (base + n, rest)

/-- Inflates the symbols of a block. Each round takes at least one bit; `fuel` bounds them. -/
def inflateSymbols (literals distances : Code) :
    (fuel : Nat) → Array UInt8 → Bits → Array UInt8 × BlockEnd
  | 0, output, _ => (output, .short)
  | fuel + 1, output, bits =>
    match literals.read bits with
    | .short => (output, .short)
    | .unknown => (output, .fault .literalSymbol)
    | .found symbol rest =>
      if symbol < 256 then inflateSymbols literals distances fuel (output.push (UInt8.ofNat symbol)) rest
      else if symbol = 256 then (output, .next rest)
      else
        match extended lengthBases (symbol - 257) rest with
        | none => (output, .fault .literalSymbol)
        | some none => (output, .short)
        | some (some (length, rest)) =>
          match distances.read rest with
          | .short => (output, .short)
          | .unknown => (output, .fault .distanceSymbol)
          | .found symbol rest =>
            match extended distanceBases symbol rest with
            | none => (output, .fault .distanceSymbol)
            | some none => (output, .short)
            | some (some (distance, rest)) =>
              if output.size < distance then (output, .fault .distanceTooFar)
              else inflateSymbols literals distances fuel (repeatBack output distance length) rest

/-- The longest word of a code of symbols, in bits. -/
def longestWord : Nat := 15

/-- The fixed code of bytes and lengths. -/
def fixedLiterals : Code :=
  Code.ofLengths longestWord (List.replicate 144 8 ++ List.replicate 112 9 ++
    List.replicate 24 7 ++ List.replicate 8 8)

/-- The fixed code of distances. -/
def fixedDistances : Code := Code.ofLengths longestWord (List.replicate 32 5)

/-- The order in which the lengths of the words for lengths are written. -/
def lengthOrder : List Nat :=
  [16, 17, 18, 0, 8, 7, 9, 6, 10, 5, 11, 4, 12, 3, 13, 2, 14, 1, 15]

/-- What comes of reading something in front of a block. -/
inductive Head (α : Type) where
  | ok (a : α) (rest : Bits)
  | short
  | fault (f : InflateFault)

/-- Numbers of three bits. -/
def threeBitNumbers : Nat → Bits → Option (List Nat × Bits)
  | 0, bits => some ([], bits)
  | n + 1, bits => do
    let (first, rest) ← Bits.take? 3 bits
    let (more, rest) ← threeBitNumbers n rest
    return (first :: more, rest)

/-- The word lengths of the two codes, of which `total` are to be read; `read` are those read so
far, the last one first. -/
def readLengths (code : Code) (total : Nat) :
    (fuel : Nat) → (read : List Nat) → Bits → Head (List Nat)
  | 0, _, _ => .short
  | fuel + 1, read, bits =>
    if total ≤ read.length then .ok read.reverse bits
    else
      match code.read bits with
      | .short => .short
      | .unknown => .fault .codeLengthCode
      | .found symbol rest =>
        if symbol < 16 then readLengths code total fuel (symbol :: read) rest
        else
          let (value?, extra, base) :=
            if symbol = 16 then (read.head?, 2, 3)
            else if symbol = 17 then (some 0, 3, 3) else (some 0, 7, 11)
          match Bits.take? extra rest with
          | none => .short
          | some (n, rest) =>
            match value? with
            | none => .fault .lengthRepeat
            | some value =>
              if total < read.length + base + n then .fault .lengthRepeat
              else readLengths code total fuel (List.replicate (base + n) value ++ read) rest

/-- The code that reads any bit as zero. It stands for a code without words. -/
def zeroCode : Code := ⟨[2], #[0, 0]⟩

/-- Whether a code of symbols can be used: it is complete, or has one word, or none. -/
def isUsable (c : Code) : Bool := c.isComplete || c.isSingle || c.isEmpty

/-- The codes that are written in front of a block. -/
def readCodes (bits : Bits) : Head (Code × Code) :=
  match Bits.take? 14 bits with
  | none => .short
  | some (n, rest) =>
    let literalCount := n % 32 + 257
    let distanceCount := n / 32 % 32 + 1
    if 286 < literalCount ∨ 30 < distanceCount then .fault .tooManySymbols
    else
      match threeBitNumbers (n / 1024 + 4) rest with
      | none => .short
      | some (numbers, rest) =>
        let given := lengthOrder.zip numbers
        let lengthCode := Code.ofLengths 7 ((List.range 19).map fun s => (given.lookup s).getD 0)
        if !(lengthCode.isComplete || lengthCode.isEmpty) then .fault .codeLengthCode
        else
          match readLengths (if lengthCode.isEmpty then zeroCode else lengthCode)
              (literalCount + distanceCount)
              (literalCount + distanceCount + 1) [] rest with
          | .short => .short
          | .fault f => .fault f
          | .ok lengths rest =>
            let literals := Code.ofLengths longestWord (lengths.take literalCount)
            let distances := Code.ofLengths longestWord (lengths.drop literalCount)
            if lengths.getD 256 0 = 0 then .fault .noEndOfBlock
            else if !isUsable literals then .fault .literalCode
            else if !isUsable distances then .fault .distanceCode
            else .ok (literals, distances) rest

/-- The bytes of a block that holds them as they are. -/
def storedBytes : Nat → Array UInt8 → Bits → Array UInt8 × BlockEnd
  | 0, output, bits => (output, .next bits)
  | n + 1, output, bits =>
    match Bits.take? 8 bits with
    | none => (output, .short)
    | some (b, rest) => storedBytes n (output.push (UInt8.ofNat b)) rest

/-- Inflates a block with bytes as they are; they start at a whole byte. -/
def inflateStored (output : Array UInt8) (bits : Bits) : Array UInt8 × BlockEnd :=
  match Bits.take? 32 (bits.drop (bits.length % 8)) with
  | none => (output, .short)
  | some (n, rest) =>
    if n % 65536 + n / 65536 ≠ 65535 then (output, .fault .storedLengths)
    else storedBytes (n % 65536) output rest

/-- Inflates a block of the given kind. -/
def inflateBlock (kind : Nat) (output : Array UInt8) (bits : Bits) : Array UInt8 × BlockEnd :=
  if kind = 0 then inflateStored output bits
  else if kind = 1 then
    inflateSymbols fixedLiterals fixedDistances (bits.length + 1) output bits
  else if kind = 2 then
    match readCodes bits with
    | .short => (output, .short)
    | .fault f => (output, .fault f)
    | .ok (literals, distances) rest =>
      inflateSymbols literals distances (rest.length + 1) output rest
  else (output, .fault .blockType)

/-- Inflates blocks. Each one takes at least three bits; `fuel` bounds them. -/
def inflateBlocks : (fuel : Nat) → Array UInt8 → Bits → Inflated
  | 0, output, _ => ⟨output, .short⟩
  | fuel + 1, output, bits =>
    match Bits.take? 3 bits with
    | none => ⟨output, .short⟩
    | some (n, rest) =>
      match inflateBlock (n / 2) output rest with
      | (output, .short) => ⟨output, .short⟩
      | (output, .fault f) => ⟨output, .fault f⟩
      | (output, .next rest) =>
        if n % 2 = 1 then ⟨output, .complete rest⟩ else inflateBlocks fuel output rest

/-- Inflates data. -/
def inflate (bits : Bits) : Inflated := inflateBlocks (bits.length + 1) #[] bits

end HttpCourier.Compression
