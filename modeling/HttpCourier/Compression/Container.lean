import HttpCourier.Compression.Inflate

/-!
# HttpCourier.Compression.Container

**What stands around deflated data**: a header in front, and a checksum behind. There are two
such formats. Data that break off are given as far as they go; a header or a checksum that is
wrong is a fault.
-/

namespace HttpCourier.Compression

/-- Why data are refused. -/
inductive ContainerFault where
  | header
  | method
  | flags
  | headerChecksum
  | window
  /-- The data cannot be read without a dictionary that is not given. -/
  | dictionary
  | checksum
  | length
  | data (f : InflateFault)
  deriving DecidableEq, Repr

/-- The wording of a fault. -/
def ContainerFault.message : ContainerFault → String
  | header => "incorrect header check"
  | method => "unknown compression method"
  | flags => "unknown header flags set"
  | headerChecksum => "header crc mismatch"
  | window => "invalid window size"
  | dictionary => "need dictionary"
  | checksum => "incorrect data check"
  | length => "incorrect length check"
  | data f => f.message

/-! ### Checksums -/

/-- One bit of the cyclic checksum. -/
def crcBit (c : Nat) : Nat := if c % 2 = 1 then (c / 2).xor 0xEDB88320 else c / 2

/-- One byte of the cyclic checksum. -/
def crcByte (c : Nat) (b : UInt8) : Nat :=
  (List.range 8).foldl (fun c _ => crcBit c) (c.xor b.toNat)

/-- The cyclic checksum of bytes, of 32 bits. -/
def crc32 (bytes : List UInt8) : Nat := (bytes.foldl crcByte 0xFFFFFFFF).xor 0xFFFFFFFF

/-- The sum of bytes and the sum of its values, both modulo 65521. -/
def adler32 (bytes : List UInt8) : Nat :=
  let (a, b) := bytes.foldl (fun (a, b) byte =>
    let a := (a + byte.toNat) % 65521
    (a, (b + a) % 65521)) (1, 0)
  b * 65536 + a

/-! ### Headers -/

/-- What comes of reading a header. -/
inductive Header where
  | ok (rest : List UInt8)
  | short
  | fault (f : ContainerFault)

/-- The number that bytes spell, the lowest one first. -/
def littleEndian (bytes : List UInt8) : Nat := bytes.foldr (fun b n => b.toNat + 256 * n) 0

/-- The bytes behind the first zero. -/
def behindZero? (bytes : List UInt8) : Option (List UInt8) :=
  match bytes.dropWhile (· != 0) with
  | [] => none
  | _ :: rest => some rest

/-- The bytes behind an optional part. -/
def behind? (present : Bool) (part : List UInt8 → Option (List UInt8)) (bytes : List UInt8) :
    Option (List UInt8) :=
  if present then part bytes else some bytes

/-- The bytes behind a part that starts with its length. -/
def behindSized? (bytes : List UInt8) : Option (List UInt8) :=
  if bytes.length < 2 + littleEndian (bytes.take 2) then none
  else some (bytes.drop (2 + littleEndian (bytes.take 2)))

/-- The bytes behind the header with a file's name. -/
def fileHeader (bytes : List UInt8) : Header :=
  match bytes with
  | a :: b :: rest =>
    if a.toNat ≠ 0x1F ∨ b.toNat ≠ 0x8B then .fault .header
    else
      match rest with
      | method :: flags :: rest =>
        if method.toNat ≠ 8 then .fault .method
        else if 32 ≤ flags.toNat then .fault .flags
        else
          let parts : Option (List UInt8) :=
            if rest.length < 6 then none
            else
              (behind? (flags.toNat.testBit 2) behindSized? (rest.drop 6)).bind fun rest =>
              (behind? (flags.toNat.testBit 3) behindZero? rest).bind fun rest =>
              behind? (flags.toNat.testBit 4) behindZero? rest
          match parts with
          | none => .short
          | some rest =>
            if flags.toNat.testBit 1 then
              if rest.length < 2 then .short
              else if littleEndian (rest.take 2) ≠
                  crc32 (bytes.take (bytes.length - rest.length)) % 65536 then
                .fault .headerChecksum
              else .ok (rest.drop 2)
            else .ok rest
      | _ => .short
  | _ => .short

/-- The bytes behind the header of two bytes. -/
def shortHeader (bytes : List UInt8) : Header :=
  match bytes with
  | a :: b :: rest =>
    if (a.toNat * 256 + b.toNat) % 31 ≠ 0 then .fault .header
    else if a.toNat % 16 ≠ 8 then .fault .method
    else if 7 < a.toNat / 16 then .fault .window
    else if b.toNat.testBit 5 then .fault .dictionary
    else .ok rest
  | _ => .short

/-- The bytes that bits spell, eight at most; the rest of a byte is left out at the start. -/
def trailingBytes (bits : Bits) : List UInt8 :=
  let bits := (bits.drop (bits.length % 8)).take 64
  (List.range (bits.length / 8)).map fun i => UInt8.ofNat (Bits.value ((bits.drop (8 * i)).take 8))

/-- The data of bytes without a container. -/
def inflateBare (bytes : List UInt8) : Except ContainerFault (List UInt8) :=
  let r := inflate (bitsOf bytes)
  match r.ending with
  | .fault f => .error (.data f)
  | _ => .ok r.output.toList

/-- The data behind a header, with a check of what stands behind them. -/
def inflateWith (header : Header) (trailer : List UInt8 → List UInt8 → Option ContainerFault) :
    Except ContainerFault (List UInt8) :=
  match header with
  | .short => .ok []
  | .fault f => .error f
  | .ok rest =>
    let r := inflate (bitsOf rest)
    match r.ending with
    | .fault f => .error (.data f)
    | .short => .ok r.output.toList
    | .complete bits =>
      match trailer r.output.toList (trailingBytes bits) with
      | some f => .error f
      | none => .ok r.output.toList

/-- The data of a file with a header that can hold its name. -/
def inflateFile (bytes : List UInt8) : Except ContainerFault (List UInt8) :=
  inflateWith (fileHeader bytes) fun output trailer =>
    if 4 ≤ trailer.length ∧ littleEndian (trailer.take 4) ≠ crc32 output then some .checksum
    else if 8 ≤ trailer.length ∧
        littleEndian ((trailer.drop 4).take 4) ≠ output.length % 4294967296 then some .length
    else none

/-- The data of a stream with a header of two bytes. -/
def inflateStream (bytes : List UInt8) : Except ContainerFault (List UInt8) :=
  inflateWith (shortHeader bytes) fun output trailer =>
    if 4 ≤ trailer.length ∧ littleEndian (trailer.take 4).reverse ≠ adler32 output then
      some .checksum
    else none

end HttpCourier.Compression
