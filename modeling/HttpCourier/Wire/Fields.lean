import HttpCourier.Text.Case
import HttpCourier.Text.Encoding

/-!
# HttpCourier.Wire.Fields

**Header fields**, in the order in which they go out. Names are told apart without regard to
ASCII letter case, and keep the spelling with which they were set.

Names and values are bytes. The encoding in which text becomes bytes is fixed by the first
look-up: it is ASCII if all fields are ASCII at that time, else UTF-8 if they are UTF-8, else
Latin-1. Before that, text is written in UTF-8. A text outside the encoding is refused.
-/

namespace HttpCourier.Wire

/-- The byte with an ASCII letter in lower case. -/
def lowerByte (b : UInt8) : UInt8 := if 0x41 ≤ b.toNat ∧ b.toNat ≤ 0x5A then b + 0x20 else b

/-- Header fields. -/
structure Fields where
  entries : List (Bytes × Bytes)
  /-- The encoding, once it is fixed. -/
  charset : Option Charset
  deriving DecidableEq, Repr

namespace Fields

/-- No fields. -/
def empty : Fields := ⟨[], none⟩

instance : Inhabited Fields := ⟨empty⟩

/-- The bytes that stand for a field's name in comparisons. -/
def key (name : Bytes) : Bytes := name.map lowerByte

/-- The encoding that fits all fields. -/
def fittingCharset (entries : List (Bytes × Bytes)) : Charset :=
  let bytes := entries.flatMap fun (n, v) => n ++ v
  if bytes.all fun b => b.toNat < 128 then .ascii
  else if entries.all fun (n, v) => (Text.ofUtf8? n).isSome && (Text.ofUtf8? v).isSome then .utf8
  else .latin1

/-- The fields with their encoding fixed. -/
def settle (f : Fields) : Fields :=
  match f.charset with
  | some _ => f
  | none => ⟨f.entries, some (fittingCharset f.entries)⟩

/-- The same fields, with their encoding open again. -/
def reopened (f : Fields) : Fields := ⟨f.entries, none⟩

/-- The encoding that a look-up uses. -/
def lookupCharset (f : Fields) : Charset := f.charset.getD (fittingCharset f.entries)

/-- The encoding that a new field is written in. -/
def writeCharset (f : Fields) : Charset := f.charset.getD .utf8

/-- The key of a name in a look-up. -/
def keyOf (f : Fields) (name : Text) : Except EncodeError Bytes :=
  Text.encode f.lookupCharset (Text.lower name)

/-- Whether there is a field with the key. -/
def hasKey (f : Fields) (k : Bytes) : Bool := f.entries.any fun e => key e.1 = k

/-- Whether there is a field of the name, whose encoding is fixed by this. -/
def has (f : Fields) (name : Text) : Except EncodeError Bool :=
  (f.keyOf name).map f.hasKey

/-- The entries with the first one of a key replaced and the others of that key left out. -/
def replaceFirst (name value : Bytes) : List (Bytes × Bytes) → List (Bytes × Bytes)
  | [] => []
  | e :: rest =>
    if key e.1 = key name then (name, value) :: rest.filter fun d => key d.1 ≠ key name
    else e :: replaceFirst name value rest

/-- The fields with a value for a name, given as bytes: the first field of that name is
replaced, others of that name are dropped, and a new name goes to the end. -/
def setBytes (f : Fields) (name value : Bytes) : Fields :=
  if f.hasKey (key name) then ⟨replaceFirst name value f.entries, f.charset⟩
  else ⟨f.entries ++ [(name, value)], f.charset⟩

/-- The fields with a value for a name. -/
def set (f : Fields) (name value : Text) : Except EncodeError Fields := do
  let n ← name.encode f.writeCharset
  let v ← value.encode f.writeCharset
  return f.setBytes n v

/-- The fields without those of a key. -/
def eraseKey (f : Fields) (k : Bytes) : Fields :=
  ⟨f.entries.filter fun e => key e.1 ≠ k, f.charset⟩

/-- Bytes as text in an encoding. -/
def decode (charset : Charset) (bytes : Bytes) : Text :=
  match charset with
  | .utf8 => Text.ofUtf8Lossy bytes
  | _ => Text.ofLatin1 bytes

/-- The fields with those of another collection: names that both have go out as the other one
has them. -/
def update (f other : Fields) : Except EncodeError Fields := do
  let settled := f.settle
  let names := other.entries.map fun e => decode (fittingCharset other.entries) (key e.1)
  let keys ← names.mapM settled.keyOf
  return ⟨(settled.entries.filter fun e => !keys.contains (key e.1)) ++ other.entries,
    settled.charset⟩

/-- The values of the fields with a key, in order. -/
def valuesOf (f : Fields) (k : Bytes) : List Bytes :=
  (f.entries.filter fun e => key e.1 = k).map Prod.snd

/-- A name in ASCII as bytes. -/
def asciiName (s : String) : Bytes := s.toList.map fun c => UInt8.ofNat c.toNat

/-- Whether there is a field of an ASCII name in lower case. -/
def hasName (f : Fields) (name : String) : Bool := f.hasKey (asciiName name)

/-- The fields as a mapping from names in lower case to values, several values joined. A name
that does not find its own field is returned as the error. -/
def items (f : Fields) : Except Text (List (Text × Text)) :=
  let charset := f.lookupCharset
  let names := (f.entries.map fun e => decode charset (key e.1)).eraseDups
  names.mapM fun name =>
    let values := match Text.encode charset (Text.lower name) with
      | .ok k => f.valuesOf k
      | .error _ => []
    if values.isEmpty then .error name
    else .ok (name, Text.join ", " (values.map (decode charset)))

end Fields

end HttpCourier.Wire
