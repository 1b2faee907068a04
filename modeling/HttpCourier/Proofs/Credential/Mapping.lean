import HttpCourier.Proofs.Wire.TextFields

/-!
# HttpCourier.Proofs.Credential.Mapping

**Headers as mappings.** A credential is put into headers of more than one kind. What they have in
common is that setting a name changes what is under it, and nothing else (`HeaderMapping`). A plain
mapping tells its names apart as they are; the fields of a request are told apart without regard to
ASCII letter case, whatever their encoding is.
-/

namespace HttpCourier

/-- Headers of a kind, as a mapping from names to values. -/
structure HeaderMapping (H : Type) where
  set : H → Text → Text → Except EncodeError H
  /-- The values under a name. -/
  values : H → Text → List Text
  /-- Whether two names are those of one entry. -/
  Same : Text → Text → Prop
  /-- Whether the headers take every text. -/
  Open : H → Prop
  set_ok : ∀ {h name value}, Open h → name.Scalar → value.Scalar → ∃ h', set h name value = .ok h'
  values_set : ∀ {h h' name value}, set h name value = .ok h' → values h' name = [value]
  values_set_of_not_same : ∀ {h h' name value other}, set h name value = .ok h' →
    ¬ Same other name → values h' other = values h other

/-! ### Plain mappings -/

namespace TextMap

/-- A plain mapping, whose names are told apart as they are. -/
def mapping : HeaderMapping TextMap where
  set m name value := .ok (m.insert name value)
  values m name := (m.get? name).toList
  Same := Eq
  Open _ := True
  set_ok _ _ _ := ⟨_, rfl⟩
  values_set := by
    rintro m _ name value ⟨⟩
    exact congrArg Option.toList (Entries.get?_insert_self _ name value)
  values_set_of_not_same := by
    rintro m _ name value other ⟨⟩ different
    exact congrArg Option.toList (Entries.get?_insert_of_ne different _ value)

end TextMap

/-! ### Fields -/

namespace Wire.Fields

variable {f g : Fields} {charset : Charset} {name value other t u : Text} {n v k b : Bytes}

theorem valuesOf_replaceFirst_self {entries : List (Bytes × Bytes)}
    (there : hasKey ⟨entries, none⟩ (key n) = true) :
    valuesOf ⟨replaceFirst n v entries, none⟩ (key n) = [v] := by
  induction entries with
  | nil => cases there
  | cons e rest ih =>
    unfold replaceFirst
    by_cases same : key e.1 = key n
    · rw [if_pos same]
      simp [valuesOf]
    · have later : hasKey ⟨rest, none⟩ (key n) = true := by simpa [hasKey, same] using there
      rw [if_neg same, ← ih later]
      simp [valuesOf, same]

theorem valuesOf_replaceFirst_of_ne {entries : List (Bytes × Bytes)} (other : k ≠ key n) :
    valuesOf ⟨replaceFirst n v entries, none⟩ k = valuesOf ⟨entries, none⟩ k := by
  induction entries with
  | nil => rfl
  | cons e rest ih =>
    unfold replaceFirst
    by_cases same : key e.1 = key n
    · have kept : (rest.filter fun d => key d.1 ≠ key n).filter (fun d => key d.1 = k) =
          rest.filter fun d => key d.1 = k := by
        rw [List.filter_filter]
        refine List.filter_congr fun d _ => ?_
        by_cases here : key d.1 = k <;> simp [here, other]
      rw [if_pos same]
      unfold valuesOf
      rw [List.filter_cons_of_neg (by simpa using other.symm),
        List.filter_cons_of_neg (by simpa [same] using other.symm)]
      exact congrArg (List.map Prod.snd) kept
    · rw [if_neg same]
      unfold valuesOf at ih ⊢
      by_cases here : key e.1 = k
      · rw [List.filter_cons_of_pos (by simpa using here),
          List.filter_cons_of_pos (by simpa using here), List.map_cons, List.map_cons, ih]
      · rw [List.filter_cons_of_neg (by simpa using here),
          List.filter_cons_of_neg (by simpa using here), ih]

/-- A field that is set is the only one of its name. -/
theorem valuesOf_setBytes_self : (f.setBytes n v).valuesOf (key n) = [v] := by
  unfold setBytes
  split
  · next there => exact valuesOf_replaceFirst_self there
  · next missing =>
    have none : f.entries.filter (fun e => key e.1 = key n) = [] := by
      rw [List.filter_eq_nil_iff]
      intro e he same
      exact missing (List.any_eq_true.2 ⟨e, he, same⟩)
    unfold valuesOf
    rw [List.filter_append, none]
    simp

/-- Setting a field changes nothing under another name. -/
theorem valuesOf_setBytes_of_ne (other : k ≠ key n) :
    (f.setBytes n v).valuesOf k = f.valuesOf k := by
  unfold setBytes
  split
  · exact valuesOf_replaceFirst_of_ne other
  · unfold valuesOf
    rw [List.filter_append, List.filter_cons_of_neg (by simpa using other.symm)]
    simp

/-! ### Names in an encoding -/

/-- The encodings of one byte for each code point are read as Latin-1. -/
theorem ofLatin1_of_small (small : ∀ c ∈ t, c.val < 256) :
    Text.ofLatin1 (t.flatMap fun c => [UInt8.ofNat c.val]) = t := by
  unfold Text.ofLatin1
  rw [← List.map_eq_flatMap, List.map_map]
  refine (List.map_congr_left fun c hc => ?_).trans (List.map_id _)
  show CodePoint.ofNat (UInt8.ofNat c.val).toNat = c
  rw [Text.toNat_ofNat_of_lt (small c hc), c.ofNat_val]

/-- What is written in an encoding is read back. -/
theorem decode_of_encode (h : t.encode charset = .ok b) : decode charset b = t := by
  obtain ⟨holds, rfl⟩ := Text.encode_ok_iff.1 h
  cases charset with
  | ascii =>
    refine ofLatin1_of_small fun c hc => ?_
    exact Nat.lt_trans (Charset.ascii_holds.1 (holds c hc)) (by decide)
  | latin1 => exact ofLatin1_of_small fun c hc => of_decide_eq_true (holds c hc)
  | utf8 => exact Text.ofUtf8Lossy_bytesIn (Text.scalar_iff_holds.2 holds)

theorem lowerByte_ofNat {c : CodePoint} (small : c.val < 256) :
    lowerByte (UInt8.ofNat c.val) = UInt8.ofNat c.asciiLower.val := by
  have all : ∀ i : Fin 256, lowerByte (UInt8.ofNat (CodePoint.ofNat i).val) =
      UInt8.ofNat (CodePoint.ofNat i).asciiLower.val := by decide +kernel
  have here := all ⟨c.val, small⟩
  rwa [c.ofNat_val] at here

theorem map_lowerByte_bytesOf {c : CodePoint} (h : charset.holds c = true) :
    (charset.bytesOf c).map lowerByte = charset.bytesOf c.asciiLower := by
  cases charset with
  | ascii =>
    have small := Nat.lt_trans (Charset.ascii_holds.1 h) (show 128 < 256 by decide)
    exact congrArg ([·]) (lowerByte_ofNat small)
  | latin1 => exact congrArg ([·]) (lowerByte_ofNat (of_decide_eq_true h))
  | utf8 => exact map_lowerByte_utf8Bytes c

/-- The key of a name is the name with its ASCII letters in lower case, in any encoding. -/
theorem encode_asciiLower (h : t.encode charset = .ok b) :
    (Text.asciiLower t).encode charset = .ok (key b) := by
  obtain ⟨holds, rfl⟩ := Text.encode_ok_iff.1 h
  refine Text.encode_ok_iff.2 ⟨?_, ?_⟩
  · unfold Text.asciiLower
    rw [List.forall_mem_map]
    exact fun c hc => (CodePoint.holds_asciiLower charset c).trans (holds c hc)
  · unfold key Text.bytesIn Text.asciiLower
    rw [List.map_flatMap, List.flatMap_map]
    exact List.flatMap_congr fun c hc => map_lowerByte_bytesOf (holds c hc)

theorem key_ne_of_encode (ht : t.encode charset = .ok b) (hu : u.encode charset = .ok k)
    (different : Text.asciiLower t ≠ Text.asciiLower u) : key b ≠ key k := by
  intro same
  refine different ?_
  rw [← decode_of_encode (encode_asciiLower ht), same, decode_of_encode (encode_asciiLower hu)]

theorem writeCharset_setBytes : (f.setBytes n v).writeCharset = f.writeCharset := by
  rw [writeCharset, writeCharset, charset_setBytes]

/-- The values of a name, in the encoding that fields are written in. -/
def textsOf (f : Fields) (name : Text) : List Text :=
  match name.encode f.writeCharset with
  | .ok n => (f.valuesOf (key n)).map (decode f.writeCharset)
  | .error _ => []

/-- The fields of a request, whose names are told apart without regard to ASCII letter case. They
take every text as long as their encoding is UTF-8. -/
def mapping : HeaderMapping Fields where
  set := set
  values := textsOf
  Same name other := Text.asciiLower name = Text.asciiLower other
  Open f := f.writeCharset = .utf8
  set_ok := by
    intro f name value utf8 hn hv
    have written {t : Text} (ht : t.Scalar) : t.encode f.writeCharset = .ok (t.bytesIn .utf8) := by
      rw [utf8]
      exact (writes_utf8.2 ht).encode
    unfold set
    rw [written hn, written hv]
    exact ⟨_, rfl⟩
  values_set := by
    intro f g name value h
    obtain ⟨n, hn, h⟩ := ok_of_bind h
    obtain ⟨v, hv, h⟩ := ok_of_bind h
    cases h
    unfold textsOf
    rw [writeCharset_setBytes, hn]
    dsimp only
    rw [valuesOf_setBytes_self, List.map_singleton, decode_of_encode hv]
  values_set_of_not_same := by
    intro f g name value other h different
    obtain ⟨n, hn, h⟩ := ok_of_bind h
    obtain ⟨v, -, h⟩ := ok_of_bind h
    cases h
    unfold textsOf
    rw [writeCharset_setBytes]
    cases ho : other.encode f.writeCharset with
    | error e => rfl
    | ok k =>
      dsimp only
      rw [valuesOf_setBytes_of_ne (key_ne_of_encode ho hn different)]

end Wire.Fields

end HttpCourier
