import HttpCourier.Proofs.Computation
import HttpCourier.Proofs.Text.Case
import HttpCourier.Wire.Outgoing

/-!
# HttpCourier.Proofs.Wire.TextFields

**Header fields as texts.** The fields of a request are made from texts, although they are kept as
bytes, in an encoding that is fixed at some time. As long as all of them are texts, that makes no
difference: `Fields.Holds` says that fields are a list of texts written in UTF-8, and each operation
on fields is one on texts (`TextFields`), whatever the encoding is.

The headers of a request are then a fold over the configured ones (`Outgoing.built_of_ofSpec`).
-/

namespace HttpCourier.Wire

/-! ### Operations on texts -/

/-- Header fields as texts. -/
abbrev TextFields := List (Text × Text)

namespace TextFields

/-- Whether there is a field whose name is the given one, with ASCII letters in lower case. -/
def hasKey (ts : TextFields) (key : Text) : Bool := ts.any fun t => Text.asciiLower t.1 = key

/-- The fields with the first one of a name replaced, and the others of that name left out. -/
def replaceFirst (name value : Text) : TextFields → TextFields
  | [] => []
  | t :: rest =>
    if Text.asciiLower t.1 = Text.asciiLower name then
      (name, value) :: rest.filter fun u => Text.asciiLower u.1 ≠ Text.asciiLower name
    else t :: replaceFirst name value rest

/-- The fields with a value for a name. -/
def set (ts : TextFields) (name value : Text) : TextFields :=
  if ts.hasKey (Text.asciiLower name) then replaceFirst name value ts else ts ++ [(name, value)]

/-- The fields with a configured header, unless it describes content or is there already. -/
def addHeader (ts : TextFields) (header : Text × Text) : TextFields :=
  if isContentHeader (Text.lower header.1) ∨ ts.hasKey (Text.lower header.1) then ts
  else ts.set header.1 header.2

/-- The values of the fields with a name. -/
def valuesOf (ts : TextFields) (key : Text) : List Text :=
  (ts.filter fun t => Text.asciiLower t.1 = key).map Prod.snd

/-- The fields as a mapping from names to values, as `Fields.items` gives it. -/
def items (ts : TextFields) : Except Text TextFields :=
  (ts.map fun t => Text.asciiLower t.1).eraseDups.mapM fun name =>
    let values := ts.valuesOf (Text.lower name)
    if values.isEmpty then .error name else .ok (name, Text.join ", " values)

theorem mem_replaceFirst {name value : Text} {ts : TextFields} {t : Text × Text}
    (h : t ∈ replaceFirst name value ts) : t ∈ ts ∨ t = (name, value) := by
  induction ts with
  | nil => cases h
  | cons u rest ih =>
    unfold replaceFirst at h
    split at h
    · rcases List.mem_cons.1 h with rfl | h
      · exact .inr rfl
      · exact .inl (List.mem_cons_of_mem _ (List.mem_filter.1 h).1)
    · rcases List.mem_cons.1 h with rfl | h
      · exact .inl List.mem_cons_self
      · exact (ih h).imp_left (List.mem_cons_of_mem _)

/-- Setting a field brings in no other one. -/
theorem mem_set {name value : Text} {ts : TextFields} {t : Text × Text}
    (h : t ∈ ts.set name value) : t ∈ ts ∨ t = (name, value) := by
  unfold set at h
  split at h
  · exact mem_replaceFirst h
  · exact (List.mem_append.1 h).imp_right List.mem_singleton.1

/-- The bytes of a field. -/
def entry (t : Text × Text) : Bytes × Bytes := (t.1.bytesIn .utf8, t.2.bytesIn .utf8)

end TextFields

/-! ### Texts in the encodings of the wire -/

namespace Fields

variable {charset : Charset} {t u : Text}

/-- The encoding is ASCII or UTF-8, and has the text. -/
structure Writes (charset : Charset) (t : Text) : Prop where
  notLatin1 : charset ≠ .latin1
  holds : ∀ c ∈ t, charset.holds c = true

theorem Writes.scalar (h : Writes charset t) : t.Scalar := by
  cases charset with
  | ascii => exact Text.scalar_of_isAscii (Text.isAscii_iff_holds.2 h.holds)
  | latin1 => exact absurd rfl h.notLatin1
  | utf8 => exact Text.scalar_iff_holds.2 h.holds

theorem writes_utf8 : Writes .utf8 t ↔ t.Scalar :=
  ⟨Writes.scalar, fun h => ⟨Charset.noConfusion, Text.scalar_iff_holds.1 h⟩⟩

theorem Writes.bytesIn_eq (h : Writes charset t) : t.bytesIn charset = t.bytesIn .utf8 := by
  cases charset with
  | ascii => exact Text.bytesIn_of_isAscii (Text.isAscii_iff_holds.2 h.holds)
  | latin1 => exact absurd rfl h.notLatin1
  | utf8 => rfl

/-- What is written in the encoding is written in UTF-8. -/
theorem writes_of_encode {b : Bytes} (h : t.encode charset = .ok b) (hc : charset ≠ .latin1) :
    Writes charset t ∧ b = t.bytesIn .utf8 := by
  obtain ⟨holds, rfl⟩ := Text.encode_ok_iff.1 h
  exact ⟨⟨hc, holds⟩, Writes.bytesIn_eq ⟨hc, holds⟩⟩

theorem Writes.encode (h : Writes charset t) : t.encode charset = .ok (t.bytesIn .utf8) := by
  rw [← h.bytesIn_eq]
  exact Text.encode_ok_iff.2 ⟨h.holds, rfl⟩

/-- The bytes of an ASCII text are its code points. -/
theorem ofLatin1_bytesIn (h : t.isAscii = true) : Text.ofLatin1 (t.bytesIn .utf8) = t := by
  rw [← Text.bytesIn_of_isAscii h]
  induction t with
  | nil => rfl
  | cons c t ih =>
    obtain ⟨here, rest⟩ : c.isAscii = true ∧ Text.isAscii t = true := Bool.and_eq_true_iff.1 h
    have small : c.val < 128 := of_decide_eq_true here
    show CodePoint.ofNat (UInt8.ofNat c.val).toNat :: Text.ofLatin1 (Text.bytesIn .ascii t) = c :: t
    rw [ih rest, Text.toNat_ofNat_of_lt (by omega), c.ofNat_val]

theorem Writes.decode (h : Writes charset t) : decode charset (t.bytesIn .utf8) = t := by
  cases charset with
  | ascii => exact ofLatin1_bytesIn (Text.isAscii_iff_holds.2 h.holds)
  | latin1 => exact absurd rfl h.notLatin1
  | utf8 => exact Text.ofUtf8Lossy_bytesIn h.scalar

theorem writes_asciiLower : Writes charset (Text.asciiLower t) ↔ Writes charset t := by
  have same : (∀ c ∈ Text.asciiLower t, charset.holds c = true) ↔
      ∀ c ∈ t, charset.holds c = true := by
    unfold Text.asciiLower
    rw [List.forall_mem_map]
    simp only [CodePoint.holds_asciiLower]
  exact ⟨fun h => ⟨h.notLatin1, same.1 h.holds⟩, fun h => ⟨h.notLatin1, same.2 h.holds⟩⟩

/-! ### Keys -/

theorem lowerByte_of_le {b : UInt8} (h : 128 ≤ b.toNat) : lowerByte b = b :=
  if_neg (by omega)

theorem map_lowerByte_utf8Bytes (c : CodePoint) :
    (Charset.utf8Bytes c.val).map lowerByte = Charset.utf8Bytes c.asciiLower.val := by
  by_cases small : c.val < 128
  · have ascii : ∀ i : Fin 128, (Charset.utf8Bytes (CodePoint.ofNat i).val).map lowerByte =
        Charset.utf8Bytes (CodePoint.ofNat i).asciiLower.val := by decide
    have here := ascii ⟨c.val, small⟩
    rwa [c.ofNat_val] at here
  · have other : c.asciiLower = c := if_neg (by omega)
    rw [other]
    refine (List.map_congr_left fun b hb => ?_).trans (List.map_id _)
    exact lowerByte_of_le (Charset.le_of_mem_utf8Bytes (Nat.not_lt.1 small) c.isLt hb)

/-- The key of a name is the name with its ASCII letters in lower case. -/
theorem key_bytesIn (t : Text) : key (t.bytesIn .utf8) = (Text.asciiLower t).bytesIn .utf8 := by
  unfold key Text.bytesIn Text.asciiLower
  rw [List.map_flatMap, List.flatMap_map]
  exact congrArg (t.flatMap ·) (funext map_lowerByte_utf8Bytes)

theorem key_inj (ht : t.Scalar) (hu : u.Scalar) :
    key (t.bytesIn .utf8) = u.bytesIn .utf8 ↔ Text.asciiLower t = u := by
  rw [key_bytesIn]
  exact Text.bytesIn_inj (writes_utf8.1 (writes_asciiLower.2 (writes_utf8.2 ht))) hu

/-! ### Fields that hold texts -/

/-- The encoding writes all the texts. -/
structure Suits (charset : Charset) (ts : TextFields) : Prop where
  notLatin1 : charset ≠ .latin1
  writes : ∀ t ∈ ts, Writes charset t.1 ∧ Writes charset t.2

/-- The fields are texts, written in UTF-8; if their encoding is fixed, it writes the same. -/
structure Holds (f : Fields) (ts : TextFields) : Prop where
  entries : f.entries = ts.map TextFields.entry
  scalar : ∀ t ∈ ts, t.1.Scalar ∧ t.2.Scalar
  suits : ∀ charset, f.charset = some charset → Suits charset ts

theorem holds_empty : empty.Holds [] :=
  ⟨rfl, fun _ h => absurd h List.not_mem_nil, fun _ h => absurd h (Option.some_ne_none _).symm⟩

variable {f g : Fields} {ts : TextFields} {name value : Text}

theorem isAscii_of_bytes (h : ∀ b ∈ t.bytesIn .utf8, b.toNat < 128) : t.isAscii = true := by
  refine List.all_eq_true.2 fun c hc => decide_eq_true ?_
  by_contra large
  have here : ∀ b ∈ Charset.utf8Bytes c.val, b.toNat < 128 := fun b hb =>
    h b (List.mem_flatMap.2 ⟨c, hc, hb⟩)
  obtain ⟨b, hb⟩ := List.exists_mem_of_ne_nil _ (Charset.utf8Bytes_ne_nil c.val)
  exact absurd (here b hb)
    (Nat.not_lt.2 (Charset.le_of_mem_utf8Bytes (Nat.not_lt.1 large) c.isLt hb))

/-- The encoding that fits fields with texts is ASCII or UTF-8. -/
theorem suits_fittingCharset (scalar : ∀ t ∈ ts, t.1.Scalar ∧ t.2.Scalar) :
    Suits (fittingCharset (ts.map TextFields.entry)) ts := by
  unfold fittingCharset
  dsimp only
  split
  · next all =>
    refine ⟨Charset.noConfusion, fun t ht => ?_⟩
    have small : ∀ b ∈ t.1.bytesIn .utf8 ++ t.2.bytesIn .utf8, b.toNat < 128 := by
      intro b hb
      refine of_decide_eq_true (List.all_eq_true.1 all b ?_)
      exact List.mem_flatMap.2 ⟨_, List.mem_map_of_mem ht, hb⟩
    have ascii (u : Text) (h : ∀ b ∈ u.bytesIn .utf8, b.toNat < 128) : Writes .ascii u :=
      ⟨Charset.noConfusion, Text.isAscii_iff_holds.1 (isAscii_of_bytes h)⟩
    exact ⟨ascii _ fun b hb => small b (List.mem_append_left _ hb),
      ascii _ fun b hb => small b (List.mem_append_right _ hb)⟩
  · split
    · exact ⟨Charset.noConfusion, fun t ht => ⟨writes_utf8.2 (scalar t ht).1,
        writes_utf8.2 (scalar t ht).2⟩⟩
    · next unreadable =>
      refine absurd (List.all_eq_true.2 fun e he => ?_) unreadable
      obtain ⟨t, ht, rfl⟩ := List.mem_map.1 he
      show ((Text.ofUtf8? (t.1.bytesIn .utf8)).isSome &&
        (Text.ofUtf8? (t.2.bytesIn .utf8)).isSome) = true
      rw [Text.ofUtf8?_bytesIn (scalar t ht).1, Text.ofUtf8?_bytesIn (scalar t ht).2]
      rfl

/-- A look-up uses an encoding that writes the texts. -/
theorem Holds.lookup (h : f.Holds ts) : Suits f.lookupCharset ts := by
  unfold lookupCharset
  cases hc : f.charset with
  | some charset => exact h.suits charset hc
  | none =>
    rw [h.entries]
    exact suits_fittingCharset h.scalar

theorem Holds.settle (h : f.Holds ts) : f.settle.Holds ts := by
  unfold Fields.settle
  split
  · exact h
  · refine ⟨h.entries, h.scalar, ?_⟩
    intro charset hs
    cases hs
    rw [h.entries]
    exact suits_fittingCharset h.scalar

theorem Holds.hasKey (h : f.Holds ts) (hu : u.Scalar) :
    f.hasKey (u.bytesIn .utf8) = ts.hasKey u := by
  unfold Fields.hasKey TextFields.hasKey
  rw [h.entries, List.any_map, Bool.eq_iff_iff, List.any_eq_true, List.any_eq_true]
  refine exists_congr fun t => and_congr_right fun ht => ?_
  show decide _ = true ↔ decide _ = true
  rw [decide_eq_true_iff, decide_eq_true_iff]
  exact key_inj (h.scalar t ht).1 hu

/-- A look-up that comes to an end finds the texts of the name. -/
theorem Holds.has (h : f.Holds ts) {found : Bool} (hf : f.has name = .ok found) :
    found = ts.hasKey (Text.lower name) := by
  obtain ⟨k, he, rfl⟩ := ok_of_map hf
  obtain ⟨writes, rfl⟩ := writes_of_encode he h.lookup.notLatin1
  exact h.hasKey writes.scalar

theorem key_eq_key (ht : t.Scalar) (hu : u.Scalar) :
    key (t.bytesIn .utf8) = key (u.bytesIn .utf8) ↔ Text.asciiLower t = Text.asciiLower u := by
  rw [key_bytesIn u]
  exact key_inj ht (writes_utf8.1 (writes_asciiLower.2 (writes_utf8.2 hu)))

theorem replaceFirst_map (scalar : ∀ t ∈ ts, t.1.Scalar ∧ t.2.Scalar) (hn : name.Scalar) :
    replaceFirst (name.bytesIn .utf8) (value.bytesIn .utf8) (ts.map TextFields.entry) =
      (ts.replaceFirst name value).map TextFields.entry := by
  have same {t : Text × Text} (ht : t.1.Scalar) :
      key (TextFields.entry t).1 = key (name.bytesIn .utf8) ↔
        Text.asciiLower t.1 = Text.asciiLower name := key_eq_key ht hn
  induction ts with
  | nil => rfl
  | cons t rest ih =>
    obtain ⟨here, there⟩ := List.forall_mem_cons.1 scalar
    rw [List.map_cons, replaceFirst, TextFields.replaceFirst]
    by_cases hk : Text.asciiLower t.1 = Text.asciiLower name
    · rw [if_pos ((same here.1).2 hk), if_pos hk, List.map_cons, List.filter_map]
      congr 2
      refine List.filter_congr fun u hu => ?_
      show decide _ = decide _
      rw [decide_eq_decide]
      exact not_congr (same (there u hu).1)
    · rw [if_neg (mt (same here.1).1 hk), if_neg hk, List.map_cons, ih there]

/-- A new field is written in an encoding that writes the texts. -/
theorem Holds.write (h : f.Holds ts) : Suits f.writeCharset ts := by
  unfold writeCharset
  cases hc : f.charset with
  | some charset => exact h.suits charset hc
  | none =>
    exact ⟨Charset.noConfusion, fun t ht => ⟨writes_utf8.2 (h.scalar t ht).1,
      writes_utf8.2 (h.scalar t ht).2⟩⟩

theorem charset_setBytes (f : Fields) (name value : Bytes) :
    (f.setBytes name value).charset = f.charset := by
  unfold setBytes
  split <;> rfl

/-- **Setting a field** sets it in the texts. -/
theorem Holds.set (h : f.Holds ts) (hs : f.set name value = .ok g) :
    g.Holds (ts.set name value) := by
  obtain ⟨n, hn, hs⟩ := ok_of_bind hs
  obtain ⟨v, hv, hs⟩ := ok_of_bind hs
  cases hs
  obtain ⟨writesName, rfl⟩ := writes_of_encode hn h.write.notLatin1
  obtain ⟨writesValue, rfl⟩ := writes_of_encode hv h.write.notLatin1
  refine ⟨?_, ?_, ?_⟩
  · unfold setBytes TextFields.set
    rw [key_bytesIn, h.hasKey (writes_asciiLower.2 writesName).scalar]
    split
    · rw [← replaceFirst_map h.scalar writesName.scalar, h.entries]
    · rw [List.map_append, h.entries]
      rfl
  · intro t ht
    rcases TextFields.mem_set ht with ht | rfl
    · exact h.scalar t ht
    · exact ⟨writesName.scalar, writesValue.scalar⟩
  · intro charset hc
    rw [charset_setBytes] at hc
    refine ⟨(h.suits charset hc).notLatin1, fun t ht => ?_⟩
    rcases TextFields.mem_set ht with ht | rfl
    · exact (h.suits charset hc).writes t ht
    · rw [writeCharset, hc] at writesName writesValue
      exact ⟨writesName, writesValue⟩

/-! ### Fields as a mapping -/

theorem decode_valuesOf (h : f.Holds ts) (hu : u.Scalar) :
    (f.valuesOf (u.bytesIn .utf8)).map (decode f.lookupCharset) = ts.valuesOf u := by
  unfold valuesOf TextFields.valuesOf
  rw [h.entries, List.filter_map, List.map_map, List.map_map]
  have kept : ts.filter ((fun e : Bytes × Bytes => decide (key e.1 = u.bytesIn .utf8)) ∘
      TextFields.entry) = ts.filter fun t => Text.asciiLower t.1 = u := by
    refine List.filter_congr fun t ht => ?_
    show decide _ = decide _
    rw [decide_eq_decide]
    exact key_inj (h.scalar t ht).1 hu
  rw [kept]
  refine List.map_congr_left fun t ht => ?_
  exact (h.lookup.writes t (List.mem_filter.1 ht).1).2.decode

/-- A text that is not written has no field. -/
theorem valuesOf_eq_nil (h : f.Holds ts) (hu : ¬ Writes f.lookupCharset u) : ts.valuesOf u = [] := by
  unfold TextFields.valuesOf
  rw [List.map_eq_nil_iff, List.filter_eq_nil_iff]
  intro t ht same
  refine hu ?_
  rw [← of_decide_eq_true same]
  exact writes_asciiLower.2 (h.lookup.writes t ht).1

/-- The keys of the fields are read as the texts with their ASCII letters in lower case. -/
theorem Holds.decode_keys (h : f.Holds ts) (suits : Suits charset ts) :
    (f.entries.map fun e => decode charset (key e.1)) = ts.map fun t => Text.asciiLower t.1 := by
  rw [h.entries, List.map_map]
  refine List.map_congr_left fun t ht => ?_
  show decode _ (key (t.1.bytesIn .utf8)) = _
  rw [key_bytesIn]
  exact (writes_asciiLower.2 (suits.writes t ht).1).decode

/-- **Fields that hold texts are a mapping of texts**, whatever their encoding is. -/
theorem Holds.items (h : f.Holds ts) : f.items = ts.items := by
  have names := h.decode_keys h.lookup
  unfold Fields.items TextFields.items
  dsimp only
  rw [names]
  congr 1
  funext name
  cases he : (Text.lower name).encode f.lookupCharset with
  | error e =>
    have unwritten : ¬ Writes f.lookupCharset (Text.lower name) := by
      intro writes
      rw [writes.encode] at he
      cases he
    rw [valuesOf_eq_nil h unwritten]
    rfl
  | ok k =>
    obtain ⟨writes, rfl⟩ := writes_of_encode he h.lookup.notLatin1
    rw [← decode_valuesOf h writes.scalar, List.isEmpty_map]

end Fields

end HttpCourier.Wire

/-! ### Places of a credential -/

namespace HttpCourier.Credential

theorem eq_of_given? {t : Option Text} {u : Text} (h : given? t = some u) : t = some u := by
  unfold given? at h
  split at h
  · cases h
  · exact h

/-- A credential goes nowhere, to the field that all but a key share, or where its key is to go. -/
theorem placement_cases {c : Credential} {place : Placement} (h : c.placement = .ok place) :
    place = .nowhere ∨ (∃ value, place = .header authorizationName value) ∨
      ∃ key, c.key = some key ∧ place = c.keyPlacement key := by
  unfold placement at h
  split at h
  · split at h
    · obtain ⟨value, -, rfl⟩ := ok_of_map h
      exact .inr (.inl ⟨value, rfl⟩)
    · cases h
      exact .inl rfl
  · split at h
    · cases h
      exact .inr (.inl ⟨_, rfl⟩)
    · cases h
      exact .inl rfl
  · split at h
    · next key given =>
      cases h
      exact .inr (.inr ⟨key, eq_of_given? given, rfl⟩)
    · cases h
      exact .inl rfl
  · cases h
    exact .inl rfl

end HttpCourier.Credential

namespace HttpCourier.Wire

/-! ### Requests -/

/-- The fields that a credential sets at its place. -/
def placedFields : Credential.Placement → TextFields
  | .header name value => [(name, value)]
  | _ => []

/-- The URL with what a credential adds to it at its place. -/
def placedUrl (url : Text) : Credential.Placement → Except EncodeError Text
  | .parameter name value => Url.appendParameter url name value
  | _ => .ok url

/-- The place of the credential of a request, if it has one. -/
def placement? : Option Credential → Except EncodeError Credential.Placement
  | none => .ok .nowhere
  | some c => c.placement

theorem placeCredential_ok {c : Option Credential} {url url' : Text} {f : Fields}
    (h : placeCredential c .empty url = .ok (f, url')) :
    ∃ place, placement? c = .ok place ∧ f.Holds (placedFields place) ∧
      placedUrl url place = .ok url' := by
  cases c with
  | none =>
    cases h
    exact ⟨.nowhere, rfl, Fields.holds_empty, rfl⟩
  | some c =>
    obtain ⟨place, hp, h⟩ := ok_of_bind h
    refine ⟨place, hp, ?_⟩
    cases place with
    | nowhere =>
      cases h
      exact ⟨Fields.holds_empty, rfl⟩
    | header name value =>
      obtain ⟨g, hs, h⟩ := ok_of_bind h
      cases h
      exact ⟨Fields.holds_empty.set hs, rfl⟩
    | parameter name value =>
      obtain ⟨u, ha, h⟩ := ok_of_bind h
      cases h
      exact ⟨Fields.holds_empty, ha⟩

namespace Outgoing

variable {o o' : Outgoing} {ts : TextFields}

/-- What a configured header does to a request. -/
inductive Adds (o : Outgoing) (name value : Text) : Outgoing → Prop
  /-- The content has a type of its own. -/
  | typed (content : isContentHeader (Text.lower name) = true)
      (type : Text.lower name = contentTypeKey)
      (known : o.contentHeaders.settle.hasName "content-type" = true) :
      Adds o name value { o with contentHeaders := o.contentHeaders.settle }
  | type {f} (content : isContentHeader (Text.lower name) = true)
      (type : Text.lower name = contentTypeKey)
      (unknown : o.contentHeaders.settle.hasName "content-type" = false)
      (set : o.contentHeaders.settle.set name value = .ok f) :
      Adds o name value { o with contentHeaders := f }
  | describing {f} (content : isContentHeader (Text.lower name) = true)
      (other : Text.lower name ≠ contentTypeKey) (set : o.contentHeaders.set name value = .ok f) :
      Adds o name value { o with contentHeaders := f }
  | known (other : isContentHeader (Text.lower name) = false)
      (known : o.headers.settle.has name = .ok true) :
      Adds o name value { o with headers := o.headers.settle }
  | new {f} (other : isContentHeader (Text.lower name) = false)
      (unknown : o.headers.settle.has name = .ok false)
      (set : o.headers.settle.set name value = .ok f) :
      Adds o name value { o with headers := f }

theorem adds_of_addHeader {header : Text × Text} (added : o.addHeader header = .ok o') :
    Adds o header.1 header.2 o' := by
  obtain ⟨name, value⟩ := header
  unfold addHeader at added
  dsimp only at added
  split at added
  · next content =>
    split at added
    · next type =>
      split at added
      · next known =>
        cases added
        exact .typed content type known
      · next unknown =>
        obtain ⟨f, set, added⟩ := ok_of_bind added
        cases added
        exact .type content type (Bool.eq_false_iff.2 unknown) set
    · next other =>
      obtain ⟨f, set, added⟩ := ok_of_bind added
      cases added
      exact .describing content other set
  · next other =>
    obtain ⟨found, looked, added⟩ := ok_of_bind added
    cases found with
    | true =>
      cases added
      exact .known (Bool.eq_false_iff.2 other) looked
    | false =>
      obtain ⟨f, set, added⟩ := ok_of_bind added
      cases added
      exact .new (Bool.eq_false_iff.2 other) looked set

/-- **A configured header** goes to the texts of the fields, or leaves them. -/
theorem addHeader_ok {header : Text × Text} (holds : o.headers.Holds ts)
    (added : o.addHeader header = .ok o') :
    o'.headers.Holds (ts.addHeader header) ∧ o'.url = o.url := by
  unfold TextFields.addHeader
  have settled := holds.settle
  cases adds_of_addHeader added with
  | typed content | type content | describing content =>
    rw [if_pos (.inl content)]
    exact ⟨holds, rfl⟩
  | known _ known =>
    rw [if_pos (.inr (settled.has known).symm)]
    exact ⟨settled, rfl⟩
  | new other unknown set =>
    rw [if_neg (by simp [other, ← settled.has unknown])]
    exact ⟨settled.set set, rfl⟩

theorem addHeaders_ok {headers : List (Text × Text)} (holds : o.headers.Holds ts)
    (added : headers.foldlM addHeader o = .ok o') :
    o'.headers.Holds (headers.foldl TextFields.addHeader ts) ∧ o'.url = o.url := by
  induction headers generalizing o ts with
  | nil =>
    cases added
    exact ⟨holds, rfl⟩
  | cons header rest ih =>
    rw [List.foldlM_cons] at added
    obtain ⟨next, ha, added⟩ := ok_of_bind added
    obtain ⟨holds', url_eq⟩ := addHeader_ok holds ha
    rw [← url_eq]
    exact ih holds' added

/-- The request is one that a description asks for: at its URL stand the parameters and what the
credential adds, and its header fields are texts, the credential's and the configured ones. -/
structure Built (r : RequestSpec) (place : Credential.Placement) (o : Outgoing) : Prop where
  placed : placement? r.credential = .ok place
  url : ∃ url, Url.appendParameters r.target.text r.query = .ok url ∧
    placedUrl url place = .ok o.url
  holds : o.headers.Holds (r.headers.entries.foldl TextFields.addHeader (placedFields place))

/-- **What a request is made of.** -/
theorem built_of_ofSpec {r : RequestSpec} (h : ofSpec r = .ok o) : ∃ place, Built r place o := by
  obtain ⟨url, hu, h⟩ := ok_of_bind h
  obtain ⟨⟨headers, url'⟩, hp, h⟩ := ok_of_bind h
  obtain ⟨place, placed, holds, placedAt⟩ := placeCredential_ok (ok_of_mapError hp)
  obtain ⟨content, -, h⟩ := ok_of_bind h
  have filled : ∃ filled : Outgoing, filled.headers = headers ∧ filled.url = url' ∧
      r.headers.entries.foldlM addHeader filled = .ok o := by
    cases content with
    | none =>
      obtain ⟨filled, hf, h⟩ := ok_of_bind h
      cases hf
      exact ⟨_, rfl, rfl, ok_of_mapError h⟩
    | some content =>
      obtain ⟨_, -, h⟩ := ok_of_bind h
      obtain ⟨_, -, h⟩ := ok_of_bind h
      exact ⟨_, rfl, rfl, ok_of_mapError h⟩
  obtain ⟨filled, rfl, rfl, added⟩ := filled
  obtain ⟨holds', url_eq⟩ := addHeaders_ok holds added
  refine ⟨place, placed, ⟨url, ok_of_mapError hu, ?_⟩, holds'⟩
  rw [url_eq]
  exact placedAt

end Outgoing

end HttpCourier.Wire
