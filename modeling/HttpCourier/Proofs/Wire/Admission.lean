import HttpCourier.Proofs.Wire.ContentType
import HttpCourier.Proofs.Wire.Order

/-!
# HttpCourier.Proofs.Wire.Admission

**Which configured headers a request takes.** A header is refused if the encoding of its fields does
not write it. Headers that describe content and all others go to fields of their own, so that either
kind can be looked at alone (`Outgoing.addHeaders_ok_iff`).

* The encoding of the other fields is fixed by the first of them, when only the credential is there:
  each header is admitted or not by itself (`Fields.addGenerals_ok_iff`).
* The encoding of the fields that describe content is fixed when a `Content-Type` comes up, by what
  is there then. Headers before it are written in UTF-8, and those behind it in ASCII if there is
  nothing else yet (`Fields.addDescribings_ok_iff`).
-/

namespace HttpCourier

namespace Wire

/-! ### Names that describe content -/

theorem isAscii_of_isContentHeader {name : Text} (h : isContentHeader (Text.lower name) = true) :
    name.isAscii = true := by
  have names : ∀ n ∈ contentHeaderNames.map Text.ofString, ∀ d ∈ n,
      ¬ (128 ≤ d.val ∨ d = CodePoint.ofChar 'k') := by decide +kernel
  refine List.all_eq_true.2 fun c hc => ?_
  by_contra beyond
  obtain ⟨d, hd, trace⟩ := Text.exists_mem_lower hc (Bool.eq_false_iff.2 beyond)
  exact names _ (List.contains_iff_mem.1 h) d hd trace

namespace Fields

variable {f g : Fields} {ts : TextFields} {header : Text × Text} {name value t : Text}
variable {headers : List (Text × Text)} {charset : Charset}

/-! ### Encodings -/

theorem writes_ascii : Writes .ascii t ↔ t.isAscii = true :=
  ⟨fun h => Text.isAscii_iff_holds.2 h.holds,
    fun h => ⟨Charset.noConfusion, Text.isAscii_iff_holds.1 h⟩⟩

theorem writes_of_isAscii (notLatin1 : charset ≠ .latin1) (h : t.isAscii = true) :
    Writes charset t := by
  cases charset with
  | ascii => exact writes_ascii.2 h
  | latin1 => exact absurd rfl notLatin1
  | utf8 => exact writes_utf8.2 (Text.scalar_of_isAscii h)

/-- A field is set if the encoding writes it. -/
theorem set_ok_iff (holds : f.Holds ts) :
    (∃ g, f.set name value = .ok g) ↔
      Writes f.writeCharset name ∧ Writes f.writeCharset value := by
  constructor
  · rintro ⟨g, h⟩
    obtain ⟨n, hn, h⟩ := ok_of_bind h
    obtain ⟨v, hv, -⟩ := ok_of_bind h
    exact ⟨(writes_of_encode hn holds.write.notLatin1).1,
      (writes_of_encode hv holds.write.notLatin1).1⟩
  · rintro ⟨hn, hv⟩
    unfold Fields.set
    rw [hn.encode, hv.encode]
    exact ⟨_, rfl⟩

theorem charset_set (h : f.set name value = .ok g) : g.charset = f.charset := by
  obtain ⟨n, -, h⟩ := ok_of_bind h
  obtain ⟨v, -, h⟩ := ok_of_bind h
  cases h
  exact charset_setBytes f n v

theorem charset_settle (f : Fields) : f.settle.charset = some f.lookupCharset := by
  unfold settle lookupCharset
  cases h : f.charset with
  | none => rfl
  | some charset => exact h

theorem lookupCharset_of_charset (h : f.charset = some charset) : f.lookupCharset = charset := by
  rw [lookupCharset, h, Option.getD_some]

theorem writeCharset_of_charset (h : f.charset = some charset) : f.writeCharset = charset := by
  rw [writeCharset, h, Option.getD_some]

/-- The encoding of fields in ASCII is fixed as ASCII. -/
theorem Holds.lookup_ascii (holds : f.Holds ts) (still : f.charset = none)
    (ascii : ∀ t ∈ ts, t.1.isAscii = true ∧ t.2.isAscii = true) : f.lookupCharset = .ascii := by
  have bytes : (f.entries.flatMap fun e => e.1 ++ e.2).all (fun b => b.toNat < 128) = true := by
    rw [holds.entries]
    simp only [List.all_eq_true, List.mem_flatMap, List.mem_map, List.mem_append,
      decide_eq_true_eq]
    rintro b ⟨_, ⟨t, ht, rfl⟩, hb⟩
    have small {u : Text} (hu : u.isAscii = true) (hb : b ∈ u.bytesIn .utf8) : b.toNat < 128 := by
      rw [← Text.bytesIn_of_isAscii hu] at hb
      obtain ⟨c, hc, hb⟩ := List.mem_flatMap.1 hb
      have here : c.val < 128 := of_decide_eq_true (List.all_eq_true.1 hu c hc)
      rw [List.mem_singleton.1 hb, Text.toNat_ofNat_of_lt (by omega)]
      exact here
    exact hb.elim (small (ascii t ht).1) (small (ascii t ht).2)
  rw [lookupCharset, still, Option.getD_none, fittingCharset]
  exact if_pos bytes

/-- The encoding of fields beyond ASCII is UTF-8. -/
theorem Holds.lookup_utf8 (holds : f.Holds ts) {t : Text × Text} (ht : t ∈ ts)
    (beyond : t.2.isAscii = false) : f.lookupCharset = .utf8 := by
  have writes := (holds.lookup.writes t ht).2
  cases charset : f.lookupCharset with
  | ascii =>
    rw [charset, writes_ascii, beyond] at writes
    cases writes
  | latin1 => exact absurd charset writes.notLatin1
  | utf8 => rfl

/-- Fields with names in ASCII can be put to any others. -/
theorem exists_update {us : TextFields} (hf : f.Holds ts) (hg : g.Holds us)
    (ascii : ∀ u ∈ us, u.1.isAscii = true) : ∃ h, f.update g = .ok h := by
  have suits : Suits (fittingCharset g.entries) us := by
    rw [hg.entries]
    exact suits_fittingCharset hg.scalar
  obtain ⟨keys, looked⟩ : ∃ keys, (us.map fun u => Text.asciiLower u.1).mapM f.settle.keyOf =
      .ok keys := by
    refine exists_mapM fun name hname => ?_
    obtain ⟨u, hu, rfl⟩ := List.mem_map.1 hname
    have writes : Writes f.settle.lookupCharset (Text.lower (Text.asciiLower u.1)) := by
      rw [Text.lower_asciiLower, Text.lower_of_isAscii (ascii u hu), writes_asciiLower]
      exact writes_of_isAscii hf.settle.lookup.notLatin1 (ascii u hu)
    exact ⟨_, writes.encode⟩
  unfold Fields.update
  dsimp only
  rw [hg.decode_keys suits, looked]
  exact ⟨_, rfl⟩

/-! ### Headers that do not describe content -/

/-- The fields with a header that does not describe content. -/
def addGeneral (f : Fields) (header : Text × Text) : Except EncodeError Fields := do
  let f := f.settle
  if ← f.has header.1 then return f else f.set header.1 header.2

/-- The encoding writes the name as it is looked up, and the header if that is new. -/
def Admits (charset : Charset) (ts : TextFields) (header : Text × Text) : Prop :=
  Writes charset (Text.lower header.1) ∧
    (ts.hasKey (Text.lower header.1) = true ∨ Writes charset header.1 ∧ Writes charset header.2)

theorem Holds.has_eq (holds : f.Holds ts) (writes : Writes f.lookupCharset (Text.lower name)) :
    f.has name = .ok (ts.hasKey (Text.lower name)) := by
  unfold Fields.has keyOf
  rw [writes.encode]
  exact congrArg Except.ok (holds.hasKey writes.scalar)

theorem addGeneral_ok_iff (holds : f.Holds ts) :
    (∃ g, f.addGeneral header = .ok g) ↔ Admits f.lookupCharset ts header := by
  have settled := holds.settle
  have lookup := lookupCharset_of_charset (charset_settle f)
  have write := writeCharset_of_charset (charset_settle f)
  unfold Admits
  rw [← lookup]
  constructor
  · rintro ⟨g, added⟩
    obtain ⟨found, looked, added⟩ := ok_of_bind added
    obtain ⟨k, encoded, -⟩ := ok_of_map looked
    have writes := (writes_of_encode encoded settled.lookup.notLatin1).1
    refine ⟨writes, ?_⟩
    cases settled.has looked
    split at added
    · next there => exact .inl there
    · have new := (set_ok_iff settled).1 ⟨g, added⟩
      rw [write, ← lookup] at new
      exact .inr new
  · rintro ⟨writes, admitted⟩
    unfold addGeneral
    dsimp only
    rw [settled.has_eq writes]
    cases there : ts.hasKey (Text.lower header.1) with
    | true => exact ⟨_, rfl⟩
    | false =>
      rw [there] at admitted
      have new := admitted.resolve_left Bool.false_ne_true
      rw [lookup, ← write] at new
      exact (set_ok_iff settled).2 new

theorem Holds.addGeneral (holds : f.Holds ts) (other : isContentHeader (Text.lower header.1) = false)
    (added : f.addGeneral header = .ok g) :
    g.Holds (ts.addHeader header) ∧ g.charset = some f.lookupCharset := by
  have settled := holds.settle
  obtain ⟨found, looked, added⟩ := ok_of_bind added
  have found_eq := settled.has looked
  unfold TextFields.addHeader
  cases found with
  | true =>
    cases added
    rw [if_pos (.inr found_eq.symm)]
    exact ⟨settled, charset_settle f⟩
  | false =>
    rw [if_neg (by simp [other, ← found_eq])]
    exact ⟨settled.set added, (charset_set added).trans (charset_settle f)⟩

/-- **Headers that do not describe content** are admitted each by itself. -/
theorem addGenerals_ok_iff (holds : f.Holds ts) (distinct : TextFields.Distinct headers)
    (others : ∀ h ∈ headers, isContentHeader (Text.lower h.1) = false) :
    (∃ g, headers.foldlM addGeneral f = .ok g) ↔ ∀ h ∈ headers, Admits f.lookupCharset ts h := by
  induction headers generalizing f ts with
  | nil => exact ⟨fun _ _ h => absurd h List.not_mem_nil, fun _ => ⟨f, rfl⟩⟩
  | cons header rest ih =>
    obtain ⟨here, later⟩ := List.forall_mem_cons.1 others
    obtain ⟨apart, distinct⟩ := List.pairwise_cons.1 distinct
    -- Whether a later header is there already does not depend on this one.
    have same : ∀ h ∈ rest, Admits f.lookupCharset (ts.addHeader header) h ↔
        Admits f.lookupCharset ts h := by
      intro h hh
      unfold Admits
      rw [TextFields.addHeader_eq_offer, TextFields.hasKey_offer (apart h hh)]
    rw [List.foldlM_cons, ok_bind_iff, List.forall_mem_cons, ← addGeneral_ok_iff holds]
    constructor
    · rintro ⟨g, added, ends⟩
      obtain ⟨holds', charset⟩ := holds.addGeneral here added
      rw [ih holds' distinct later, lookupCharset_of_charset charset] at ends
      exact ⟨⟨g, added⟩, fun h hh => (same h hh).1 (ends h hh)⟩
    · rintro ⟨⟨g, added⟩, ends⟩
      obtain ⟨holds', charset⟩ := holds.addGeneral here added
      refine ⟨g, added, (ih holds' distinct later).2 fun h hh => ?_⟩
      rw [lookupCharset_of_charset charset]
      exact (same h hh).2 (ends h hh)

/-! ### Headers that describe content -/

/-- The fields with a header that describes content. -/
def addDescribing (f : Fields) (header : Text × Text) : Except EncodeError Fields :=
  if Text.lower header.1 = contentTypeKey then
    let f := f.settle
    if f.hasName "content-type" then .ok f else f.set header.1 header.2
  else f.set header.1 header.2

theorem Holds.addDescribing (holds : f.Holds ts)
    (content : isContentHeader (Text.lower header.1) = true)
    (added : f.addDescribing header = .ok g) :
    g.Holds (ts.addContentHeader header) ∧
      g.charset = if Text.lower header.1 = contentTypeKey then some f.lookupCharset
        else f.charset := by
  unfold Fields.addDescribing at added
  unfold TextFields.addContentHeader
  rw [if_pos content]
  by_cases type : Text.lower header.1 = contentTypeKey
  · have settled := holds.settle
    have known := settled.hasName_contentType
    rw [if_pos type] at added ⊢
    dsimp only at added
    split at added
    · next there =>
      cases added
      rw [if_pos ⟨type, known ▸ there⟩]
      exact ⟨settled, charset_settle f⟩
    · next missing =>
      rw [if_neg fun there => missing (known ▸ there.2)]
      exact ⟨settled.set added, (charset_set added).trans (charset_settle f)⟩
  · rw [if_neg type] at added ⊢
    rw [if_neg fun there => type there.1]
    exact ⟨holds.set added, charset_set added⟩

/-- A header with a type is taken if the content has one, or if the encoding writes it. -/
theorem addType_ok_iff (holds : f.Holds ts) (type : Text.lower header.1 = contentTypeKey) :
    (∃ g, f.addDescribing header = .ok g) ↔
      ts.hasKey contentTypeKey = true ∨ Writes f.lookupCharset header.2 := by
  have settled := holds.settle
  have ascii : header.1.isAscii = true := by
    refine isAscii_of_isContentHeader ?_
    rw [type]
    decide
  unfold Fields.addDescribing
  rw [if_pos type]
  dsimp only
  rw [settled.hasName_contentType]
  cases ts.hasKey contentTypeKey with
  | true => exact ⟨fun _ => .inl rfl, fun _ => ⟨_, rfl⟩⟩
  | false =>
    rw [if_neg Bool.false_ne_true, set_ok_iff settled, writeCharset_of_charset (charset_settle f)]
    simp only [writes_of_isAscii holds.lookup.notLatin1 ascii, true_and, Bool.false_eq_true,
      false_or]

/-- The headers describe content, and none of them gives its type. -/
def Typeless (headers : List (Text × Text)) : Prop :=
  ∀ h ∈ headers, isContentHeader (Text.lower h.1) = true ∧ Text.lower h.1 ≠ contentTypeKey

theorem Holds.addDescribings (holds : f.Holds ts) (typeless : Typeless headers)
    (added : headers.foldlM Fields.addDescribing f = .ok g) :
    g.Holds (headers.foldl TextFields.addContentHeader ts) ∧ g.charset = f.charset := by
  induction headers generalizing f ts with
  | nil =>
    cases added
    exact ⟨holds, rfl⟩
  | cons header rest ih =>
    obtain ⟨⟨content, other⟩, typeless⟩ := List.forall_mem_cons.1 typeless
    rw [List.foldlM_cons] at added
    obtain ⟨next, here, added⟩ := ok_of_bind added
    obtain ⟨holds', charset⟩ := holds.addDescribing content here
    rw [if_neg other] at charset
    rw [← charset]
    exact ih holds' typeless added

/-- **Headers that describe content** but give it no type are admitted each by itself. -/
theorem addDescribings_ok_iff (holds : f.Holds ts) (typeless : Typeless headers) :
    (∃ g, headers.foldlM addDescribing f = .ok g) ↔
      ∀ h ∈ headers, Writes f.writeCharset h.2 := by
  induction headers generalizing f ts with
  | nil => exact ⟨fun _ _ h => absurd h List.not_mem_nil, fun _ => ⟨f, rfl⟩⟩
  | cons header rest ih =>
    obtain ⟨⟨content, other⟩, typeless⟩ := List.forall_mem_cons.1 typeless
    have here : (∃ g, f.addDescribing header = .ok g) ↔ Writes f.writeCharset header.2 := by
      unfold addDescribing
      rw [if_neg other, set_ok_iff holds]
      exact and_iff_right
        (writes_of_isAscii holds.write.notLatin1 (isAscii_of_isContentHeader content))
    have later {g : Fields} (added : f.addDescribing header = .ok g) :
        (∃ g', rest.foldlM addDescribing g = .ok g') ↔ ∀ h ∈ rest, Writes f.writeCharset h.2 := by
      obtain ⟨holds', charset⟩ := holds.addDescribing content added
      rw [ih holds' typeless, writeCharset, charset, if_neg other]
      rfl
    rw [List.foldlM_cons, ok_bind_iff, List.forall_mem_cons, ← here]
    constructor
    · rintro ⟨g, added, ends⟩
      exact ⟨⟨g, added⟩, (later added).1 ends⟩
    · rintro ⟨⟨g, added⟩, ends⟩
      exact ⟨g, added, (later added).2 ends⟩

theorem hasKey_addContentHeaders {type : Text × Text}
    (isType : Text.lower type.1 = contentTypeKey) (typeless : Typeless headers) :
    (headers.foldl TextFields.addContentHeader ts).hasKey contentTypeKey =
      ts.hasKey contentTypeKey := by
  induction headers generalizing ts with
  | nil => rfl
  | cons header rest ih =>
    obtain ⟨⟨-, other⟩, typeless⟩ := List.forall_mem_cons.1 typeless
    rw [List.foldl_cons, ih typeless, TextFields.addContentHeader_eq_offer, ← isType,
      TextFields.hasKey_offer (isType ▸ other)]

/-- **Headers that describe content, around one that gives its type.** What stands behind that one
is written in the encoding that is fixed there, and so is the type itself, if it is taken. -/
theorem addDescribings_around_iff {pre post : List (Text × Text)} {type : Text × Text}
    (holds : f.Holds ts) (before : Typeless pre) (isType : Text.lower type.1 = contentTypeKey)
    (behind : Typeless post) :
    (∃ g, (pre ++ type :: post).foldlM addDescribing f = .ok g) ↔
      ∃ g, pre.foldlM addDescribing f = .ok g ∧
        (ts.hasKey contentTypeKey = true ∨ Writes g.lookupCharset type.2) ∧
        ∀ h ∈ post, Writes g.lookupCharset h.2 := by
  have content : isContentHeader (Text.lower type.1) = true := by
    rw [isType]
    decide
  rw [List.foldlM_append, ok_bind_iff]
  refine exists_congr fun g => and_congr_right fun reached => ?_
  obtain ⟨holds', -⟩ := holds.addDescribings before reached
  have here := addType_ok_iff holds' isType
  rw [hasKey_addContentHeaders isType before] at here
  have later {g' : Fields} (added : g.addDescribing type = .ok g') :
      (∃ h, post.foldlM addDescribing g' = .ok h) ↔ ∀ h ∈ post, Writes g.lookupCharset h.2 := by
    obtain ⟨typed, charset⟩ := holds'.addDescribing content added
    rw [if_pos isType] at charset
    rw [addDescribings_ok_iff typed behind, writeCharset_of_charset charset]
  rw [List.foldlM_cons, ok_bind_iff, ← here]
  constructor
  · rintro ⟨g', added, ends⟩
    exact ⟨⟨g', added⟩, (later added).1 ends⟩
  · rintro ⟨⟨g', added⟩, ends⟩
    exact ⟨g', added, (later added).2 ends⟩

end Fields

/-! ### Headers that describe the content of a request -/

section Describing

variable {f : Fields} {content : Option (Text × Text)} {headers : List (Text × Text)}

open Fields

/-- The order of headers that describe content does not matter: none of them gives a type, or all
others are in ASCII, or the content has a type of its own beyond ASCII. -/
def Steady (content : Option (Text × Text)) (headers : List (Text × Text)) : Prop :=
  (∀ h ∈ headers, Text.lower h.1 ≠ contentTypeKey) ∨
    (∀ h ∈ headers, isContentHeader (Text.lower h.1) = true → Text.lower h.1 ≠ contentTypeKey →
      h.2.isAscii = true) ∨
    ∃ c, content = some c ∧ c.2.isAscii = false

theorem Steady.of_perm {headers' : List (Text × Text)} (steady : Steady content headers)
    (order : headers'.Perm headers) : Steady content headers' :=
  steady.imp (fun untyped h hh => untyped h (order.mem_iff.1 hh))
    (Or.imp_left fun ascii h hh => ascii h (order.mem_iff.1 hh))

theorem Steady.filter (steady : Steady content headers) (p : Text × Text → Bool) :
    Steady content (headers.filter p) :=
  steady.imp (fun untyped h hh => untyped h (List.mem_of_mem_filter hh))
    (Or.imp_left fun ascii h hh => ascii h (List.mem_of_mem_filter hh))

/-- All headers are texts, and one that gives a type is in ASCII or has no effect. -/
def Describable (content : Option (Text × Text)) (headers : List (Text × Text)) : Prop :=
  ∀ h ∈ headers, if Text.lower h.1 = contentTypeKey then content ≠ none ∨ h.2.isAscii = true
    else h.2.Scalar

theorem hasKey_typeFields :
    (typeFields content).hasKey contentTypeKey = true ↔ content ≠ none := by
  cases content with
  | none => simp [typeFields, TextFields.hasKey]
  | some c => exact iff_of_true rfl (Option.some_ne_none c)

theorem isAscii_append {t u : Text} :
    Text.isAscii (t ++ u) = true ↔ t.isAscii = true ∧ u.isAscii = true := by
  unfold Text.isAscii
  rw [List.all_append, Bool.and_eq_true]

theorem isAscii_withCharset {t : Text} : (withCharset t).isAscii = t.isAscii := by
  unfold withCharset
  split
  · rfl
  · rw [Bool.eq_iff_iff, isAscii_append]
    exact and_iff_left (by decide)

variable {pre post : List (Text × Text)} {type : Text × Text}

theorem describable_around_iff (before : Typeless pre)
    (isType : Text.lower type.1 = contentTypeKey) (behind : Typeless post) :
    Describable content (pre ++ type :: post) ↔
      (∀ h ∈ pre, h.2.Scalar) ∧ (content ≠ none ∨ type.2.isAscii = true) ∧
        ∀ h ∈ post, h.2.Scalar := by
  have plain {headers : List (Text × Text)} (typeless : Typeless headers) :
      Describable content headers ↔ ∀ h ∈ headers, h.2.Scalar :=
    forall₂_congr fun h hh => by rw [if_neg (typeless h hh).2]
  rw [← plain before, ← plain behind]
  unfold Describable
  rw [List.forall_mem_append, List.forall_mem_cons, if_pos isType]

/-- In the cases in which their order does not matter, the encoding that is fixed at the type is as
good as UTF-8 for what stands behind it, and as good as ASCII for a type that is taken. -/
theorem writes_iff_of_steady (holds : f.Holds (pre.foldl TextFields.addContentHeader
      (typeFields content))) (still : f.charset = none)
    (before : Typeless pre) (isType : Text.lower type.1 = contentTypeKey) (behind : Typeless post)
    (steady : Steady content (pre ++ type :: post)) :
    ((content ≠ none ∨ Writes f.lookupCharset type.2) ↔
        content ≠ none ∨ type.2.isAscii = true) ∧
      ((∀ h ∈ post, Writes f.lookupCharset h.2) ↔ ∀ h ∈ post, h.2.Scalar) := by
  rcases steady with untyped | ascii | ⟨c, rfl, beyond⟩
  · exact absurd isType (untyped type (by simp))
  · constructor
    · cases content with
      | some c => exact iff_of_true (.inl (Option.some_ne_none c)) (.inl (Option.some_ne_none c))
      | none =>
        -- Without content there is nothing but what stands in front, and that is in ASCII.
        have fixed : f.lookupCharset = .ascii := by
          refine holds.lookup_ascii still fun t ht => ?_
          rcases TextFields.mem_addContentHeaders ht with ht | ⟨ht, -⟩
          · cases ht
          · obtain ⟨content, other⟩ := before t ht
            exact ⟨isAscii_of_isContentHeader content,
              ascii t (List.mem_append_left _ ht) content other⟩
        rw [fixed, writes_ascii]
    · refine forall₂_congr fun h hh => ?_
      obtain ⟨content, other⟩ := behind h hh
      have here := ascii h (List.mem_append_right _ (List.mem_cons_of_mem _ hh)) content other
      exact iff_of_true (writes_of_isAscii holds.lookup.notLatin1 here)
        (Text.scalar_of_isAscii here)
  · -- The content's own type is beyond ASCII and is there, so that only UTF-8 fits.
    have own : (pre.foldl TextFields.addContentHeader (typeFields (some c))).valuesOf
        contentTypeKey = [withCharset c.2] := valuesOf_typeFields c pre
    obtain ⟨t, ht, value⟩ : ∃ t ∈ pre.foldl TextFields.addContentHeader (typeFields (some c)),
        t.2 = withCharset c.2 := by
      have there : withCharset c.2 ∈ (pre.foldl TextFields.addContentHeader
          (typeFields (some c))).valuesOf contentTypeKey := by
        rw [own]
        exact List.mem_singleton_self _
      obtain ⟨t, ht, value⟩ := List.mem_map.1 there
      exact ⟨t, (List.mem_filter.1 ht).1, value⟩
    have fixed : f.lookupCharset = .utf8 :=
      holds.lookup_utf8 ht (by rw [value, isAscii_withCharset, beyond])
    have given := Option.some_ne_none c
    exact ⟨iff_of_true (.inl given) (.inl given), by simp only [fixed, writes_utf8]⟩

theorem typeless_around (distinct : TextFields.Distinct (pre ++ type :: post))
    (isType : Text.lower type.1 = contentTypeKey)
    (all : ∀ h ∈ pre ++ type :: post, isContentHeader (Text.lower h.1) = true) :
    Typeless pre ∧ Typeless post := by
  obtain ⟨-, behind, before⟩ := List.pairwise_append.1 distinct
  refine ⟨fun h hh => ⟨all h (List.mem_append_left _ hh), ?_⟩, fun h hh =>
    ⟨all h (List.mem_append_right _ (List.mem_cons_of_mem _ hh)), ?_⟩⟩
  · rw [← isType]
    exact before h hh type List.mem_cons_self
  · rw [← isType]
    exact ((List.pairwise_cons.1 behind).1 h hh).symm

/-- **Headers that describe content**, where their order does not matter. -/
theorem addDescribings_ok_iff_of_steady (holds : f.Holds (typeFields content))
    (still : f.charset = none) (distinct : TextFields.Distinct headers)
    (all : ∀ h ∈ headers, isContentHeader (Text.lower h.1) = true)
    (steady : Steady content headers) :
    (∃ g, headers.foldlM addDescribing f = .ok g) ↔ Describable content headers := by
  have write : f.writeCharset = .utf8 := by rw [writeCharset, still, Option.getD_none]
  by_cases typed : ∃ h ∈ headers, Text.lower h.1 = contentTypeKey
  · obtain ⟨type, mem, isType⟩ := typed
    obtain ⟨pre, post, rfl⟩ := List.append_of_mem mem
    obtain ⟨before, behind⟩ := typeless_around distinct isType all
    have first := addDescribings_ok_iff holds before
    simp only [write, writes_utf8] at first
    rw [addDescribings_around_iff holds before isType behind, hasKey_typeFields,
      describable_around_iff before isType behind, ← first]
    have fixed {g : Fields} (reached : pre.foldlM addDescribing f = .ok g) := by
      obtain ⟨holds', charset⟩ := holds.addDescribings before reached
      exact writes_iff_of_steady holds' (charset.trans still) before isType behind steady
    constructor
    · rintro ⟨g, reached, taken, later⟩
      exact ⟨⟨g, reached⟩, (fixed reached).1.1 taken, (fixed reached).2.1 later⟩
    · rintro ⟨⟨g, reached⟩, taken, later⟩
      exact ⟨g, reached, (fixed reached).1.2 taken, (fixed reached).2.2 later⟩
  · push Not at typed
    have typeless : Typeless headers := fun h hh => ⟨all h hh, typed h hh⟩
    rw [addDescribings_ok_iff holds typeless]
    unfold Describable
    refine forall₂_congr fun h hh => ?_
    rw [if_neg (typed h hh), write, writes_utf8]

/-- **A type in front fixes ASCII**, so that a header beyond ASCII is refused behind it. -/
theorem not_addDescribings_of_type_first (holds : f.Holds (typeFields content))
    (still : f.charset = none) (isType : Text.lower type.1 = contentTypeKey)
    (behind : Typeless post) (own : ∀ c, content = some c → c.2.isAscii = true)
    {h : Text × Text} (hh : h ∈ post) (beyond : h.2.isAscii = false) :
    ¬ ∃ g, (type :: post).foldlM addDescribing f = .ok g := by
  have none : Typeless [] := fun h hh => absurd hh List.not_mem_nil
  intro ends
  obtain ⟨g, reached, -, later⟩ :=
    (addDescribings_around_iff holds none isType behind).1 ends
  cases reached
  have fixed : f.lookupCharset = .ascii := by
    refine holds.lookup_ascii still fun t ht => ?_
    obtain ⟨c, given, rfl⟩ := List.mem_map.1 ht
    refine ⟨show contentTypeName.isAscii = true by decide, ?_⟩
    rw [isAscii_withCharset]
    exact own c (Option.mem_toList.1 given)
  have here := later h hh
  rw [fixed, writes_ascii, beyond] at here
  cases here

end Describing

/-! ### All headers -/

namespace Outgoing

variable {o o' : Outgoing} {headers : List (Text × Text)}

/-- A header goes to the fields of its kind. -/
theorem addHeader_eq (o : Outgoing) (header : Text × Text) : o.addHeader header =
    if isContentHeader (Text.lower header.1) then
      (o.contentHeaders.addDescribing header).map fun f => { o with contentHeaders := f }
    else (o.headers.addGeneral header).map fun f => { o with headers := f } := by
  obtain ⟨name, value⟩ := header
  unfold addHeader Fields.addDescribing Fields.addGeneral
  dsimp only
  split
  · split
    · split
      · rfl
      · cases o.contentHeaders.settle.set name value <;> rfl
    · cases o.contentHeaders.set name value <;> rfl
  · cases o.headers.settle.has name with
    | error e => rfl
    | ok found =>
      cases found with
      | true => rfl
      | false =>
        show _ = Except.map _ (o.headers.settle.set name value)
        cases o.headers.settle.set name value <;> rfl

/-- **Configured headers are taken** if those that describe content are, and all others. -/
theorem addHeaders_ok_iff : (∃ o', headers.foldlM addHeader o = .ok o') ↔
    (∃ f, (headers.filter fun h => !isContentHeader (Text.lower h.1)).foldlM Fields.addGeneral
      o.headers = .ok f) ∧
    ∃ f, (headers.filter fun h => isContentHeader (Text.lower h.1)).foldlM Fields.addDescribing
      o.contentHeaders = .ok f := by
  -- By induction over the headers: each goes to the fields of its kind, and leaves the other alone.
  induction headers generalizing o with
  | nil => exact iff_of_true ⟨o, rfl⟩ ⟨⟨_, rfl⟩, _, rfl⟩
  | cons header rest ih =>
    rw [List.foldlM_cons, addHeader_eq, ok_bind_iff]
    cases content : isContentHeader (Text.lower header.1) with
    | true =>
      rw [List.filter_cons_of_neg (by simp [content]), List.filter_cons_of_pos (by simp [content]),
        List.foldlM_cons, ok_bind_iff, if_pos rfl]
      constructor
      · rintro ⟨o', added, ends⟩
        obtain ⟨f, taken, rfl⟩ := ok_of_map added
        obtain ⟨general, describing⟩ := ih.1 ends
        exact ⟨general, f, taken, describing⟩
      · rintro ⟨general, f, taken, describing⟩
        exact ⟨_, congrArg (Except.map _) taken, ih.2 ⟨general, describing⟩⟩
    | false =>
      rw [List.filter_cons_of_pos (by simp [content]), List.filter_cons_of_neg (by simp [content]),
        List.foldlM_cons, ok_bind_iff, if_neg Bool.false_ne_true]
      constructor
      · rintro ⟨o', added, ends⟩
        obtain ⟨f, taken, rfl⟩ := ok_of_map added
        obtain ⟨general, describing⟩ := ih.1 ends
        exact ⟨⟨f, taken, general⟩, describing⟩
      · rintro ⟨⟨f, taken, general⟩, describing⟩
        exact ⟨_, congrArg (Except.map _) taken, ih.2 ⟨general, describing⟩⟩

end Outgoing

end Wire

end HttpCourier
