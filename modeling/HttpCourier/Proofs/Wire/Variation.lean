import HttpCourier.Proofs.Redaction
import HttpCourier.Proofs.Wire.TextFields
import HttpCourier.Url.Form

/-!
# HttpCourier.Proofs.Wire.Variation

**Requests that differ in one value**, which is that of the first header field, or that of the last
parameter of the URL. Further headers leave the difference where it is, or do away with it
(`TextFields.Varies.addHeader`). In the mapping that the fields are then, and in the headers as they
are logged, only the value of that one name can differ, and it does not if the name is sensitive
(`Redaction.headers_eq_of_sensitive`).

A parameter at the end of a URL is logged as it is: form-encoded, it has no at sign, so that it
takes no part in what is redacted (`Redaction.url_appendParameter`).
-/

namespace HttpCourier

/-- The same name and the same value; the values may differ if the name is a given one. -/
structure AgreeBut (key : Text) (t u : Text × Text) : Prop where
  name : u.1 = t.1
  value : t.1 ≠ key → u.2 = t.2

theorem AgreeBut.refl (key : Text) (t : Text × Text) : AgreeBut key t t := ⟨rfl, fun _ => rfl⟩

/-! ### Header fields -/

namespace Wire.TextFields

/-- The same fields, or fields that differ in the value of the first one. That one has the name,
and no other field is looked up when the name is. -/
inductive Varies (name : Text) : TextFields → TextFields → Prop
  | same (ts : TextFields) : Varies name ts ts
  | first {rest : TextFields} (others : ∀ t ∈ rest, Text.lower t.1 ≠ Text.asciiLower name)
      (value value' : Text) : Varies name ((name, value) :: rest) ((name, value') :: rest)

variable {name : Text} {ts us : TextFields}

/-- **A configured header** leaves the difference where it is, or replaces it. -/
theorem Varies.addHeader (h : Varies name ts us) (header : Text × Text) :
    Varies name (ts.addHeader header) (us.addHeader header) := by
  cases h with
  | same ts => exact .same _
  | @first rest others value value' =>
    -- Which fields there are does not depend on the values.
    have known (v : Text) (key : Text) :
        hasKey ((name, v) :: rest) key = (decide (Text.asciiLower name = key) || hasKey rest key) :=
      rfl
    unfold TextFields.addHeader
    rw [known, known]
    split
    · exact .first others value value'
    · next new =>
      have other : Text.lower header.1 ≠ Text.asciiLower name := by
        intro same
        exact new (.inr (by rw [same, decide_eq_true rfl, Bool.true_or]))
      unfold TextFields.set
      rw [known, known]
      split
      · unfold replaceFirst
        split
        · exact .same _
        · refine .first (fun t ht => ?_) value value'
          rcases mem_replaceFirst ht with ht | rfl
          · exact others t ht
          · exact other
      · refine .first (fun t ht => ?_) value value'
        rcases List.mem_append.1 ht with ht | ht
        · exact others t ht
        · rw [List.mem_singleton.1 ht]
          exact other

theorem Varies.addHeaders (h : Varies name ts us) (headers : List (Text × Text)) :
    Varies name (headers.foldl TextFields.addHeader ts) (headers.foldl TextFields.addHeader us) := by
  induction headers generalizing ts us with
  | nil => exact h
  | cons header rest ih => exact ih (h.addHeader header)

/-- **Fields that differ in one value** are mappings that agree but for its name. -/
theorem Varies.items (h : Varies name ts us) :
    InStep (List.Forall₂ (AgreeBut (Text.asciiLower name))) ts.items us.items := by
  cases h with
  | same ts => exact .refl (fun l => List.forall₂_same.2 fun t _ => .refl _ t) _
  | @first rest others value value' =>
    unfold TextFields.items
    refine inStep_mapM fun n hn => ?_
    have values (v : Text) : valuesOf ((name, v) :: rest) (Text.lower n) =
        (if Text.asciiLower name = Text.lower n then [v] else []) ++
          valuesOf rest (Text.lower n) := by
      unfold valuesOf
      by_cases found : Text.asciiLower name = Text.lower n <;> simp [found]
    dsimp only
    rw [values, values]
    by_cases found : Text.asciiLower name = Text.lower n
    · -- No other field is found under the key, so that it is the name's own.
      have own : n = Text.asciiLower name := by
        rcases List.mem_cons.1 (List.mem_eraseDups.1 hn) with own | hn
        · exact own
        · obtain ⟨t, ht, rfl⟩ := List.mem_map.1 hn
          rw [Text.lower_asciiLower] at found
          exact absurd found.symm (others t ht)
      rw [if_pos found, if_pos found]
      exact InStep.ok (AgreeBut.mk rfl fun foreign => absurd own foreign)
    · rw [if_neg found, if_neg found]
      exact .refl (AgreeBut.refl _) _

end Wire.TextFields

/-! ### What is logged -/

namespace Redaction

variable {patterns : List Text} {key : Text} {entries entries' : List (Text × Text)}

/-- The case of ASCII letters does not make a name more or less sensitive. -/
theorem isSensitive_asciiLower (patterns : List Text) (name : Text) :
    isSensitive patterns (Text.asciiLower name) = isSensitive patterns name := by
  unfold isSensitive
  rw [Text.lower_asciiLower]

theorem headers_agreeBut (patterns : List Text) (h : List.Forall₂ (AgreeBut key) entries entries') :
    List.Forall₂ (AgreeBut key) (headers patterns entries) (headers patterns entries') := by
  refine List.rel_map (fun t u agree => ?_) h
  obtain ⟨n, v⟩ := t
  obtain ⟨m, w⟩ := u
  obtain ⟨rfl, same⟩ := agree
  refine ⟨rfl, fun other => ?_⟩
  have equal : w = v := same other
  rw [equal]

/-- **The value of a sensitive name** is not logged. -/
theorem headers_eq_of_sensitive (sensitive : isSensitive patterns key = true)
    (h : List.Forall₂ (AgreeBut key) entries entries') :
    headers patterns entries' = headers patterns entries := by
  induction h with
  | nil => rfl
  | @cons t u _ _ agree _ ih =>
    obtain ⟨n, v⟩ := t
    obtain ⟨m, w⟩ := u
    obtain ⟨rfl, same⟩ := agree
    refine List.cons_eq_cons.2 ⟨Prod.ext rfl ?_, ih⟩
    show value patterns m w = value patterns m v
    by_cases own : m = key
    · rw [own, value, value, if_pos sensitive, if_pos sensitive]
    · have equal : w = v := same own
      rw [equal]

end Redaction

/-! ### Parameters -/

namespace Url

theorem at_notMem_formByte (b : UInt8) : CodePoint.ofChar '@' ∉ formByte b := by
  have all : ∀ i : Fin 256, CodePoint.ofChar '@' ∉ formByte (UInt8.ofNat i) := by decide +kernel
  have here := all ⟨b.toNat, b.toNat_lt⟩
  rwa [UInt8.ofNat_toNat] at here

theorem at_notMem_formEncode {t encoded : Text} (h : formEncode t = .ok encoded) :
    CodePoint.ofChar '@' ∉ encoded := by
  obtain ⟨bytes, -, rfl⟩ := ok_of_map h
  intro found
  obtain ⟨b, -, hb⟩ := List.mem_flatMap.1 found
  exact at_notMem_formByte b hb

/-- What the URL is in front of the value of a further parameter. -/
def upToValue (url encodedName : Text) : Text :=
  url ++ [separator url] ++ (encodedName ++ [CodePoint.ofChar '='])

end Url

/-- **A further parameter** is logged as it is, form-encoded, at the end of the URL. -/
theorem Redaction.url_appendParameter {url name value url' : Text}
    (h : Url.appendParameter url name value = .ok url') :
    ∃ n v, Url.formEncode name = .ok n ∧ Url.formEncode value = .ok v ∧
      Redaction.url url' = Redaction.url (Url.upToValue url n) ++ v := by
  obtain ⟨pair, hp, rfl⟩ := ok_of_map h
  obtain ⟨n, hn, hp⟩ := ok_of_bind hp
  obtain ⟨v, hv, hp⟩ := ok_of_bind hp
  cases hp
  have apart : url ++ [Url.separator url] ++ (n ++ [CodePoint.ofChar '='] ++ v) =
      Url.upToValue url n ++ v := by
    simp [Url.upToValue]
  refine ⟨n, v, hn, hv, ?_⟩
  rw [← url_append (Url.at_notMem_formEncode hv), ← apart]

end HttpCourier
