import HttpCourier.Proofs.Computation
import HttpCourier.Proofs.Json.Writable
import HttpCourier.Request.Document

/-!
# HttpCourier.Proofs.Request.Reading

**What is read of a document, part by part.** A description takes its parts from the members of its
document (`RequestSpec.ReadFrom`). The reading ends without a fault of the configuration only at a
header or query value that cannot be written, and only if the URL and the method, which are read
before the mappings, are in order (`RequestSpec.unwritable_iff`).
-/

namespace HttpCourier

open Json (Value Members)

namespace Document

variable {members : Members} {key : String} {v : Value}

theorem mapText_ok_iff : (∃ t, mapText v = .ok t) ↔ v.Writable := by
  cases v with
  | null => exact iff_of_true ⟨_, rfl⟩ .null
  | string t => exact iff_of_true ⟨_, rfl⟩ (.string t)
  | _ => exact Json.valueText_ok_iff

/-- The values of the mapping under a key, if there is one, can be written. -/
def MapWritable (members : Members) (key : String) : Prop :=
  ∀ entries, members.get? (Text.ofString key) = some (.object entries) →
    ∀ e ∈ entries, e.2.Writable

theorem textMap_ok_iff : (∃ m, textMap members key = .ok m) ↔ MapWritable members key := by
  unfold textMap MapWritable
  split
  · next entries there =>
    rw [ok_map_iff, mapM_ok_iff]
    simp only [ok_map_iff, mapText_ok_iff]
    constructor
    · rintro writable _ same
      cases there.symm.trans same
      exact writable
    · exact fun writable => writable entries there
  · next other => exact iff_of_true ⟨_, rfl⟩ fun entries there => absurd there (other entries)

/-- All header and query values can be written. -/
def Writable (members : Members) : Prop :=
  MapWritable members "headers" ∧ MapWritable members "query"

theorem writable_iff : Writable members ↔
    ∃ headers query, textMap members "headers" = .ok headers ∧
      textMap members "query" = .ok query := by
  unfold Writable
  rw [← textMap_ok_iff, ← textMap_ok_iff]
  exact ⟨fun ⟨⟨headers, hh⟩, query, hq⟩ => ⟨headers, query, hh, hq⟩,
    fun ⟨headers, query, hh, hq⟩ => ⟨⟨headers, hh⟩, query, hq⟩⟩

/-- A header or query value cannot be written, and nothing is wrong with what is read before. -/
structure Unwritable (members : Members) : Prop where
  url : ∃ t, url members = .ok t
  method : ∃ m, method members = .ok m
  value : ¬ Writable members

end Document

namespace RequestSpec

variable {members : Members} {defaults : Document.Defaults} {spec : RequestSpec}

/-- What a description has from the members of its document. -/
structure ReadFrom (members : Members) (spec : RequestSpec) : Prop where
  target : members.get? "url" = some (.string spec.target.text)
  /-- A value under `body` is the body, whatever it looks like. -/
  body : spec.body = (members.find? "body").map .structured
  retry : Document.retry members = .ok spec.retry

theorem get?_of_url {target : { t : Text // Text.isBlank t = false }}
    (h : Document.url members = .ok target) : members.get? "url" = some (.string target.1) := by
  unfold Document.url at h
  split at h
  · next t found =>
    split at h
    · cases h
      exact found
    · cases h
  · cases h

theorem ofMembers_of_parts {target : { t : Text // Text.isBlank t = false }} {method : Method}
    {headers query : TextMap} (hu : Document.url members = .ok target)
    (hm : Document.method members = .ok method)
    (hh : Document.textMap members "headers" = .ok headers)
    (hq : Document.textMap members "query" = .ok query) (defaults : Document.Defaults) :
    ofMembers members defaults =
      (ofParts members defaults target method headers query).mapError .config := by
  unfold ofMembers
  rw [hu, hm, hh, hq]
  rfl

/-- **The parts of a description**, as they are read one after the other. -/
theorem readFrom_of_ofMembers (h : ofMembers members defaults = .ok spec) :
    ReadFrom members spec := by
  unfold ofMembers at h
  obtain ⟨target, url, h⟩ := ok_of_bind h
  have url := get?_of_url (ok_of_mapError url)
  iterate 3 obtain ⟨_, -, h⟩ := ok_of_bind h
  have h := ok_of_mapError h
  unfold ofParts at h
  -- The plan is the last of seven parts.
  iterate 6 obtain ⟨_, -, h⟩ := ok_of_bind h
  obtain ⟨plan, planned, h⟩ := ok_of_bind h
  split at h
  · obtain ⟨_, -, h⟩ := ok_of_bind h
    cases h
    exact ⟨url, rfl, planned⟩
  · cases h

/-- **What is let through**: nothing but the fault of a header or query value. -/
theorem unwritable_iff : (∃ f, ofMembers members defaults = .error (.unwritable f)) ↔
    Document.Unwritable members := by
  constructor
  · rintro ⟨f, h⟩
    unfold ofMembers at h
    rcases error_of_bind h with h | ⟨t, url, h⟩
    · obtain ⟨_, -, ⟨⟩⟩ := error_of_mapError h
    rcases error_of_bind h with h | ⟨m, method, h⟩
    · obtain ⟨_, -, ⟨⟩⟩ := error_of_mapError h
    refine ⟨⟨t, ok_of_mapError url⟩, ⟨m, ok_of_mapError method⟩, fun writable => ?_⟩
    obtain ⟨headers, query, hh, hq⟩ := Document.writable_iff.1 writable
    rw [hh, hq] at h
    obtain ⟨_, -, ⟨⟩⟩ := error_of_mapError h
  · rintro ⟨⟨t, url⟩, ⟨m, method⟩, value⟩
    unfold ofMembers
    rw [url, method]
    cases headers : Document.textMap members "headers" with
    | error f => exact ⟨f, rfl⟩
    | ok _ =>
      cases query : Document.textMap members "query" with
      | error f => exact ⟨f, rfl⟩
      | ok _ => exact absurd (Document.writable_iff.2 ⟨_, _, headers, query⟩) value

theorem ofMembers_ne_overlong (digits : Nat) :
    ofMembers members defaults ≠ .error (.overlongInteger digits) := by
  intro h
  unfold ofMembers at h
  iterate 4
    rcases error_of_bind h with h | ⟨_, -, h⟩
    · obtain ⟨_, -, ⟨⟩⟩ := error_of_mapError h
  obtain ⟨_, -, ⟨⟩⟩ := error_of_mapError h

end RequestSpec

end HttpCourier
