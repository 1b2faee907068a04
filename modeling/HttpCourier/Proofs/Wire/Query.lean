import HttpCourier.Proofs.Url.Form
import HttpCourier.Proofs.Wire.TextFields

/-!
# HttpCourier.Proofs.Wire.Query

**The parameters of a request reach its URL.** A request is sent to the URL of its description, with
the parameters of that URL, the configured ones and, where the credential is a key without a header
of its own, the key (`Outgoing.formPairs_queryOf`). Whatever the parameters hold, they can be read
back from the URL.
-/

namespace HttpCourier

namespace Credential

/-- The parameter in which a key is sent, if the credential is a key that goes to no header. -/
def keyParameter? (c : Credential) : Option (Text × Text) :=
  match c.scheme?, given? c.key, given? c.keyHeader, given? c.keyQueryParam with
  | some .apiKey, some key, none, some name => some (name, key)
  | _, _, _, _ => none

/-- What stands at a place in the URL. -/
def Placement.parameter? : Placement → Option (Text × Text)
  | .parameter name value => some (name, value)
  | _ => none

theorem parameter?_of_placement {c : Credential} {place : Placement}
    (h : c.placement = .ok place) : place.parameter? = c.keyParameter? := by
  unfold placement at h
  unfold keyParameter?
  split at h
  · next scheme =>
    rw [scheme]
    split at h
    · obtain ⟨_, -, rfl⟩ := ok_of_map h
      rfl
    · cases h
      rfl
  · next scheme =>
    rw [scheme]
    split at h <;> cases h <;> rfl
  · next scheme =>
    rw [scheme]
    split at h
    · next key given =>
      cases h
      rw [given]
      unfold keyPlacement
      generalize given? c.keyHeader = header, given? c.keyQueryParam = parameter
      cases header <;> cases parameter <;> rfl
    · next none =>
      cases h
      rw [none]
      rfl
  · next scheme =>
    cases h
    rw [scheme]
    rfl

end Credential

namespace Wire

theorem placedUrl_extends {c : Option Credential} {place : Credential.Placement} {url url' : Text}
    (placed : placement? c = .ok place) (h : CodePoint.ofChar '#' ∉ url)
    (placedAt : placedUrl url place = .ok url') :
    Url.Extends url' url (c.bind Credential.keyParameter?).toList := by
  have parameter : place.parameter? = c.bind Credential.keyParameter? := by
    cases c with
    | none =>
      cases placed
      rfl
    | some c => exact Credential.parameter?_of_placement placed
  rw [← parameter]
  cases place with
  | parameter name value => exact Url.extends_appendParameter h placedAt
  | _ =>
    cases placedAt
    exact .refl h

/-- **The parameters of a request** are those of the URL in its description, those that are
configured, in order, and the key of the credential if it is sent in a parameter. -/
theorem Outgoing.formPairs_queryOf {r : RequestSpec} {o : Outgoing} (built : ofSpec r = .ok o)
    (noFragment : CodePoint.ofChar '#' ∉ r.target.text) :
    Url.beforeQuery o.url = Url.beforeQuery r.target.text ∧
    Url.formPairs (Url.queryOf o.url) = Url.formPairs (Url.queryOf r.target.text) ++
      r.query.entries ++ (r.credential.bind Credential.keyParameter?).toList := by
  obtain ⟨place, request⟩ := built_of_ofSpec built
  obtain ⟨url, appended, placedAt⟩ := request.url
  have configured := Url.extends_appendParameters noFragment appended
  have whole := (placedUrl_extends request.placed configured.noFragment placedAt).trans configured
  exact ⟨whole.front, by rw [whole.pairs, List.append_assoc]⟩

/-- A request with parameters from all three places, and with separators in their texts. -/
def searching : RequestSpec where
  target := ⟨"https://h/a?x=%20&&y", by decide, by decide⟩
  method := .usual
  headers := .empty
  query := ⟨[("a&b", "=+%?#é"), ([], [])], by decide⟩
  body := none
  bodyRaw := none
  contentType := usualContentType
  timeout := .usual
  ignoreCertificateErrors := false
  followRedirects := true
  credential := some ⟨⟨"API_KEY", by decide, by decide⟩, none, none, none, some "1/2", some [],
    some "key"⟩
  retry := none

theorem Outgoing.formPairs_queryOf_searching :
    CodePoint.ofChar '#' ∉ searching.target.text ∧ ∃ o, ofSpec searching = .ok o ∧
      Url.formPairs (Url.queryOf o.url) =
        ([("x", " "), ("y", ""), ("a&b", "=+%?#é"), ("", ""), ("key", "1/2")] :
          List (Text × Text)) := by
  have noFragment : CodePoint.ofChar '#' ∉ searching.target.text := by decide
  have own : Url.formPairs (Url.queryOf searching.target.text) =
      ([("x", " "), ("y", "")] : List (Text × Text)) := by decide +kernel
  have key : (searching.credential.bind Credential.keyParameter?).toList =
      ([("key", "1/2")] : List (Text × Text)) := by decide +kernel
  have some_ : (ofSpec searching).toOption.isSome = true := by decide +kernel
  cases built : ofSpec searching with
  | error f =>
    rw [built] at some_
    cases some_
  | ok o =>
    refine ⟨noFragment, o, rfl, ?_⟩
    rw [(formPairs_queryOf built noFragment).2, own, key]
    rfl

end Wire

end HttpCourier
