import HttpCourier.Proofs.Request.TextMap
import HttpCourier.Proofs.Url.Form

/-!
# HttpCourier.Proofs.Url.Batch

**Parameters appended at once and one by one.** The batch looks for a question mark in the URL as
it is given, and joins the encoded pairs by `&`; a single parameter looks for one in the URL as it
has become. These come to the same (`Url.appendParameters_eq_appendEach`): behind the first pair the
URL has a question mark, whatever the pair is, so that every further one follows a `&`.
-/

namespace HttpCourier

namespace Url

variable {url url' : Text}

/-- The URL with parameters, appended one by one. -/
def appendEach (url : Text) (entries : List (Text × Text)) : Except EncodeError Text :=
  entries.foldlM (fun url (n, v) => appendParameter url n v) url

theorem appendEach_append (url : Text) (entries further : List (Text × Text)) :
    appendEach url (entries ++ further) =
      appendEach url entries >>= fun url => appendEach url further :=
  List.foldlM_append

/-- Behind a first parameter there is a question mark. -/
theorem mem_of_appendParameter {name value : Text} (h : appendParameter url name value = .ok url') :
    CodePoint.ofChar '?' ∈ url' := by
  obtain ⟨pair, -, rfl⟩ := ok_of_map h
  by_cases mark : CodePoint.ofChar '?' ∈ url
  · simp [mark]
  · have sign : separator url = CodePoint.ofChar '?' :=
      if_neg fun found => mark (List.contains_iff_mem.1 found)
    simp [sign]

/-- The parameters as pairs, form-encoded. -/
def encodeEach (entries : List (Text × Text)) : Except EncodeError (List Text) :=
  entries.mapM fun (n, v) => formPair n v

theorem encodeEach_cons (name value : Text) (entries : List (Text × Text)) :
    encodeEach ((name, value) :: entries) =
      formPair name value >>= fun pair => (encodeEach entries).map (pair :: ·) := by
  rw [encodeEach, List.mapM_cons]
  show (formPair name value >>= fun pair =>
    encodeEach entries >>= fun pairs => .ok (pair :: pairs)) = _
  cases formPair name value with
  | error e => rfl
  | ok pair => cases encodeEach entries <;> rfl

/-- Where there is a question mark each parameter follows a `&`. -/
theorem appendEach_of_mem (mark : CodePoint.ofChar '?' ∈ url) (entries : List (Text × Text)) :
    appendEach url entries = (encodeEach entries).map
      fun (pairs : List Text) => url ++ pairs.flatMap (CodePoint.ofChar '&' :: ·) := by
  induction entries generalizing url with
  | nil => exact congrArg Except.ok (List.append_nil url).symm
  | cons entry entries ih =>
    obtain ⟨n, v⟩ := entry
    have sign : separator url = CodePoint.ofChar '&' := if_pos (List.contains_iff_mem.2 mark)
    show (appendParameter url n v >>= fun url => appendEach url entries) = _
    rw [appendParameter, sign, encodeEach_cons]
    cases formPair n v with
    | error e => rfl
    | ok pair =>
      have still : CodePoint.ofChar '?' ∈ url ++ [CodePoint.ofChar '&'] ++ pair := by simp [mark]
      have joined (pairs : List Text) : url ++ [CodePoint.ofChar '&'] ++ pair ++
          pairs.flatMap (CodePoint.ofChar '&' :: ·) =
            url ++ (pair :: pairs).flatMap (CodePoint.ofChar '&' :: ·) := by
        simp
      show appendEach (url ++ [CodePoint.ofChar '&'] ++ pair) entries =
        ((encodeEach entries).map (pair :: ·)).map _
      rw [ih still, map_map]
      exact congrArg (Except.map · _) (funext joined)

theorem join_cons (pair : Text) (pairs : List Text) :
    Text.join [CodePoint.ofChar '&'] (pair :: pairs) =
      pair ++ pairs.flatMap (CodePoint.ofChar '&' :: ·) := by
  induction pairs generalizing pair with
  | nil => exact (List.append_nil pair).symm
  | cons next pairs ih =>
    rw [Text.join, ih, List.flatMap_cons, List.append_assoc]
    · rfl
    · exact List.cons_ne_nil _ _

/-- The first parameter of a batch decides on its sign by the URL alone. All others find the
question mark that is then there. -/
theorem appendParameters_eq_appendEach (url : Text) (parameters : TextMap) :
    appendParameters url parameters = appendEach url parameters.entries := by
  obtain ⟨entries, distinct⟩ := parameters
  cases entries with
  | nil => rfl
  | cons entry entries =>
    obtain ⟨n, v⟩ := entry
    show (encodeEach ((n, v) :: entries) >>= fun pairs =>
      .ok (url ++ [separator url] ++ Text.join [CodePoint.ofChar '&'] pairs)) =
        appendParameter url n v >>= fun url => appendEach url entries
    rw [encodeEach_cons]
    cases encoded : formPair n v with
    | error e =>
      rw [appendParameter, encoded]
      rfl
    | ok pair =>
      have added : appendParameter url n v = .ok (url ++ [separator url] ++ pair) := by
        rw [appendParameter, encoded]
        rfl
      rw [bind_of_ok added, appendEach_of_mem (mem_of_appendParameter added)]
      show ((encodeEach entries).map (pair :: ·) >>= _) = _
      cases encodeEach entries with
      | error e => rfl
      | ok pairs =>
        show Except.ok (url ++ [separator url] ++ Text.join _ (pair :: pairs)) = Except.ok _
        rw [join_cons, ← List.append_assoc]

theorem exists_formPair {name value : Text} (hn : name.Scalar) (hv : value.Scalar) :
    ∃ pair, formPair name value = .ok pair := by
  have encoded {t : Text} (h : t.Scalar) : ∃ u, formEncode t = .ok u :=
    ok_map_iff.2 ⟨_, Text.encode_ok_iff.2 ⟨Text.scalar_iff_holds.1 h, rfl⟩⟩
  obtain ⟨n, hn⟩ := encoded hn
  obtain ⟨v, hv⟩ := encoded hv
  exact ⟨_, (bind_of_ok hn _).trans (bind_of_ok hv _)⟩

theorem exists_appendParameters (url : Text) {parameters : TextMap}
    (scalar : ∀ e ∈ parameters.entries, e.1.Scalar ∧ e.2.Scalar) :
    ∃ url', appendParameters url parameters = .ok url' := by
  unfold appendParameters
  split
  · exact ⟨url, rfl⟩
  · obtain ⟨pairs, encoded⟩ :=
      exists_mapM fun e he => exists_formPair (scalar e he).1 (scalar e he).2
    exact ⟨_, bind_of_ok encoded _⟩

/-- **Parameters appended at once** are appended one by one, to any URL. Without lone surrogates
they can be appended, and where no name is in both of two mappings, appending one behind the other
is appending what they make up together. -/
theorem appendParameters_one_by_one (url : Text) (parameters : TextMap) :
    appendParameters url parameters = appendEach url parameters.entries ∧
    ((∀ e ∈ parameters.entries, e.1.Scalar ∧ e.2.Scalar) →
      ∃ url', appendParameters url parameters = .ok url') ∧
    ∀ further : TextMap,
      (parameters.entries.map Prod.fst).Disjoint (further.entries.map Prod.fst) →
      (appendParameters url parameters >>= fun url => appendParameters url further) =
        appendParameters url (parameters.merge further) := by
  refine ⟨appendParameters_eq_appendEach url parameters, exists_appendParameters url, ?_⟩
  intro further disjoint
  simp only [appendParameters_eq_appendEach]
  rw [TextMap.entries_merge disjoint, appendEach_append]

/-- Two mappings of one parameter each, behind a query. -/
theorem appendParameters_one_by_one_searching :
    let word := TextMap.empty.insert "a b" "é"
    let flag := TextMap.empty.insert "c" ""
    (∀ e ∈ word.entries, e.1.Scalar ∧ e.2.Scalar) ∧
    (word.entries.map Prod.fst).Disjoint (flag.entries.map Prod.fst) ∧
    (∃ url, appendParameters "https://h?x=1" word = .ok url) ∧
    (appendParameters "https://h?x=1" word >>= fun url => appendParameters url flag) =
      appendParameters "https://h?x=1" (word.merge flag) := by
  intro word flag
  have scalar : ∀ e ∈ word.entries, e.1.Scalar ∧ e.2.Scalar := by decide
  have disjoint : (word.entries.map Prod.fst).Disjoint (flag.entries.map Prod.fst) := by
    rintro _ (_ | ⟨_, ⟨⟩⟩) (_ | ⟨_, ⟨⟩⟩)
  obtain ⟨-, appends, further⟩ := appendParameters_one_by_one "https://h?x=1" word
  exact ⟨scalar, disjoint, appends scalar, further flag disjoint⟩

example : appendEach "https://h" [("a b", "?"), ("c", "")] = .ok "https://h?a+b=%3F&c=" := by
  decide +kernel

end Url

end HttpCourier
