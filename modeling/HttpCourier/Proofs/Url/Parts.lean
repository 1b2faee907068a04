import HttpCourier.Proofs.Url.Form
import HttpCourier.Url.Locator

/-!
# HttpCourier.Proofs.Url.Parts

**The parts of a URL, and what appending parameters does to them.** The scheme, the authority and
the path of a URL stand in front of its first `?` or `#` and do not depend on what follows
(`rawParts_append`); the fragment is what follows the first `#`, and the query what stands between
a `?` and that.

Parameters go to the end of the URL. So they never touch the parts in front, but they are parameters
only where there is no fragment: otherwise they are written into the fragment
(`Appends.kept_iff`), which is not sent.
-/

namespace HttpCourier.Url

/-! ### The parts in front -/

/-- Whether a code point ends what stands in front of the query and the fragment. -/
def endsStem (c : CodePoint) : Bool := c = CodePoint.ofChar '?' || c = CodePoint.ofChar '#'

/-- The parts that stand in front of the query and the fragment. -/
def RawParts.stem (p : RawParts) : RawParts := { p with query := none, fragment := none }

/-- The scheme of a URL, and what follows it. -/
def schemeAndRest (t : Text) : Text × Text :=
  match Text.splitFirst? ':' t with
  | some (s, rest) =>
    if s.all (fun c => c.isLetter || c.isDigit || isOneOf "+.-" c) ∧
        (s = [] ∨ (s.head?.any CodePoint.isLetter))
    then (s, rest) else ([], t)
  | none => ([], t)

/-- The authority of a URL without its scheme, and what follows it. -/
def authorityAndRest (t : Text) : Text × Text :=
  if Text.startsWith t "//" then
    Text.breakAt endsAuthority (t.drop 2)
  else ([], t)

/-- The query and the fragment at the end of a URL. -/
def queryAndFragment (t : Text) : Option Text × Option Text :=
  let (query, rest) :=
    if t.head? = some (CodePoint.ofChar '?') then
      let (q, rest) := Text.breakAt (· = CodePoint.ofChar '#') (t.drop 1)
      (some q, rest)
    else (none, t)
  (query, if rest = [] then none else some (rest.drop 1))

theorem rawParts_eq (t : Text) :
    rawParts t =
      let scheme := schemeAndRest t
      let network := authorityAndRest scheme.2
      let authority := splitAuthority network.1
      let path := Text.breakAt endsStem network.2
      let query := queryAndFragment path.2
      ⟨scheme.1, authority.1, authority.2.1, authority.2.2, path.1, query.1, query.2⟩ :=
  rfl

variable {t front tail : Text}

/-- The text starts with a mark that ends the parts in front, if with anything. -/
def Ends (tail : Text) : Prop := ∀ c ∈ tail.head?, endsStem c = true

/-- The text has no mark that ends the parts in front. -/
def Plain (front : Text) : Prop := ∀ c ∈ front, endsStem c = false

theorem breakAt_append {p : CodePoint → Bool} (ends : ∀ c ∈ tail.head?, p c = true) :
    Text.breakAt p (t ++ tail) = ((Text.breakAt p t).1, (Text.breakAt p t).2 ++ tail) := by
  induction t with
  | nil =>
    cases tail with
    | nil => rfl
    | cons c tail => simp [Text.breakAt, ends c rfl]
  | cons c t ih =>
    unfold Text.breakAt at ih ⊢
    obtain ⟨before, after⟩ := Prod.mk.inj ih
    cases hc : p c with
    | true => simp [hc]
    | false => simp [hc, before, after]

theorem breakAt_of_forall {p : CodePoint → Bool} (plain : ∀ c ∈ front, p c = false)
    (ends : ∀ c ∈ tail.head?, p c = true) : Text.breakAt p (front ++ tail) = (front, tail) := by
  have all : ∀ c ∈ front, (!p c) = true := fun c hc => by rw [plain c hc]; rfl
  rw [breakAt_append ends, Text.breakAt, List.takeWhile_eq_self_iff.2 all,
    List.dropWhile_eq_nil_iff.2 all, List.nil_append]

/-- A colon behind a mark does not end a scheme. -/
theorem schemeAndRest_append (plain : Plain front) (ends : Ends tail) :
    schemeAndRest (front ++ tail) = ((schemeAndRest front).1, (schemeAndRest front).2 ++ tail) := by
  unfold schemeAndRest
  by_cases colon : CodePoint.ofChar ':' ∈ front
  · obtain ⟨scheme, rest, rfl, first⟩ := List.eq_append_cons_of_mem colon
    rw [List.append_assoc, List.cons_append, Text.splitFirst?_append first,
      Text.splitFirst?_append first]
    dsimp only
    split <;> simp
  · -- With its first colon behind the mark, the text in front of that is no name of a scheme.
    rw [Text.splitFirst?_of_notMem colon]
    by_cases later : CodePoint.ofChar ':' ∈ tail
    · obtain ⟨between, rest, rfl, first⟩ := List.eq_append_cons_of_mem later
      cases between with
      | nil => exact absurd (ends _ rfl) (by decide)
      | cons mark between =>
        have marked : endsStem mark = true := ends _ rfl
        have outside : (mark.isLetter || mark.isDigit || isOneOf "+.-" mark) = false := by
          simp only [endsStem, Bool.or_eq_true, decide_eq_true_eq] at marked
          rcases marked with rfl | rfl <;> decide
        have first : CodePoint.ofChar ':' ∉ front ++ mark :: between := by
          simp only [List.mem_append, not_or]
          exact ⟨colon, first⟩
        rw [← List.append_assoc, Text.splitFirst?_append first]
        exact if_neg fun h => by simp [outside] at h
    · rw [Text.splitFirst?_of_notMem (by simp [colon, later])]

/-- A mark is no slash, so that it cannot open an authority. -/
theorem startsWith_slashes_append (ends : Ends tail) :
    Text.startsWith (t ++ tail) "//" = Text.startsWith t "//" := by
  have slash : ∀ c ∈ tail.head?, c ≠ CodePoint.ofChar '/' := by
    rintro c hc rfl
    exact absurd (ends _ hc) (by decide)
  match t, tail with
  | _ :: _ :: _, _ => simp [Text.startsWith, Text.ofString, List.isPrefixOf]
  | [], [] => rfl
  | [c], [] => rw [List.append_nil]
  | [], d :: _ => simp [Text.startsWith, Text.ofString, List.isPrefixOf, (slash d rfl).symm]
  | [c], d :: _ => simp [Text.startsWith, Text.ofString, List.isPrefixOf, (slash d rfl).symm]

theorem authorityAndRest_append (ends : Ends tail) :
    authorityAndRest (t ++ tail) =
      ((authorityAndRest t).1, (authorityAndRest t).2 ++ tail) := by
  have endsHere : ∀ c ∈ tail.head?, endsAuthority c = true := by
    intro c hc
    have marked := ends c hc
    simp only [endsStem, Bool.or_eq_true, decide_eq_true_eq] at marked
    rcases marked with rfl | rfl <;> decide
  unfold authorityAndRest
  rw [startsWith_slashes_append ends]
  split
  · next slashes =>
    obtain ⟨rest, rfl⟩ := List.isPrefixOf_iff_prefix.1 slashes
    exact breakAt_append endsHere
  · rfl

theorem schemeAndRest_subset (t : Text) : (schemeAndRest t).2 ⊆ t := by
  unfold schemeAndRest
  split
  · next scheme rest cut =>
    split
    · intro c hc
      by_cases colon : CodePoint.ofChar ':' ∈ t
      · obtain ⟨before, after, rfl, first⟩ := List.eq_append_cons_of_mem colon
        rw [Text.splitFirst?_append first] at cut
        cases cut
        simp [hc]
      · rw [Text.splitFirst?_of_notMem colon] at cut
        cases cut
    · exact List.Subset.refl t
  · exact List.Subset.refl t

theorem authorityAndRest_subset (t : Text) : (authorityAndRest t).2 ⊆ t := by
  unfold authorityAndRest
  split
  · exact ((List.dropWhile_sublist _).trans (List.drop_sublist 2 t)).subset
  · exact List.Subset.refl t

/-- **The parts in front** are those of the text in front of the first mark. -/
theorem rawParts_append (plain : Plain front) (ends : Ends tail) :
    rawParts (front ++ tail) = { rawParts front with
      query := (queryAndFragment tail).1, fragment := (queryAndFragment tail).2 } := by
  have rest : Plain (authorityAndRest (schemeAndRest front).2).2 := fun c hc =>
    plain c (schemeAndRest_subset _ (authorityAndRest_subset _ hc))
  have path := breakAt_of_forall rest (show ∀ c ∈ ([] : Text).head?, endsStem c = true by
    rintro _ ⟨⟩)
  rw [List.append_nil] at path
  rw [rawParts_eq, rawParts_eq, schemeAndRest_append plain ends]
  dsimp only
  rw [authorityAndRest_append ends]
  dsimp only
  rw [breakAt_of_forall rest ends, path]

/-! ### The query and the fragment -/

/-- A part behind its mark, if there is one. -/
def marked (mark : CodePoint) : Option Text → Text
  | some part => mark :: part
  | none => []

/-- A URL with the given query and fragment. -/
def spell (front : Text) (query fragment : Option Text) : Text :=
  front ++ (marked '?' query ++ marked '#' fragment)

variable {query fragment : Option Text}

theorem queryAndFragment_marked (noMark : ∀ q ∈ query, CodePoint.ofChar '#' ∉ q) :
    queryAndFragment (marked '?' query ++ marked '#' fragment) = (query, fragment) := by
  cases query with
  | none => cases fragment <;> rfl
  | some q =>
    have plain : ∀ c ∈ q, decide (c = CodePoint.ofChar '#') = false := by
      rintro c hc
      exact decide_eq_false fun mark => noMark q rfl (mark ▸ hc)
    have cut : Text.breakAt (· = CodePoint.ofChar '#') (q ++ marked '#' fragment) =
        (q, marked '#' fragment) := by
      refine breakAt_of_forall plain ?_
      cases fragment <;> rintro _ ⟨⟩
      decide
    unfold queryAndFragment
    rw [marked, List.cons_append, List.head?_cons, if_pos rfl, List.drop_one, List.tail_cons, cut]
    cases fragment <;> rfl

theorem rawParts_spell (plain : Plain front) (noMark : ∀ q ∈ query, CodePoint.ofChar '#' ∉ q) :
    rawParts (spell front query fragment) = { rawParts front with query, fragment } := by
  have ends : Ends (marked '?' query ++ marked '#' fragment) := by
    cases query <;> cases fragment <;> rintro _ ⟨⟩ <;> decide
  rw [spell, rawParts_append plain ends, queryAndFragment_marked noMark]

/-- Every URL is spelled so. -/
theorem exists_spell (t : Text) : ∃ front query fragment, t = spell front query fragment ∧
    Plain front ∧ ∀ q ∈ query, CodePoint.ofChar '#' ∉ q := by
  have plain : Plain (t.takeWhile fun c => !endsStem c) := fun c hc => by
    simpa using List.mem_takeWhile_imp hc
  have first := List.head?_dropWhile_not (fun c => !endsStem c) t
  rw [← List.takeWhile_append_dropWhile (p := fun c => !endsStem c) (l := t)]
  generalize t.takeWhile (fun c => !endsStem c) = front at plain ⊢
  cases tail : t.dropWhile fun c => !endsStem c with
  | nil => exact ⟨front, none, none, rfl, plain, by rintro _ ⟨⟩⟩
  | cons mark rest =>
    rw [tail] at first
    have isMark : endsStem mark = true := by simpa using first
    simp only [endsStem, Bool.or_eq_true, decide_eq_true_eq] at isMark
    rcases isMark with rfl | rfl
    · by_cases again : CodePoint.ofChar '#' ∈ rest
      · obtain ⟨q, f, rfl, noMark⟩ := List.eq_append_cons_of_mem again
        exact ⟨front, some q, some f, rfl, plain, by rintro _ ⟨⟩; exact noMark⟩
      · exact ⟨front, some rest, none, by rw [spell, marked, marked, List.append_nil], plain,
          by rintro _ ⟨⟩; exact again⟩
    · exact ⟨front, none, some rest, rfl, plain, by rintro _ ⟨⟩⟩

theorem notMem_front (plain : Plain front) {c : CodePoint} (hc : endsStem c = true) :
    c ∉ front := fun h => by
  rw [plain c h] at hc
  cases hc

theorem mem_spell (plain : Plain front) (noMark : ∀ q ∈ query, CodePoint.ofChar '#' ∉ q) :
    CodePoint.ofChar '#' ∈ spell front query fragment ↔ fragment.isSome = true := by
  have inFront := notMem_front plain (c := CodePoint.ofChar '#') (by decide)
  cases query <;> cases fragment <;> simp_all [spell, marked, CodePoint.ofChar_inj]

theorem queryOf_spell (plain : Plain front) (noMark : ∀ q ∈ query, CodePoint.ofChar '#' ∉ q) :
    queryOf (spell front query fragment) = query.getD [] := by
  have before : (cutAt '#' (spell front query fragment)).1 = front ++ marked '?' query := by
    have absent : CodePoint.ofChar '#' ∉ spell front query none := fun present =>
      absurd ((mem_spell plain noMark).1 present) (by simp)
    rw [spell, marked, List.append_nil] at absent
    cases fragment with
    | none =>
      rw [spell, marked, List.append_nil, cutAt_of_notMem absent]
    | some f =>
      rw [spell, marked, ← List.append_assoc, cutAt_append absent]
  rw [queryOf, before]
  have inFront := notMem_front plain (c := CodePoint.ofChar '?') (by decide)
  cases query with
  | none => rw [marked, List.append_nil, cutAt_of_notMem inFront]; rfl
  | some q => rw [marked, cutAt_append inFront]; rfl

/-! ### URLs with further parameters -/

/-- The second URL is the first one with the parameters appended, either all of a mapping or a
single one. -/
inductive Appends (url : Text) : List (Text × Text) → Text → Prop
  | mapping {parameters : TextMap} {url'} (nonempty : parameters.entries ≠ [])
      (appended : appendParameters url parameters = .ok url') :
      Appends url parameters.entries url'
  | single {name value url'} (appended : appendParameter url name value = .ok url') :
      Appends url [(name, value)] url'

variable {url url' : Text} {added : List (Text × Text)}

theorem Appends.exists_written (h : Appends url added url') :
    ∃ written, url' = url ++ [separator url] ++ written ∧ CodePoint.ofChar '#' ∉ written ∧
      formPairs written = added := by
  cases h with
  | mapping nonempty appended => exact exists_written_of_appendParameters nonempty appended
  | single appended =>
    obtain ⟨written, -, behind⟩ := exists_written_of_appendParameter appended
    exact ⟨written, behind⟩

/-- Where there is no fragment, what is written at the end belongs to the query. -/
theorem rawParts_written_of_notMem (absent : CodePoint.ofChar '#' ∉ url) {written : Text}
    (noMark : CodePoint.ofChar '#' ∉ written) :
    (rawParts (url ++ [separator url] ++ written)).stem = (rawParts url).stem ∧
      (rawParts (url ++ [separator url] ++ written)).fragment = (rawParts url).fragment := by
  obtain ⟨front, query, fragment, rfl, plain, inside⟩ := exists_spell url
  cases fragment with
  | some f => exact absurd ((mem_spell plain inside).2 rfl) absent
  | none =>
    have inFront := notMem_front plain (c := CodePoint.ofChar '?') (by decide)
    cases query with
    | none =>
      -- The separator opens the query.
      have joined : spell front none none ++ [separator (spell front none none)] ++ written =
          spell front (some written) none := by
        simp [spell, marked, separator, inFront]
      rw [joined, rawParts_spell plain (by rintro _ ⟨⟩; exact noMark),
        rawParts_spell plain inside]
      exact ⟨rfl, rfl⟩
    | some q =>
      -- The separator stands inside the query, behind what it holds already.
      have joined : spell front (some q) none ++ [separator (spell front (some q) none)] ++
          written = spell front (some (q ++ CodePoint.ofChar '&' :: written)) none := by
        simp [spell, marked, separator]
      have inJoined : ∀ r ∈ some (q ++ CodePoint.ofChar '&' :: written),
          CodePoint.ofChar '#' ∉ r := by
        rintro _ ⟨⟩
        simp [inside q rfl, noMark, CodePoint.ofChar_inj]
      rw [joined, rawParts_spell plain inJoined, rawParts_spell plain inside]
      exact ⟨rfl, rfl⟩

/-- Where there is a fragment, it belongs to that. -/
theorem rawParts_written_of_mem (present : CodePoint.ofChar '#' ∈ url) (written : Text) :
    ∃ f, (rawParts url).fragment = some f ∧
      rawParts (url ++ written) = { rawParts url with fragment := some (f ++ written) } := by
  obtain ⟨front, query, fragment, rfl, plain, inside⟩ := exists_spell url
  cases fragment with
  | none => exact absurd ((mem_spell plain inside).1 present) (by simp)
  | some f =>
    have joined : spell front query (some f) ++ written =
        spell front query (some (f ++ written)) := by
      simp [spell, marked]
    rw [joined, rawParts_spell plain inside, rawParts_spell plain inside]
    exact ⟨f, rfl, rfl⟩

/-- **Appended parameters** leave the parts in front of the query as they are. They are read behind
the parameters that are there already, and the fragment stays as it is, if and only if there is no
fragment; otherwise the query gets none of them. -/
theorem Appends.kept_iff (h : Appends url added url') :
    (rawParts url').stem = (rawParts url).stem ∧
    ((rawParts url').fragment = (rawParts url).fragment ∧
        formPairs (queryOf url') = formPairs (queryOf url) ++ added ↔
      CodePoint.ofChar '#' ∉ url) ∧
    (CodePoint.ofChar '#' ∈ url → (rawParts url').query = (rawParts url).query) := by
  obtain ⟨written, rfl, noMark, reads⟩ := h.exists_written
  by_cases present : CodePoint.ofChar '#' ∈ url
  · obtain ⟨f, fragment, parts⟩ := rawParts_written_of_mem present ([separator url] ++ written)
    rw [← List.append_assoc] at parts
    rw [parts]
    refine ⟨rfl, iff_of_false (fun kept => ?_) (not_not_intro present), fun _ => rfl⟩
    simpa [fragment] using kept.1
  · obtain ⟨stem, fragment⟩ := rawParts_written_of_notMem present noMark
    have pairs := (extends_separator present noMark).pairs
    rw [reads] at pairs
    exact ⟨stem, iff_of_true ⟨fragment, pairs⟩ present, fun h => absurd h present⟩

theorem Appends.kept_iff_searching :
    Appends "https://h/a?b=1" [("c d", "&")] "https://h/a?b=1&c+d=%26" ∧
      (rawParts "https://h/a?b=1&c+d=%26").fragment = none ∧
      formPairs (queryOf "https://h/a?b=1&c+d=%26") =
        ([("b", "1"), ("c d", "&")] : List (Text × Text)) := by
  have appends : Appends "https://h/a?b=1" [("c d", "&")] "https://h/a?b=1&c+d=%26" :=
    .single (by decide +kernel)
  have kept := appends.kept_iff.2.1.2 (by decide)
  exact ⟨appends, kept.1, kept.2.trans (by decide +kernel)⟩

/-- **Parameters are lost in a fragment**, which becomes longer by them. -/
theorem not_appends_kept : ¬ ∀ url added url', Appends url added url' →
    (rawParts url').fragment = (rawParts url).fragment ∧
      formPairs (queryOf url') = formPairs (queryOf url) ++ added := by
  intro claim
  have appends : Appends "https://h/#f" [("a", "1")] "https://h/#f?a=1" :=
    .single (by decide +kernel)
  exact absurd (claim _ _ _ appends).1 (by decide +kernel)

/-! ### The query in its outgoing form -/

theorem percentEncode_append {holds : CodePoint → Bool} {t u encoded : Text}
    (h : percentEncode holds (t ++ u) = .ok encoded) :
    ∃ front back, percentEncode holds u = .ok back ∧ encoded = front ++ back := by
  induction t generalizing encoded with
  | nil => exact ⟨[], encoded, h, rfl⟩
  | cons c t ih =>
    rw [List.cons_append, percentEncode] at h
    split at h
    all_goals
      obtain ⟨head, -, h⟩ := ok_of_bind h
      obtain ⟨tail, ht, h⟩ := ok_of_bind h
      cases h
      obtain ⟨front, back, hu, rfl⟩ := ih ht
      exact ⟨head ++ front, back, hu, (List.append_assoc _ _ _).symm⟩

theorem percentEncode_of_forall {holds : CodePoint → Bool} {t : Text}
    (h : ∀ c ∈ t, holds c = true) : percentEncode holds t = .ok t := by
  induction t with
  | nil => rfl
  | cons c t ih =>
    obtain ⟨here, there⟩ := List.forall_mem_cons.1 h
    rw [percentEncode, if_pos here, ih there]
    rfl

/-- What is form-encoded stays as it is. -/
theorem inQuery_of_formPair {name value pair : Text} (h : formPair name value = .ok pair) :
    ∀ c ∈ pair, inQuery c = true := by
  have all : ∀ i : Fin 256, ∀ c ∈ formByte (UInt8.ofNat i), inQuery c = true := by
    decide +kernel
  have encoded {t u : Text} (h : formEncode t = .ok u) : ∀ c ∈ u, inQuery c = true := by
    obtain ⟨bytes, -, rfl⟩ := ok_of_map h
    intro c hc
    obtain ⟨b, -, hb⟩ := List.mem_flatMap.1 hc
    have here := all ⟨b.toNat, b.toNat_lt⟩ c
    rw [UInt8.ofNat_toNat] at here
    exact here hb
  obtain ⟨n, hn, h⟩ := ok_of_bind h
  obtain ⟨v, hv, h⟩ := ok_of_bind h
  cases h
  intro c hc
  simp only [List.mem_append, List.mem_singleton] at hc
  rcases hc with (hc | rfl) | hc
  · exact encoded hn c hc
  · decide
  · exact encoded hv c hc

theorem queryOf_eq (t : Text) : queryOf t = (rawParts t).query.getD [] := by
  obtain ⟨front, query, fragment, rfl, plain, noMark⟩ := exists_spell t
  rw [queryOf_spell plain noMark, rawParts_spell plain noMark]

theorem Locator.query_of_ofText {t : Text} {l : Locator} (h : ofText t = .ok l) :
    percentEncode inQuery (queryOf t) = .ok (l.query.getD []) := by
  obtain ⟨_, -, h⟩ := ok_of_bind h
  -- The query comes behind user information, host, port and path.
  iterate 5 obtain ⟨_, -, h⟩ := ok_of_bind h
  obtain ⟨query, encoded, h⟩ := ok_of_bind h
  obtain ⟨_, -, h⟩ := ok_of_bind h
  cases h
  rw [queryOf_eq]
  cases written : (rawParts t).query with
  | none =>
    rw [written] at encoded
    cases encoded
    rfl
  | some q =>
    rw [written] at encoded
    obtain ⟨q', hq, encoded⟩ := ok_of_bind encoded
    cases encoded
    exact ok_of_mapError hq

/-- **A parameter at the end of a URL is the last one that is sent.** -/
theorem getLast?_formPairs_of_appendParameter {url url' name value : Text} {l : Locator}
    (absent : CodePoint.ofChar '#' ∉ url) (appended : appendParameter url name value = .ok url')
    (sent : Locator.ofText url' = .ok l) :
    (formPairs (l.query.getD [])).getLast? = some (name, value) := by
  obtain ⟨written, hw, rfl, noMark, reads⟩ := exists_written_of_appendParameter appended
  have stays : ∀ c ∈ CodePoint.ofChar '&' :: written, inQuery c = true :=
    List.forall_mem_cons.2 ⟨by decide, inQuery_of_formPair hw⟩
  have encoded := Locator.query_of_ofText sent
  rw [(cut_separator absent noMark).2.2] at encoded
  split at encoded
  · rw [List.append_assoc, List.singleton_append] at encoded
    obtain ⟨front, back, kept, query⟩ := percentEncode_append encoded
    rw [percentEncode_of_forall stays] at kept
    cases kept
    rw [query, formPairs_append, reads]
    exact List.getLast?_concat
  · rw [List.nil_append, percentEncode_of_forall (List.forall_mem_cons.1 stays).2] at encoded
    rw [← Except.ok.inj encoded, reads]
    rfl

end HttpCourier.Url
