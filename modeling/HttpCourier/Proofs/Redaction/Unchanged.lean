import HttpCourier.Proofs.Redaction.Passwords
import HttpCourier.Proofs.Text.Lowering

/-!
# HttpCourier.Proofs.Redaction.Unchanged

**What redaction leaves alone.** A text is redacted if whatever is spelled like credentials in it is
the mark already (`Redaction.Redacted`). The redaction of any text is redacted
(`Redaction.redacted_url`), for nothing that is put in or copied behind a mark makes up new
credentials; and a text that is redacted stays as it is, so that these are the fixed points
(`Redaction.url_eq_self_iff`).

A URL without an at sign in its authority has no credentials. It stays as it is unless its query or
its fragment follows the authority at once and is taken for a part of credentials
(`Redaction.url_eq_iff_not_mistaken`).
-/

namespace HttpCourier.Redaction

variable {scheme user password authority rest back front t : Text}

/-- Whatever is spelled like credentials in the text is the mark. -/
def Redacted (t : Text) : Prop := ∀ front scheme user password back : Text,
  Opens scheme user password → t = front ++ (spelled scheme user password ++ back) →
    user = mark ∧ password = mark

theorem Redacted.of_suffix (h : Redacted t) (suffix : back <:+ t) : Redacted back := by
  obtain ⟨front, rfl⟩ := suffix
  intro front' scheme user password back' opens text_eq
  exact h (front ++ front') scheme user password back' opens (by rw [text_eq, List.append_assoc])

/-- Without a scheme there are no credentials. -/
theorem Redacted.of_hasBlock (h : Text.hasBlock t "://" = false) : Redacted t := by
  intro front scheme user password back opens text_eq
  obtain ⟨word, rfl, -, -⟩ := opens.exists_word
  have block : Text.ofString "://" <:+: t :=
    ⟨front ++ word, user ++ CodePoint.ofChar ':' :: (password ++ [CodePoint.ofChar '@']) ++ back, by
      rw [text_eq, spelled]
      simp only [List.append_assoc]⟩
  rw [← Text.hasBlock_iff] at block
  exact absurd (h.symm.trans block) Bool.false_ne_true

/-! ### The credentials at the start of a text -/

theorem spelled_inj {scheme' user' password' back' : Text} (h : Opens scheme user password)
    (h' : Opens scheme' user' password')
    (eq : spelled scheme user password ++ back = spelled scheme' user' password' ++ back') :
    scheme = scheme' ∧ user = user' ∧ password = password' ∧ back = back' := by
  have found := credentialsAtStart?_spelled h back
  rw [eq, credentialsAtStart?_spelled h' back'] at found
  obtain ⟨rfl, -⟩ := Prod.mk.inj (Option.some.inj found)
  have behind : user ++ CodePoint.ofChar ':' :: (password ++ CodePoint.ofChar '@' :: back) =
      user' ++ CodePoint.ofChar ':' :: (password' ++ CodePoint.ofChar '@' :: back') := by
    simpa [spelled] using eq
  have users := congrArg (List.takeWhile inUser) behind
  rw [takeWhile_left h.user.2 (by decide), takeWhile_left h'.user.2 (by decide)] at users
  subst users
  replace behind := (List.cons.inj (List.append_cancel_left behind)).2
  have passwords := congrArg (List.takeWhile inPassword) behind
  rw [takeWhile_left h.password.2 (by decide), takeWhile_left h'.password.2 (by decide)]
    at passwords
  subst passwords
  exact ⟨rfl, rfl, rfl, (List.cons.inj (List.append_cancel_left behind)).2⟩

theorem opens_mark (h : Opens scheme user password) : Opens scheme mark mark :=
  ⟨h.scheme, ⟨by decide, by decide⟩, ⟨by decide, by decide⟩⟩

theorem spelled_mark (scheme : Text) : spelled scheme mark mark = scheme ++ credentialsMark := by
  simp [spelled, credentialsMark]

theorem Opens.notMem_slash (h : Opens scheme user password) :
    CodePoint.ofChar '/' ∉ user ++ ":" ++ password := by
  intro inside
  simp only [List.mem_append] at inside
  rcases inside with (inside | inside) | inside
  · exact absurd (h.user.2 _ inside) (by decide)
  · exact absurd inside (by decide)
  · exact absurd (h.password.2 _ inside) (by decide)

/-- The scheme in front of credentials has its first letter in one place only. -/
theorem Opens.exists_tail (h : Opens scheme user password) :
    ∃ tail, scheme = CodePoint.ofChar 'h' :: tail ∧ ∀ c ∈ tail, c ≠ CodePoint.ofChar 'h' := by
  rcases h.scheme with rfl | rfl
  · exact ⟨Text.ofString "ttps://", rfl, by decide⟩
  · exact ⟨Text.ofString "ttp://", rfl, by decide⟩

/-- A text either starts with credentials, or its first code point is copied. -/
theorem url_cases (t : Text) : t = [] ∨
    (∃ scheme user password rest, Opens scheme user password ∧
      t = spelled scheme user password ++ rest ∧ url t = spelled scheme mark mark ++ url rest) ∨
    ∃ c rest, t = c :: rest ∧ credentialsAtStart? (c :: rest) = none ∧ url t = c :: url rest := by
  cases t with
  | nil => exact .inl rfl
  | cons c rest =>
    cases found : credentialsAtStart? (c :: rest) with
    | none => exact .inr (.inr ⟨c, rest, rfl, found, url_cons_of_none found⟩)
    | some credentials =>
      obtain ⟨scheme, n⟩ := credentials
      obtain ⟨user, password, back, opens, text_eq, -⟩ := credentialsAtStart?_some found
      refine .inr (.inl ⟨scheme, user, password, back, opens, text_eq, ?_⟩)
      rw [text_eq, url_spelled opens, spelled_mark]

/-- What holds of a redaction if it is kept up by each step: credentials that are replaced, and a
code point that is copied. -/
theorem url_induction {P : Text → Text → Prop} (nil : P [] [])
    (replaced : ∀ scheme user password rest, Opens scheme user password → P rest (url rest) →
      P (spelled scheme user password ++ rest) (spelled scheme mark mark ++ url rest))
    (copied : ∀ c rest, credentialsAtStart? (c :: rest) = none → P rest (url rest) →
      P (c :: rest) (c :: url rest)) (t : Text) : P t (url t) := by
  induction hn : t.length using Nat.strong_induction_on generalizing t with
  | _ n ih =>
    subst hn
    rcases url_cases t with rfl | ⟨scheme, user, password, rest, opens, rfl, url_eq⟩ |
      ⟨c, rest, rfl, none, url_eq⟩
    · exact nil
    · have shorter : rest.length < (spelled scheme user password ++ rest).length := by
        simp only [spelled, List.length_append, List.length_cons]
        omega
      rw [url_eq]
      exact replaced scheme user password rest opens (ih _ shorter rest rfl)
    · rw [url_eq]
      exact copied c rest none (ih _ (Nat.lt_succ_self _) rest rfl)

/-! ### What is copied -/

/-- What a redaction has in front of the letter that schemes start with was there before. -/
theorem exists_of_url_eq (plain : ∀ c ∈ front, c ≠ CodePoint.ofChar 'h')
    (h : url t = front ++ back) : ∃ t', t = front ++ t' ∧ url t' = back := by
  induction front generalizing t with
  | nil => exact ⟨t, rfl, h⟩
  | cons c front ih =>
    obtain ⟨here, further⟩ := List.forall_mem_cons.1 plain
    rcases url_cases t with rfl | ⟨scheme, user, password, rest, opens, -, url_eq⟩ |
      ⟨d, rest, rfl, -, url_eq⟩
    · cases h
    · obtain ⟨tail, rfl, -⟩ := opens.exists_tail
      exact absurd (List.cons.inj (url_eq.symm.trans h)).1.symm here
    · obtain ⟨rfl, rest_eq⟩ := List.cons.inj (url_eq.symm.trans h)
      obtain ⟨t', rfl, ht'⟩ := ih further rest_eq
      exact ⟨t', rfl, ht'⟩

/-- What a redaction has in front of an at sign was there before, unless there is a slash in it. -/
theorem exists_of_url_eq_at (plain : CodePoint.ofChar '/' ∉ front)
    (h : url t = front ++ CodePoint.ofChar '@' :: back) :
    ∃ t', t = front ++ CodePoint.ofChar '@' :: t' := by
  induction front generalizing t with
  | nil =>
    have sign : ∀ c ∈ [CodePoint.ofChar '@'], c ≠ CodePoint.ofChar 'h' := by decide
    obtain ⟨t', ht', -⟩ := exists_of_url_eq sign h
    exact ⟨t', ht'⟩
  | cons c front ih =>
    rcases url_cases t with rfl | ⟨scheme, user, password, rest, opens, -, url_eq⟩ |
      ⟨d, rest, rfl, -, url_eq⟩
    · cases h
    · rw [url_eq, spelled, List.append_assoc] at h
      exact absurd ⟨_, h⟩ (not_prefix_at opens.scheme plain back)
    · obtain ⟨rfl, rest_eq⟩ := List.cons.inj (url_eq.symm.trans h)
      obtain ⟨t', rfl⟩ := ih (fun hm => plain (List.mem_cons_of_mem _ hm)) rest_eq
      exact ⟨t', rfl⟩

/-- A redaction that is put behind a code point makes up no credentials with it: they would have
been there before. -/
theorem credentialsAtStart?_cons_url {c : CodePoint} (h : credentialsAtStart? (c :: t) = none) :
    credentialsAtStart? (c :: url t) = none := by
  by_contra found
  obtain ⟨⟨scheme, n⟩, found⟩ := Option.ne_none_iff_exists'.1 found
  obtain ⟨user, password, back, opens, text_eq, -⟩ := credentialsAtStart?_some found
  obtain ⟨tail, rfl, small⟩ := opens.exists_tail
  have spelled_eq (back : Text) : spelled (CodePoint.ofChar 'h' :: tail) user password ++ back =
      CodePoint.ofChar 'h' ::
        (tail ++ (user ++ ":" ++ password ++ CodePoint.ofChar '@' :: back)) := by
    simp only [spelled, List.append_assoc, List.cons_append]
    rfl
  rw [spelled_eq] at text_eq
  obtain ⟨rfl, url_eq⟩ := List.cons.inj text_eq
  obtain ⟨t', rfl, url_eq'⟩ := exists_of_url_eq small url_eq
  obtain ⟨t'', rfl⟩ := exists_of_url_eq_at opens.notMem_slash url_eq'
  rw [← spelled_eq, credentialsAtStart?_spelled opens] at h
  cases h

/-! ### Fixed points -/

/-- **A redaction is redacted**, wherever the text has credentials. -/
theorem redacted_url (t : Text) : Redacted (url t) := by
  induction t using url_induction with
  | nil => exact Redacted.of_hasBlock rfl
  | replaced scheme user password rest opens ih =>
    intro front scheme' user' password' back opens' text_eq
    rcases List.append_eq_append_iff.1 text_eq with
      ⟨more, rfl, rest_eq⟩ | ⟨more, spelled_eq, rest_eq⟩
    · exact ih more scheme' user' password' back opens' rest_eq
    · cases front with
      | nil =>
        rw [List.nil_append] at spelled_eq
        subst spelled_eq
        obtain ⟨-, hu, hp, -⟩ := spelled_inj opens' (opens_mark opens) rest_eq
        exact ⟨hu, hp⟩
      | cons c front =>
        cases more with
        | nil => exact ih [] scheme' user' password' back opens' rest_eq.symm
        | cons d more =>
          -- No other scheme starts inside of what is put in.
          obtain ⟨tail, rfl, small⟩ := opens.exists_tail
          obtain ⟨tail', rfl, -⟩ := opens'.exists_tail
          obtain ⟨rfl, -⟩ := List.cons.inj rest_eq
          rw [spelled_mark] at spelled_eq
          have tail_eq : tail ++ credentialsMark = front ++ CodePoint.ofChar 'h' :: more :=
            (List.cons.inj spelled_eq).2
          have none : ∀ e ∈ tail ++ credentialsMark, e ≠ CodePoint.ofChar 'h' :=
            List.forall_mem_append.2 ⟨small, by decide⟩
          exact absurd rfl (none _ (tail_eq ▸ List.mem_append_right _ List.mem_cons_self))
  | copied c rest none ih =>
    intro front scheme user password back opens text_eq
    cases front with
    | nil =>
      have found := credentialsAtStart?_cons_url none
      rw [text_eq, List.nil_append, credentialsAtStart?_spelled opens] at found
      cases found
    | cons d front =>
      exact ih front scheme user password back opens (List.cons.inj text_eq).2

/-- What is redacted stays as it is. -/
theorem Redacted.url_eq (h : Redacted t) : url t = t := by
  induction t using url_induction with
  | nil => rfl
  | replaced scheme user password rest opens ih =>
    obtain ⟨rfl, rfl⟩ := h [] scheme user password rest opens rfl
    rw [ih (h.of_suffix (List.suffix_append _ _))]
  | copied c rest none ih => rw [ih (h.of_suffix (List.suffix_cons c rest))]

theorem url_eq_self_iff : url t = t ↔ Redacted t :=
  ⟨fun h => h ▸ redacted_url t, Redacted.url_eq⟩

/-! ### URLs without credentials -/

/-- The parts of a URL with neither an at sign in its authority nor a second scheme: the authority
goes up to the path, the query or the fragment. -/
structure Anonymous (scheme authority tail : Text) : Prop where
  known : Text.asciiLower scheme = "http" ∨ Text.asciiLower scheme = "https"
  within : ∀ c ∈ authority, c ∉ Text.ofString "@/?#"
  ends : ∀ c ∈ tail.head?, c ∈ Text.ofString "/?#"
  once : Text.hasBlock (authority ++ tail) "://" = false

/-- What follows the slashes is taken for credentials in front of a host. -/
def Mistaken (scheme behind : Text) : Prop := ∃ user password back : Text,
  Opens (scheme ++ "://") user password ∧ behind = user ++ ":" ++ password ++ "@" ++ back

theorem eq_spelled_of_behind
    (behind : authority ++ tail = user ++ ":" ++ password ++ "@" ++ back) :
    scheme ++ "://" ++ (authority ++ tail) = spelled (scheme ++ "://") user password ++ back := by
  rw [← withPassword_eq, behind]
  simp only [withPassword, List.append_assoc]

/-- What is taken for credentials reaches into the query or the fragment. -/
theorem Anonymous.head_mem (h : Anonymous scheme authority tail)
    (opens : Opens (scheme ++ "://") user password)
    (behind : authority ++ tail = user ++ ":" ++ password ++ "@" ++ back) :
    ∃ c ∈ Text.ofString "?#", tail.head? = some c ∧ c ∈ user ++ ":" ++ password := by
  have sign : CodePoint.ofChar '@' ∉ authority := fun inside => h.within _ inside (by decide)
  have noSign : tail.head? ≠ some (CodePoint.ofChar '@') := fun head =>
    absurd (h.ends _ head) (by decide)
  rw [List.append_assoc (user ++ Text.ofString ":" ++ password)] at behind
  rcases List.append_eq_append_iff.1 behind with ⟨more, login_eq, tail_eq⟩ | ⟨more, rfl, back_eq⟩
  · cases more with
    | nil => exact absurd (congrArg List.head? tail_eq) noSign
    | cons c more =>
      have head : tail.head? = some c := congrArg List.head? tail_eq
      have inside : c ∈ user ++ ":" ++ password := by
        rw [login_eq]
        simp
      have ends : c ∈ Text.ofString "/?#" := h.ends c head
      refine ⟨c, ?_, head, inside⟩
      rcases List.mem_cons.1 ends with rfl | ends
      · exact absurd inside opens.notMem_slash
      · exact ends
  · cases more with
    | nil => exact absurd (congrArg List.head? back_eq).symm noSign
    | cons c more =>
      obtain ⟨rfl, -⟩ := List.cons.inj back_eq
      exact absurd (List.mem_append_right _ List.mem_cons_self) sign

/-- Where the authority is followed by a path, or by nothing, nothing is mistaken. -/
theorem Anonymous.not_mistaken_of_path (h : Anonymous scheme authority tail)
    (path : ∀ c ∈ tail.head?, c = CodePoint.ofChar '/') :
    ¬ Mistaken scheme (authority ++ tail) := by
  rintro ⟨user, password, back, opens, behind⟩
  obtain ⟨c, ends, head, -⟩ := h.head_mem opens behind
  rw [path c head] at ends
  exact absurd ends (by decide)

theorem Anonymous.url_of_not_mistaken (h : Anonymous scheme authority tail)
    (plain : ¬ Mistaken scheme (authority ++ tail)) :
    url (scheme ++ "://" ++ (authority ++ tail)) = scheme ++ "://" ++ (authority ++ tail) := by
  have none : credentialsAtStart? (scheme ++ "://" ++ (authority ++ tail)) = none := by
    obtain ⟨-, -, -, -, noColon⟩ := exists_scheme h.known
    by_contra found
    obtain ⟨found, hf⟩ := Option.ne_none_iff_exists'.1 found
    exact plain (exists_of_credentialsAtStart? noColon hf).2
  obtain ⟨c, letters, rfl, small, -⟩ := exists_scheme h.known
  have slashes : ∀ d ∈ letters ++ Text.ofString "://", d ≠ CodePoint.ofChar 'h' :=
    List.forall_mem_append.2 ⟨small, by decide⟩
  rw [List.cons_append, List.cons_append] at none ⊢
  rw [url_cons_of_none none, url_append_of_ne slashes, (Redacted.of_hasBlock h.once).url_eq]

theorem Anonymous.url_of_mistaken (h : Anonymous scheme authority tail)
    (opens : Opens (scheme ++ "://") user password)
    (behind : authority ++ tail = user ++ ":" ++ password ++ "@" ++ back) :
    url (scheme ++ "://" ++ (authority ++ tail)) = withPassword scheme mark mark back := by
  have redacted : Redacted back := by
    refine (Redacted.of_hasBlock h.once).of_suffix ?_
    rw [behind]
    exact List.suffix_append _ _
  rw [eq_spelled_of_behind behind, url_spelled opens, redacted.url_eq, withPassword_eq,
    spelled_mark]

/-- The marks have neither a question mark nor a hash. -/
theorem Anonymous.url_ne_of_mistaken (h : Anonymous scheme authority tail)
    (mistaken : Mistaken scheme (authority ++ tail)) :
    url (scheme ++ "://" ++ (authority ++ tail)) ≠ scheme ++ "://" ++ (authority ++ tail) := by
  obtain ⟨user, password, back, opens, behind⟩ := mistaken
  obtain ⟨c, ends, -, inside⟩ := h.head_mem opens behind
  intro same
  obtain ⟨rfl, rfl⟩ := url_eq_self_iff.1 same [] _ _ _ _ opens (eq_spelled_of_behind behind)
  exact absurd inside ((by decide : ∀ c ∈ Text.ofString "?#", c ∉ mark ++ ":" ++ mark) c ends)

/-- **Which URLs without credentials are left alone**: all but those whose query or fragment is
taken for a part of credentials. These are redacted, up to the at sign in it. A URL whose authority
is followed by a path, or by nothing, is not among them. What is redacted, of any text, is left
alone. -/
theorem url_eq_iff_not_mistaken (h : Anonymous scheme authority tail) :
    (url (scheme ++ "://" ++ (authority ++ tail)) = scheme ++ "://" ++ (authority ++ tail) ↔
      ¬ Mistaken scheme (authority ++ tail)) ∧
    (∀ user password back, Opens (scheme ++ "://") user password →
      authority ++ tail = user ++ ":" ++ password ++ "@" ++ back →
      url (scheme ++ "://" ++ (authority ++ tail)) = withPassword scheme mark mark back) ∧
    ((∀ c ∈ tail.head?, c = CodePoint.ofChar '/') →
      url (scheme ++ "://" ++ (authority ++ tail)) = scheme ++ "://" ++ (authority ++ tail)) ∧
    ∀ t, url (url t) = url t := by
  refine ⟨⟨fun same mistaken => h.url_ne_of_mistaken mistaken same, h.url_of_not_mistaken⟩, ?_, ?_, ?_⟩
  · exact fun _ _ _ => h.url_of_mistaken
  · exact fun path => h.url_of_not_mistaken (h.not_mistaken_of_path path)
  · exact fun t => (redacted_url t).url_eq

/-- A query that is left alone, and one that is taken for a part of credentials. -/
theorem url_eq_iff_not_mistaken_searching :
    (Anonymous "https" "h" "?x=y@z" ∧ url "https://h?x=y@z" = "https://h?x=y@z") ∧
    Anonymous "https" "h" "?x:y@z" ∧
      url "https://h?x:y@z" = withPassword "https" mark mark "z" := by
  have equals : Anonymous "https" "h" "?x=y@z" := ⟨by decide, by decide, by decide, by decide⟩
  have colon : Anonymous "https" "h" "?x:y@z" := ⟨by decide, by decide, by decide, by decide⟩
  refine ⟨⟨equals, (url_eq_iff_not_mistaken equals).1.2 ?_⟩, colon, ?_⟩
  · rintro ⟨user, password, back, -, behind⟩
    have inside : CodePoint.ofChar ':' ∈ Text.ofString "h" ++ Text.ofString "?x=y@z" := by
      rw [behind]
      simp [Text.ofString]
    exact absurd inside (by decide)
  · exact (url_eq_iff_not_mistaken colon).2.1 "h?x" "y" "z"
      ⟨.inl rfl, ⟨by decide, by decide⟩, ⟨by decide, by decide⟩⟩ rfl

/-- Not every URL without credentials is left alone. -/
theorem not_url_anonymous : ¬ ∀ scheme authority tail, Anonymous scheme authority tail →
    url (scheme ++ "://" ++ (authority ++ tail)) = scheme ++ "://" ++ (authority ++ tail) := by
  intro h
  exact absurd (h "https" "h" "?x:y@z" ⟨by decide, by decide, by decide, by decide⟩) (by decide)

end HttpCourier.Redaction
