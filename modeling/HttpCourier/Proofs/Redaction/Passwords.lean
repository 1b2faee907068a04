import HttpCourier.Proofs.Redaction
import HttpCourier.Text.Case

/-!
# HttpCourier.Proofs.Redaction.Passwords

**Which passwords of URLs are kept from the log.** A URL with a password in front of its host is
redacted to a text that does not depend on the password exactly if its scheme is in lower case and
there is a user name (`Redaction.url_withPassword_eq_iff`). What is looked for starts with the
letters of a scheme: behind them, up to the at sign, no other URL can start, so that nothing at all
is replaced where the first one is not found.
-/

namespace HttpCourier.Redaction

variable {scheme user password password' t : Text}

/-- The text of a URL that has a user name and a password. -/
def withPassword (scheme user password rest : Text) : Text :=
  scheme ++ "://" ++ user ++ ":" ++ password ++ "@" ++ rest

/-- The parts of such a URL, as a configuration may have them: the scheme is in any letter case,
and the user name may be empty. -/
structure Login (scheme user password : Text) : Prop where
  scheme : Text.asciiLower scheme = "http" ∨ Text.asciiLower scheme = "https"
  user : ∀ c ∈ user, c ∉ Text.ofString ":@/?#"
  password : password ≠ [] ∧ ∀ c ∈ password, c ∉ Text.ofString "@/?#"

/-- The scheme is in lower case, and there is a user name. -/
def Redactable (scheme user : Text) : Prop := (scheme = "http" ∨ scheme = "https") ∧ user ≠ []

/-! ### The redaction of a text in front of another -/

theorem withPassword_eq (scheme user password rest : Text) :
    withPassword scheme user password rest = spelled (scheme ++ "://") user password ++ rest := by
  simp only [withPassword, spelled, List.append_assoc, List.cons_append]
  rfl

/-- Code points that belong to credentials replaced already are passed over. -/
theorem urlFrom_length (taken t : Text) : urlFrom taken.length (taken ++ t) = url t := by
  induction taken with
  | nil => rfl
  | cons c taken ih => exact ih

theorem url_cons_of_none {c : CodePoint} (h : credentialsAtStart? (c :: t) = none) :
    url (c :: t) = c :: url t := by
  unfold url
  rw [urlFrom, h]

theorem url_spelled (h : Opens scheme user password) (rest : Text) :
    url (spelled scheme user password ++ rest) = scheme ++ credentialsMark ++ url rest := by
  have found := credentialsAtStart?_spelled h rest
  cases whole : spelled scheme user password with
  | nil =>
    have last := getLast?_spelled scheme user password
    rw [whole] at last
    cases last
  | cons c taken =>
    rw [whole, List.cons_append] at found
    rw [List.cons_append, url, urlFrom, found]
    dsimp only
    rw [List.length_cons, Nat.add_sub_cancel, urlFrom_length]

/-- Where no scheme starts there are no credentials. -/
theorem url_cons_of_not_starts {c : CodePoint}
    (h : ∀ scheme : Text, scheme = "https://" ∨ scheme = "http://" → ¬ scheme <+: c :: t) :
    url (c :: t) = c :: url t := by
  refine url_cons_of_none ?_
  have none : schemeAtStart? (c :: t) = none :=
    Option.eq_none_iff_forall_ne_some.2 fun scheme found =>
      h scheme (schemeAtStart?_some found).1 (schemeAtStart?_some found).2
  unfold credentialsAtStart?
  rw [none]

/-- A text without the letter that schemes start with is copied. -/
theorem url_append_of_ne (h : ∀ c ∈ t, c ≠ CodePoint.ofChar 'h') (rest : Text) :
    url (t ++ rest) = t ++ url rest := by
  induction t with
  | nil => rfl
  | cons c t ih =>
    obtain ⟨here, further⟩ := List.forall_mem_cons.1 h
    rw [List.cons_append, url_cons_of_not_starts, ih further, List.cons_append]
    rintro scheme (rfl | rfl) starts <;> exact here (List.cons_prefix_cons.1 starts).1.symm

/-- A scheme has slashes and no at sign. -/
theorem not_prefix_at (known : scheme = Text.ofString "https://" ∨ scheme = Text.ofString "http://")
    (h : CodePoint.ofChar '/' ∉ t) (rest : Text) :
    ¬ scheme <+: t ++ CodePoint.ofChar '@' :: rest := by
  intro starts
  have slash : CodePoint.ofChar '/' ∈ scheme := by rcases known with rfl | rfl <;> decide
  have noSign : CodePoint.ofChar '@' ∉ scheme := by rcases known with rfl | rfl <;> decide
  have front : t ++ [CodePoint.ofChar '@'] <+: t ++ CodePoint.ofChar '@' :: rest :=
    ⟨rest, by simp⟩
  rcases List.prefix_or_prefix_of_prefix starts front with short | long
  · have inside := short.subset slash
    rw [List.mem_append, List.mem_singleton] at inside
    exact inside.elim h (by decide)
  · exact noSign (long.subset (by simp))

/-- A text without a slash is copied up to an at sign behind it. -/
theorem url_append_at (h : CodePoint.ofChar '/' ∉ t) (rest : Text) :
    url (t ++ CodePoint.ofChar '@' :: rest) = t ++ CodePoint.ofChar '@' :: url rest := by
  induction t with
  | nil => exact url_append_of_ne (t := [CodePoint.ofChar '@']) (by decide) rest
  | cons c t ih =>
    rw [List.cons_append, url_cons_of_not_starts, ih fun hm => h (List.mem_cons_of_mem _ hm),
      List.cons_append]
    exact fun scheme known => not_prefix_at known h rest

/-! ### Schemes in any letter case -/

/-- The letters of a scheme behind the first one, in any letter case. -/
theorem exists_scheme
    (h : Text.asciiLower scheme = "http" ∨ Text.asciiLower scheme = "https") :
    ∃ c tail, scheme = c :: tail ∧ (∀ d ∈ tail, d ≠ CodePoint.ofChar 'h') ∧
      ∀ d ∈ scheme, d ≠ CodePoint.ofChar ':' := by
  obtain ⟨tail, lowered, further⟩ : ∃ tail : Text,
      Text.asciiLower scheme = CodePoint.ofChar 'h' :: tail ∧
        (tail = "ttp" ∨ tail = "ttps") :=
    h.elim (fun lowered => ⟨_, lowered, .inl rfl⟩) fun lowered => ⟨_, lowered, .inr rfl⟩
  have colon : ∀ d ∈ scheme, d ≠ CodePoint.ofChar ':' := by
    rintro d hd rfl
    have inside : CodePoint.ofChar ':' ∈ Text.asciiLower scheme := List.mem_map_of_mem hd
    rw [lowered] at inside
    rcases further with rfl | rfl <;> exact absurd inside (by decide)
  obtain ⟨c, rest, rfl, -, rest_eq⟩ := List.map_eq_cons_iff.1 lowered
  refine ⟨c, rest, rfl, ?_, colon⟩
  rintro d hd rfl
  have inside : CodePoint.ofChar 'h' ∈ rest.map CodePoint.asciiLower := List.mem_map_of_mem hd
  rw [rest_eq] at inside
  rcases further with rfl | rfl <;> exact absurd inside (by decide)

/-- The scheme in front of credentials, without the slashes. -/
theorem Opens.exists_word (h : Opens scheme user password) :
    ∃ word : Text, scheme = word ++ Text.ofString "://" ∧ (word = "http" ∨ word = "https") ∧
      ∀ d ∈ word, d ≠ CodePoint.ofChar ':' := by
  rcases h.scheme with rfl | rfl
  · exact ⟨"https", rfl, .inr rfl, by decide⟩
  · exact ⟨"http", rfl, .inl rfl, by decide⟩

/-- What credentials at the start of a URL are. Its own scheme is that of the credentials. -/
theorem exists_of_credentialsAtStart? {behind : Text} {found : Text × Nat}
    (noColon : ∀ d ∈ scheme, d ≠ CodePoint.ofChar ':')
    (h : credentialsAtStart? (scheme ++ "://" ++ behind) = some found) :
    (scheme = "http" ∨ scheme = "https") ∧ ∃ user password rest,
      Opens (scheme ++ "://") user password ∧ behind = user ++ ":" ++ password ++ "@" ++ rest := by
  obtain ⟨scheme', n⟩ := found
  obtain ⟨user, password, rest, opens, eq, -⟩ := credentialsAtStart?_some h
  obtain ⟨word, rfl, known, noColon'⟩ := opens.exists_word
  have eq' : scheme ++ CodePoint.ofChar ':' :: (Text.ofString "//" ++ behind) =
      word ++ CodePoint.ofChar ':' ::
        (Text.ofString "//" ++ (user ++ ":" ++ password ++ "@" ++ rest)) := by
    simp only [spelled, List.append_assoc, List.cons_append] at eq ⊢
    exact eq
  -- Both schemes go up to the first colon.
  have words := congrArg (List.takeWhile fun d => d ≠ CodePoint.ofChar ':') eq'
  rw [takeWhile_left (fun d hd => decide_eq_true (noColon d hd)) (by decide),
    takeWhile_left (fun d hd => decide_eq_true (noColon' d hd)) (by decide)] at words
  subst words
  rw [List.append_cancel_left_eq, List.cons.injEq, List.append_cancel_left_eq] at eq'
  exact ⟨known, user, password, rest, opens, eq'.2⟩

/-- The credentials are found only if they are spelled in the usual way. -/
theorem Login.credentialsAtStart?_none (h : Login scheme user password)
    (unusual : ¬ Redactable scheme user) (rest : Text) :
    credentialsAtStart? (withPassword scheme user password rest) = none := by
  obtain ⟨-, -, -, -, noColon⟩ := exists_scheme h.scheme
  have text_eq : withPassword scheme user password rest =
      scheme ++ "://" ++ (user ++ ":" ++ password ++ "@" ++ rest) := by
    simp only [withPassword, List.append_assoc]
  rw [text_eq]
  by_contra found
  obtain ⟨found, hf⟩ := Option.ne_none_iff_exists'.1 found
  obtain ⟨known, user', password', rest', opens, eq⟩ := exists_of_credentialsAtStart? noColon hf
  refine unusual ⟨known, ?_⟩
  rintro rfl
  obtain ⟨hasUser, inside⟩ := opens.user
  cases user' with
  | nil => exact hasUser rfl
  | cons c user' =>
    have colon : CodePoint.ofChar ':' = c := (List.cons.inj eq).1
    have outside := inside c List.mem_cons_self
    rw [← colon] at outside
    exact absurd outside (by decide)

/-! ### Whole URLs -/

theorem inUser_iff {c : CodePoint} : inUser c = true ↔ c ∉ Text.ofString ":/@" := by
  simp [inUser, Text.ofString, and_assoc]

theorem inPassword_iff {c : CodePoint} : inPassword c = true ↔ c ∉ Text.ofString "@/" := by
  simp [inPassword, Text.ofString]

theorem Login.opens (h : Login scheme user password) (usual : Redactable scheme user) :
    Opens (scheme ++ "://") user password := by
  obtain ⟨known, hasUser⟩ := usual
  refine ⟨?_, ⟨hasUser, fun c hc => ?_⟩, ⟨h.password.1, fun c hc => ?_⟩⟩
  · rcases known with rfl | rfl
    · exact .inr rfl
    · exact .inl rfl
  · exact inUser_iff.2 fun inside => h.user c hc
      ((by decide : Text.ofString ":/@" ⊆ Text.ofString ":@/?#") inside)
  · exact inPassword_iff.2 fun inside => h.password.2 c hc
      ((by decide : Text.ofString "@/" ⊆ Text.ofString "@/?#") inside)

/-- Credentials that are spelled in the usual way are replaced. -/
theorem Login.url_of_redactable (h : Login scheme user password) (usual : Redactable scheme user)
    (rest : Text) : url (withPassword scheme user password rest) =
      withPassword scheme mark mark (url rest) := by
  rw [withPassword_eq, url_spelled (h.opens usual)]
  simp only [withPassword, credentialsMark, List.append_assoc]
  rfl

/-- Any others stay as they are. -/
theorem Login.url_of_not (h : Login scheme user password) (unusual : ¬ Redactable scheme user)
    (rest : Text) : url (withPassword scheme user password rest) =
      withPassword scheme user password (url rest) := by
  have none := h.credentialsAtStart?_none unusual rest
  obtain ⟨c, tail, rfl, small, -⟩ := exists_scheme h.scheme
  have noSlash : CodePoint.ofChar '/' ∉ user ++ ":" ++ password := by
    intro inside
    simp only [List.mem_append] at inside
    rcases inside with (inside | inside) | inside
    · exact h.user _ inside (by decide)
    · exact absurd inside (by decide)
    · exact h.password.2 _ inside (by decide)
  have text_eq (rest : Text) : withPassword (c :: tail) user password rest =
      c :: (tail ++ (Text.ofString "://" ++
        ((user ++ ":" ++ password) ++ CodePoint.ofChar '@' :: rest))) := by
    simp only [withPassword, List.append_assoc, List.cons_append]
    rfl
  rw [text_eq] at none
  rw [text_eq, text_eq, url_cons_of_none none, url_append_of_ne small,
    url_append_of_ne (t := Text.ofString "://") (by decide), url_append_at noSlash]

/-- **When a password is kept from the log.** Two URLs that are the same but for their passwords are
redacted to the same text exactly if their scheme is in lower case and there is a user name. Then
both the user name and the password are replaced; otherwise they stay as they are. -/
theorem url_withPassword_eq_iff (h : Login scheme user password)
    (h' : Login scheme user password') (rest : Text) :
    (url (withPassword scheme user password rest) = url (withPassword scheme user password' rest) ↔
      password = password' ∨ Redactable scheme user) ∧
    (Redactable scheme user → url (withPassword scheme user password rest) =
      withPassword scheme mark mark (url rest)) ∧
    (¬ Redactable scheme user → url (withPassword scheme user password rest) =
      withPassword scheme user password (url rest)) := by
  refine ⟨?_, fun usual => h.url_of_redactable usual rest, fun unusual => h.url_of_not unusual rest⟩
  by_cases usual : Redactable scheme user
  · rw [h.url_of_redactable usual, h'.url_of_redactable usual]
    exact iff_of_true rfl (.inr usual)
  · rw [h.url_of_not usual, h'.url_of_not usual, or_iff_left usual]
    simp only [withPassword, List.append_assoc, List.append_cancel_left_eq,
      List.append_cancel_right_eq]

/-- Two passwords in front of a host, neither of which is told. -/
theorem url_withPassword_eq_iff_bob :
    Login "https" "bob" "one" ∧ Login "https" "bob" "two" ∧
      url (withPassword "https" "bob" "one" "h/?a@b") =
        url (withPassword "https" "bob" "two" "h/?a@b") := by
  have one : Login "https" "bob" "one" := ⟨by decide, by decide, by decide⟩
  have two : Login "https" "bob" "two" := ⟨by decide, by decide, by decide⟩
  exact ⟨one, two, (url_withPassword_eq_iff one two _).1.2 (.inr ⟨.inr rfl, by decide⟩)⟩

/-- Passwords are told behind a scheme in upper case, and where there is no user name. -/
theorem not_url_withPassword_eq :
    (¬ ∀ user password password' rest : Text, Login "HTTPS" user password →
      Login "HTTPS" user password' → url (withPassword "HTTPS" user password rest) =
        url (withPassword "HTTPS" user password' rest)) ∧
    ¬ ∀ scheme password password' rest : Text, Login scheme [] password →
      Login scheme [] password' → url (withPassword scheme [] password rest) =
        url (withPassword scheme [] password' rest) := by
  constructor
  · intro h
    exact absurd (h "bob" "one" "two" "h/" ⟨by decide, by decide, by decide⟩
      ⟨by decide, by decide, by decide⟩) (by decide)
  · intro h
    exact absurd (h "https" "one" "two" "h/" ⟨by decide, by decide, by decide⟩
      ⟨by decide, by decide, by decide⟩) (by decide)

end HttpCourier.Redaction
