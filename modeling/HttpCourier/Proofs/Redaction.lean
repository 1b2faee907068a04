import HttpCourier.Redaction
import Mathlib.Data.List.TakeWhile
import Mathlib.Tactic.ByContra

/-!
# HttpCourier.Proofs.Redaction

**Where a URL is redacted.** Credentials at the start of a text are a scheme, a user name, a colon,
a password and an at sign, and nothing else (`Redaction.credentialsAtStart?_some`). So what is
redacted ends with an at sign, and a text behind the last one of them does not matter
(`Redaction.url_append`).
-/

namespace HttpCourier.Redaction

variable {scheme user password t tail : Text} {n : Nat}

/-- The parts of credentials in front of a host. -/
structure Opens (scheme user password : Text) : Prop where
  scheme : scheme = Text.ofString "https://" ∨ scheme = Text.ofString "http://"
  user : user ≠ [] ∧ ∀ c ∈ user, inUser c = true
  password : password ≠ [] ∧ ∀ c ∈ password, inPassword c = true

/-- The credentials with these parts. -/
def spelled (scheme user password : Text) : Text :=
  scheme ++ (user ++ CodePoint.ofChar ':' :: (password ++ [CodePoint.ofChar '@']))

theorem getLast?_spelled (scheme user password : Text) :
    (spelled scheme user password).getLast? = some (CodePoint.ofChar '@') := by
  unfold spelled
  rw [← List.cons_append, ← List.append_assoc, ← List.append_assoc, List.getLast?_concat]

theorem schemeAtStart?_some (h : schemeAtStart? t = some scheme) :
    (scheme = Text.ofString "https://" ∨ scheme = Text.ofString "http://") ∧ scheme <+: t := by
  unfold schemeAtStart? at h
  split at h
  · next starts =>
    cases h
    exact ⟨.inl rfl, List.isPrefixOf_iff_prefix.1 starts⟩
  · split at h
    · next starts =>
      cases h
      exact ⟨.inr rfl, List.isPrefixOf_iff_prefix.1 starts⟩
    · cases h

theorem schemeAtStart?_append
    (h : scheme = Text.ofString "https://" ∨ scheme = Text.ofString "http://") (t : Text) :
    schemeAtStart? (scheme ++ t) = some scheme := by
  rcases h with rfl | rfl <;> rfl

theorem takeWhile_left {p : CodePoint → Bool} {c : CodePoint} {rest : Text}
    (inside : ∀ d ∈ t, p d = true) (stop : p c = false) : (t ++ c :: rest).takeWhile p = t := by
  rw [List.takeWhile_append_of_pos inside, List.takeWhile_cons_of_neg (by rw [stop]; decide),
    List.append_nil]

/-- Credentials that are spelled out are found. -/
theorem credentialsAtStart?_spelled (h : Opens scheme user password) (rest : Text) :
    credentialsAtStart? (spelled scheme user password ++ rest) =
      some (scheme, (spelled scheme user password).length) := by
  have text_eq : spelled scheme user password ++ rest =
      scheme ++ (user ++ CodePoint.ofChar ':' :: (password ++ CodePoint.ofChar '@' :: rest)) := by
    simp [spelled]
  have length_eq : (spelled scheme user password).length =
      scheme.length + user.length + password.length + 2 := by
    simp only [spelled, List.length_append, List.length_cons, List.length_nil]
    omega
  unfold credentialsAtStart?
  rw [text_eq, length_eq, schemeAtStart?_append h.scheme]
  dsimp only
  rw [List.drop_left, takeWhile_left h.user.2 (by decide), List.drop_left, List.drop_succ_cons,
    List.drop_zero, takeWhile_left h.password.2 (by decide), Nat.add_comm 1, List.drop_succ_cons,
    List.drop_left]
  exact if_pos ⟨h.user.1, rfl, h.password.1, rfl⟩

/-- **What credentials at the start of a text are.** -/
theorem credentialsAtStart?_some (h : credentialsAtStart? t = some (scheme, n)) :
    ∃ user password rest, Opens scheme user password ∧ t = spelled scheme user password ++ rest ∧
      n = (spelled scheme user password).length := by
  unfold credentialsAtStart? at h
  split at h
  · cases h
  · next found hf =>
    obtain ⟨known, behind, rfl⟩ := schemeAtStart?_some hf
    dsimp only at h
    rw [List.drop_left] at h
    split at h
    · next all =>
      obtain ⟨hasUser, colon, hasPassword, sign⟩ := all
      cases h
      have users : behind.takeWhile inUser ++ behind.drop (behind.takeWhile inUser).length =
          behind := List.prefix_iff_eq_append.1 (List.takeWhile_prefix _)
      have inside : ∀ c ∈ behind.takeWhile inUser, inUser c = true :=
        fun _ => List.mem_takeWhile_imp
      generalize behind.takeWhile inUser = user at *
      obtain ⟨secret, hs⟩ := List.head?_eq_some_iff.1 colon
      rw [hs] at users hasPassword sign ⊢
      rw [List.drop_succ_cons, List.drop_zero] at hasPassword sign ⊢
      rw [Nat.add_comm 1, List.drop_succ_cons] at sign
      have passwords : secret.takeWhile inPassword ++
          secret.drop (secret.takeWhile inPassword).length = secret :=
        List.prefix_iff_eq_append.1 (List.takeWhile_prefix _)
      have within : ∀ c ∈ secret.takeWhile inPassword, inPassword c = true :=
        fun _ => List.mem_takeWhile_imp
      generalize secret.takeWhile inPassword = password at *
      obtain ⟨rest, hr⟩ := List.head?_eq_some_iff.1 sign
      rw [hr] at passwords
      refine ⟨user, password, rest, ⟨known, ⟨hasUser, inside⟩, ⟨hasPassword, within⟩⟩, ?_, ?_⟩
      · rw [← users, ← passwords]
        simp [spelled]
      · simp only [spelled, List.length_append, List.length_cons, List.length_nil]
        omega
    · cases h

/-! ### Texts without an at sign at their end -/

/-- Nothing behind the last at sign makes a difference to what credentials are found. -/
theorem credentialsAtStart?_append (h : CodePoint.ofChar '@' ∉ tail) :
    credentialsAtStart? (t ++ tail) = credentialsAtStart? t := by
  cases found : credentialsAtStart? t with
  | some credentials =>
    obtain ⟨scheme, n⟩ := credentials
    obtain ⟨user, password, rest, opens, rfl, rfl⟩ := credentialsAtStart?_some found
    rw [List.append_assoc]
    exact credentialsAtStart?_spelled opens _
  | none =>
    by_contra other
    obtain ⟨⟨scheme, n⟩, found'⟩ := Option.ne_none_iff_exists'.1 other
    obtain ⟨user, password, rest, opens, text_eq, -⟩ := credentialsAtStart?_some found'
    rcases List.append_eq_append_iff.1 text_eq with ⟨more, spelled_eq, tail_eq⟩ | ⟨more, rfl, -⟩
    · rcases List.eq_nil_or_concat more with rfl | ⟨front, c, rfl⟩
      · rw [List.append_nil] at spelled_eq
        rw [← spelled_eq, ← List.append_nil (spelled _ _ _),
          credentialsAtStart?_spelled opens []] at found
        cases found
      · -- The at sign is the last code point of the credentials.
        have last := congrArg List.getLast? spelled_eq
        rw [getLast?_spelled, List.concat_eq_append, ← List.append_assoc,
          List.getLast?_concat] at last
        cases last
        refine absurd ?_ h
        rw [tail_eq, List.concat_eq_append]
        simp
    · rw [credentialsAtStart?_spelled opens more] at found
      cases found

/-- The redaction of a text in which credentials go on for a while. -/
theorem urlFrom_append (h : CodePoint.ofChar '@' ∉ tail) {skip : Nat} (inside : skip ≤ t.length) :
    urlFrom skip (t ++ tail) = urlFrom skip t ++ tail := by
  induction t generalizing skip with
  | nil =>
    rw [Nat.le_zero.1 inside]
    show urlFrom 0 tail = tail
    induction tail with
    | nil => rfl
    | cons c tail ih =>
      have none : credentialsAtStart? (c :: tail) = none :=
        credentialsAtStart?_append (t := []) h
      rw [urlFrom, none]
      exact congrArg _ (ih (fun hm => h (List.mem_cons_of_mem _ hm)))
  | cons c t ih =>
    rw [List.cons_append]
    cases skip with
    | succ skip => exact ih (Nat.le_of_succ_le_succ inside)
    | zero =>
      have found_eq : credentialsAtStart? (c :: (t ++ tail)) = credentialsAtStart? (c :: t) :=
        credentialsAtStart?_append (t := c :: t) h
      rw [urlFrom, urlFrom, found_eq]
      cases found : credentialsAtStart? (c :: t) with
      | none => exact congrArg _ (ih (Nat.zero_le _))
      | some credentials =>
        obtain ⟨scheme, n⟩ := credentials
        obtain ⟨user, password, rest, -, text_eq, rfl⟩ := credentialsAtStart?_some found
        have short := congrArg List.length text_eq
        rw [List.length_cons, List.length_append] at short
        dsimp only
        rw [ih (by omega), ← List.append_assoc]

/-- **A text without an at sign** stays as it is at the end of another one, and makes no difference
to what is redacted there. -/
theorem url_append (h : CodePoint.ofChar '@' ∉ tail) : url (t ++ tail) = url t ++ tail :=
  urlFrom_append h (Nat.zero_le _)

end HttpCourier.Redaction
