import HttpCourier.Proofs.Request.Agreement
import HttpCourier.Proofs.Request.Verdicts
import HttpCourier.Proofs.Text.Case
import HttpCourier.Proofs.Url.Parts

/-!
# HttpCourier.Proofs.Request.Targets

**The URL of a checked configuration.** The check does not look at a URL as it stands: it strips
the text of white space, and what takes a URL apart then drops controls in front and line breaks
anywhere. What is left (`Url.tidied`) begins with `http://` or `https://` and has an authority
(`Url.Web`). The reader keeps the text as it was given, and that is what a request starts from.

So the URL that is sent is one of the web exactly if there was nothing to tidy, and if its authority
names a host, for which the check does not ask (`Verdict.target_sendable_iff`).
-/

namespace HttpCourier

open Json (Value Members)

/-! ### Texts that are stripped -/

namespace Text

variable {t : Text} {p : CodePoint → Bool}

theorem stripBy_sublist (p : CodePoint → Bool) (t : Text) : (stripBy p t).Sublist t := by
  have back := List.dropWhile_sublist p (l := (t.dropWhile p).reverse)
  rw [← List.reverse_sublist, List.reverse_reverse] at back
  exact back.trans (List.dropWhile_sublist p)

theorem dropWhile_eq_self_iff : t.dropWhile p = t ↔ ∀ c ∈ t.head?, p c = false := by
  cases t with
  | nil => simp
  | cons c t =>
    cases hc : p c with
    | false => simp [hc]
    | true =>
      refine iff_of_false (fun same => ?_) (by simp [hc])
      have shorter := List.length_dropWhile_le p t
      rw [List.dropWhile_cons_of_pos hc] at same
      rw [same, List.length_cons] at shorter
      omega

/-- **Nothing is stripped** from a text exactly if nothing stands at either end that could be. -/
theorem stripBy_eq_self_iff : stripBy p t = t ↔
    (∀ c ∈ t.head?, p c = false) ∧ ∀ c ∈ t.getLast?, p c = false := by
  have last : (∀ c ∈ t.getLast?, p c = false) ↔ t.reverse.dropWhile p = t.reverse := by
    rw [dropWhile_eq_self_iff, List.head?_reverse]
  rw [last, ← dropWhile_eq_self_iff]
  unfold stripBy
  constructor
  · intro same
    -- What is dropped in front does not come back.
    have front : t.dropWhile p = t := by
      refine (List.dropWhile_sublist p).antisymm ?_
      have back := List.dropWhile_sublist p (l := (t.dropWhile p).reverse)
      rw [← List.reverse_sublist, same, List.reverse_reverse] at back
      exact back
    rw [front, List.reverse_eq_iff] at same
    exact ⟨front, same⟩
  · rintro ⟨front, back⟩
    rw [front, back, List.reverse_reverse]

end Text

/-! ### URLs of the web -/

namespace Url

/-- The host that an authority names. -/
def hostIn (authority : Text) : Text := (splitAuthority authority).2.1

/-- The text begins with `http://` or `https://`, in any letter case, and this authority. -/
def Web (t authority : Text) : Prop :=
  ∃ scheme rest : Text, t = scheme ++ "://" ++ authority ++ rest ∧
    (Text.asciiLower scheme = "http" ∨ Text.asciiLower scheme = "https") ∧
    (∀ c ∈ authority, endsAuthority c = false) ∧ ∀ c ∈ rest.head?, endsAuthority c = true

/-- The text is a URL of the web as it stands: it begins with `http://` or `https://`, in any letter
case, and an authority that names a host, and it has no white space at either end, and no tab or
line break anywhere. -/
structure Sendable (t : Text) : Prop where
  web : ∃ authority, Web t authority ∧ hostIn authority ≠ []
  first : ∀ c ∈ t.head?, c.isBlank = false
  last : ∀ c ∈ t.getLast?, c.isBlank = false
  unbroken : ∀ c ∈ t, isBreak c = false

variable {t scheme authority authority' : Text}

theorem isAscii_of_isSchemeLetter {c : CodePoint} (h : isSchemeLetter c = true) :
    c.isAscii = true := by
  simp only [isSchemeLetter, CodePoint.isLetter, CodePoint.isDigit, Bool.or_eq_true,
    Bool.and_eq_true, decide_eq_true_eq] at h
  refine decide_eq_true ?_
  rcases h with (((h | h) | rfl) | rfl) | rfl
  · omega
  · omega
  all_goals decide

/-- In a scheme of the web, all is a letter. -/
theorem isLetter_of_web (web : Text.asciiLower scheme = "http" ∨ Text.asciiLower scheme = "https") :
    ∀ c ∈ scheme, c.isLetter = true := by
  have letters : ∀ d ∈ Text.asciiLower scheme, d.isLetter = true := by
    rcases web with web | web <;> rw [web] <;> decide
  intro c hc
  have lowered := letters _ (List.mem_map_of_mem hc)
  rwa [CodePoint.apply_asciiLower (f := CodePoint.isLetter) (by decide)] at lowered

theorem Web.head? (web : Web t authority) : ∀ c ∈ t.head?, c.isLetter = true := by
  obtain ⟨scheme, rest, rfl, known, -⟩ := web
  cases scheme with
  | nil => rcases known with known | known <;> exact absurd known (by decide)
  | cons c scheme =>
    rintro _ ⟨⟩
    exact isLetter_of_web known c List.mem_cons_self

/-- A text has one authority at most. -/
theorem Web.unique (web : Web t authority) (web' : Web t authority') : authority = authority' := by
  obtain ⟨scheme, rest, rfl, known, inside, ends⟩ := web
  obtain ⟨scheme', rest', same, known', inside', ends'⟩ := web'
  have noColon {s : Text} (known : Text.asciiLower s = "http" ∨ Text.asciiLower s = "https") :
      CodePoint.ofChar ':' ∉ s := fun h =>
    absurd (isLetter_of_web known _ h) (by decide)
  have split {s a r : Text} (known : Text.asciiLower s = "http" ∨ Text.asciiLower s = "https") :
      Text.splitFirst? ':' (s ++ "://" ++ a ++ r) = some (s, ("//" : Text) ++ (a ++ r)) := by
    rw [List.append_assoc, List.append_assoc]
    exact Text.splitFirst?_append (noColon known) _
  have behind := (split known (a := authority) (r := rest)).symm.trans
    (same ▸ split known' (a := authority') (r := rest'))
  have behind := List.append_cancel_left (Prod.mk.inj (Option.some.inj behind)).2
  have cut := breakAt_of_forall inside ends
  rw [behind, breakAt_of_forall inside' ends'] at cut
  exact (Prod.mk.inj cut).1.symm

/-! ### What the check passes -/

theorem splitScheme_eq {s rest : Text} (h : splitScheme t = (s, rest)) (present : s ≠ []) :
    ∃ scheme, t = scheme ++ CodePoint.ofChar ':' :: rest ∧ Text.asciiLower scheme = s := by
  unfold splitScheme at h
  by_cases colon : CodePoint.ofChar ':' ∈ t
  · obtain ⟨scheme, behind, rfl, first⟩ := List.eq_append_cons_of_mem colon
    rw [Text.splitFirst?_append first] at h
    dsimp only at h
    split at h
    · next c front =>
      split at h
      · next letters =>
        cases h
        refine ⟨c :: front, rfl, (Text.lower_of_isAscii ?_).symm⟩
        have letters := List.all_eq_true.1 (Bool.and_eq_true_iff.1 letters).2
        exact List.all_eq_true.2 fun d hd => isAscii_of_isSchemeLetter (letters d hd)
      · cases h
        exact absurd rfl present
    · cases h
      exact absurd rfl present
  · rw [Text.splitFirst?_of_notMem colon] at h
    cases h
    exact absurd rfl present

/-- A text with an authority has it behind its scheme and two slashes. -/
theorem exists_authorityOf (present : authorityOf t ≠ []) :
    ∃ rest, (splitScheme (tidied t)).2 = "//" ++ (authorityOf t ++ rest) ∧
      (∀ c ∈ authorityOf t, endsAuthority c = false) ∧
      ∀ c ∈ rest.head?, endsAuthority c = true := by
  unfold authorityOf at *
  dsimp only at *
  split at present
  · next slashes =>
    obtain ⟨behind, eq⟩ := List.isPrefixOf_iff_prefix.1 slashes
    rw [if_pos slashes, ← eq]
    refine ⟨behind.dropWhile fun c => !endsAuthority c, ?_, ?_, ?_⟩
    · exact congrArg (("//" : Text) ++ ·) (List.takeWhile_append_dropWhile).symm
    · intro c hc
      simpa using List.mem_takeWhile_imp hc
    · intro c hc
      have first := List.head?_dropWhile_not (fun c => !endsAuthority c) behind
      rw [Option.mem_def.1 hc] at first
      simpa using first
  · exact absurd rfl present

/-- **A URL that passes the check** is one of the web, once it is tidied. -/
theorem web_of_split {parts : Split} (h : split t = .ok parts)
    (scheme : parts.scheme = "http" ∨ parts.scheme = "https") (authority : parts.authority ≠ []) :
    Web (tidied t) parts.authority := by
  obtain ⟨scheme_eq, authority_eq⟩ := parts_of_split h
  rw [authority_eq] at authority ⊢
  rw [scheme_eq] at scheme
  obtain ⟨rest, behind, inside, ends⟩ := exists_authorityOf authority
  have present : (splitScheme (tidied t)).1 ≠ [] := by
    rcases scheme with scheme | scheme <;> rw [scheme] <;> decide
  obtain ⟨front, spelled, lowered⟩ := splitScheme_eq (Prod.eta _).symm present
  refine ⟨front, rest, ?_, lowered ▸ scheme, inside, ends⟩
  rw [spelled, behind, List.append_assoc, List.append_assoc]
  rfl

/-- **A text is a URL of the web as it stands** exactly if there is nothing to tidy about it and its
authority names a host. -/
theorem sendable_iff (web : Web (tidied (Text.strip t)) authority) :
    Sendable t ↔ tidied (Text.strip t) = t ∧ hostIn authority ≠ [] := by
  constructor
  · rintro ⟨⟨authority', web', host⟩, first, last, unbroken⟩
    have stripped : Text.strip t = t := Text.stripBy_eq_self_iff.2 ⟨first, last⟩
    have tidy : tidied t = t := by
      have front : t.dropWhile isLeadingJunk = t := by
        refine Text.dropWhile_eq_self_iff.2 fun c hc => ?_
        have letter := web'.head? c hc
        simp only [CodePoint.isLetter, Bool.or_eq_true, Bool.and_eq_true, decide_eq_true_eq]
          at letter
        exact decide_eq_false (by omega)
      unfold tidied
      rw [front, List.filter_eq_self]
      intro c hc
      rw [unbroken c hc]
      rfl
    rw [stripped, tidy] at web ⊢
    exact ⟨rfl, web'.unique web ▸ host⟩
  · rintro ⟨same, host⟩
    have inside : (tidied (Text.strip t)).Sublist (Text.strip t) :=
      List.filter_sublist.trans (List.dropWhile_sublist _)
    have stripped : Text.strip t = t :=
      (Text.stripBy_sublist _ t).antisymm (by rwa [same] at inside)
    obtain ⟨first, last⟩ := Text.stripBy_eq_self_iff.1 stripped
    refine ⟨⟨authority, same ▸ web, host⟩, first, last, fun c hc => ?_⟩
    rw [← same] at hc
    simpa using (List.mem_filter.1 hc).2

end Url

/-! ### Documents that are checked and read -/

theorem Check.split_of_url {t : Text} (h : Check.url (some (.string t)) = .ok []) :
    ∃ parts, Url.split (Text.strip t) = .ok parts ∧
      (parts.scheme = "http" ∨ parts.scheme = "https") ∧ parts.authority ≠ [] := by
  unfold Check.url at h
  dsimp only at h
  split at h
  · cases h
  · obtain ⟨parts, split, none⟩ := ok_of_map h
    refine ⟨parts, split, ?_⟩
    split at none
    · cases none
    · split at none
      · cases none
      · next known =>
        split at none
        · cases none
        · next present =>
          refine ⟨?_, present⟩
          by_contra foreign
          exact known (not_or.1 foreign)

namespace Verdict

/-- **The URL of a checked configuration.** Once it is tidied it is a URL of the web with an
authority. The URL of the request that is read of the same document is one as it stands exactly if
it was tidy, and its authority names a host. -/
theorem target_sendable_iff {d : Value} {v : Verdict} {defaults : Document.Defaults}
    {r : RequestSpec} (checked : ofDocument d = .ok v) (valid : v.isValid = true)
    (read : RequestSpec.ofDocument d defaults = .ok r) :
    let target := r.target.text
    let authority := Url.authorityOf (Text.strip target)
    Url.Web (Url.tidied (Text.strip target)) authority ∧ authority ≠ [] ∧
      (Url.Sendable target ↔
        Url.tidied (Text.strip target) = target ∧ Url.hostIn authority ≠ []) := by
  obtain ⟨members, rfl, passes⟩ := passes_of_isValid checked valid
  have onUrl := passes.url
  rw [(RequestSpec.readFrom_of_ofMembers read).target] at onUrl
  obtain ⟨parts, split, scheme, present⟩ := Check.split_of_url onUrl
  have web := Url.web_of_split split scheme present
  rw [(Url.parts_of_split split).2] at web present
  exact ⟨web, present, Url.sendable_iff web⟩

/-- The request that is read of a document, if that passes the check. -/
def passed? (d : Value) : Option RequestSpec := do
  let v ← (ofDocument d).toOption
  if v.isValid then (RequestSpec.ofDocument d .usual).toOption else none

theorem exists_of_passed? {d : Value} {target : Text}
    (h : (passed? d).map (fun r => r.target.text) = some target) :
    ∃ v r, ofDocument d = .ok v ∧ v.isValid = true ∧
      RequestSpec.ofDocument d .usual = .ok r ∧ r.target.text = target := by
  obtain ⟨r, passed, rfl⟩ := Option.map_eq_some_iff.1 h
  unfold passed? at passed
  cases checked : ofDocument d with
  | error e =>
    rw [checked] at passed
    cases passed
  | ok v =>
    rw [checked] at passed
    change (if v.isValid then _ else _) = _ at passed
    split at passed
    · next valid =>
      cases read : RequestSpec.ofDocument d .usual with
      | error e =>
        rw [read] at passed
        cases passed
      | ok r' =>
        rw [read] at passed
        cases passed
        exact ⟨v, r, rfl, valid, rfl, rfl⟩
    · cases passed

theorem target_sendable_iff_mixed : ∃ v r,
    ofDocument (.object [("url", .string "HttpS://u@h:80?a")]) = .ok v ∧ v.isValid = true ∧
      RequestSpec.ofDocument (.object [("url", .string "HttpS://u@h:80?a")]) .usual = .ok r ∧
      Url.Sendable r.target.text := by
  obtain ⟨v, r, checked, valid, read, target⟩ :=
    @exists_of_passed? (.object [("url", .string "HttpS://u@h:80?a")]) "HttpS://u@h:80?a"
      (by decide +kernel)
  refine ⟨v, r, checked, valid, read, (target_sendable_iff checked valid read).2.2.2 ?_⟩
  rw [target]
  decide +kernel

/-- **A URL passes the check and is sent as something else**, for a space in front of it. -/
theorem not_target_sendable : ¬ ∀ (d : Value) (v : Verdict) (defaults : Document.Defaults)
    (r : RequestSpec), ofDocument d = .ok v → v.isValid = true →
    RequestSpec.ofDocument d defaults = .ok r → Url.Sendable r.target.text := by
  intro claim
  obtain ⟨v, r, checked, valid, read, target⟩ :=
    @exists_of_passed? (.object [("url", .string " https://h/")]) " https://h/" (by decide +kernel)
  have sendable := claim _ v .usual r checked valid read
  rw [target] at sendable
  exact absurd (sendable.first _ rfl) (by decide)

end Verdict

end HttpCourier
