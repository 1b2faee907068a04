import HttpCourier.Proofs.Computation
import HttpCourier.Proofs.Json.Digits
import HttpCourier.Request.Check

/-!
# HttpCourier.Proofs.Request.Verdicts

**When the check of a configuration comes to a verdict.** Three things stop it: an integer with too
many digits in the text, a URL that cannot be taken apart, and the name of a credential scheme that
has no encoding. `Value.Checkable` says of a document that neither of the latter two is in it. All
else that is wrong with a configuration is an error of its verdict
(`Verdict.comes_iff`).
-/

namespace HttpCourier

open Json (Value Members)

/-! ### URLs that can be taken apart -/

namespace Url

/-- What is read of a text when it is taken apart as a URL: controls and spaces in front are
dropped, and so are tabs and line breaks. -/
def tidied (t : Text) : Text := (t.dropWhile isLeadingJunk).filter fun c => !isBreak c

/-- The authority of a URL: what stands between two slashes, the scheme aside, and the next
delimiter. -/
def authorityOf (url : Text) : Text :=
  let rest := (splitScheme (tidied url)).2
  if Text.startsWith rest "//" then (Text.breakAt endsAuthority (rest.drop 2)).1 else []

theorem exists_split_eq (t : Text) : ∃ parts : Split,
    parts.scheme = (splitScheme (tidied t)).1 ∧ parts.authority = authorityOf t ∧ split t = do
      checkBrackets (authorityOf t)
      if (authorityOf t).any hidesDelimiter then throw (.hiddenDelimiter (authorityOf t))
      return parts := by
  unfold split authorityOf tidied
  dsimp only
  split
  · exact ⟨_, rfl, rfl, rfl⟩
  · exact ⟨_, rfl, rfl, rfl⟩

/-- The parts of a URL that are found in front of its path. -/
theorem parts_of_split {t : Text} {parts : Split} (h : split t = .ok parts) :
    parts.scheme = (splitScheme (tidied t)).1 ∧ parts.authority = authorityOf t := by
  obtain ⟨found, scheme, authority, split_eq⟩ := exists_split_eq t
  rw [split_eq] at h
  obtain ⟨_, -, h⟩ := ok_of_bind h
  split at h
  · cases h
  · cases h
    exact ⟨scheme, authority⟩

/-- **A URL can be taken apart** exactly if brackets enclose an address in its authority, and no
delimiter hides there. -/
theorem split_ok_iff {t : Text} :
    (∃ parts, split t = .ok parts) ↔ checkBrackets (authorityOf t) = .ok () ∧
      ∀ c ∈ authorityOf t, hidesDelimiter c = false := by
  obtain ⟨parts, -, -, split_eq⟩ := exists_split_eq t
  rw [split_eq]
  cases checkBrackets (authorityOf t) with
  | error e =>
    refine iff_of_false ?_ ?_
    · rintro ⟨_, ⟨⟩⟩
    · rintro ⟨⟨⟩, -⟩
  | ok _ =>
    by_cases hidden : (authorityOf t).any hidesDelimiter = true
    · refine iff_of_false ?_ fun plain => ?_
      · rw [if_pos hidden]
        rintro ⟨_, ⟨⟩⟩
      · obtain ⟨c, hc, hides⟩ := List.any_eq_true.1 hidden
        rw [plain.2 c hc] at hides
        cases hides
    · rw [if_neg hidden]
      refine iff_of_true ⟨parts, rfl⟩ ⟨rfl, fun c hc => ?_⟩
      exact Bool.eq_false_iff.2 fun hides => hidden (List.any_eq_true.2 ⟨c, hc, hides⟩)

/-- The authority is part of the URL. -/
theorem authorityOf_sublist (t : Text) : (authorityOf t).Sublist t := by
  have schemed (t : Text) : (splitScheme t).2.Sublist t := by
    unfold splitScheme
    split
    · exact .refl t
    · next scheme rest cut =>
      have rest_sublist : rest.Sublist t := by
        unfold Text.splitFirst? at cut
        split at cut
        · cases cut
        · next tail whole =>
          cases cut
          exact ((List.sublist_cons_self _ _).trans (whole ▸ List.dropWhile_sublist _))
      split
      · split
        · exact rest_sublist
        · exact .refl t
      · exact .refl t
  unfold authorityOf
  dsimp only
  split
  · exact (List.takeWhile_sublist _).trans ((List.drop_sublist _ _).trans ((schemed _).trans
      ((List.filter_sublist).trans (List.dropWhile_sublist _))))
  · exact List.nil_sublist t

/-- A URL without brackets and without hidden delimiters can be taken apart. -/
theorem split_of_plain {t : Text} (opening : CodePoint.ofChar '[' ∉ t)
    (closing : CodePoint.ofChar ']' ∉ t) (plain : ∀ c ∈ t, hidesDelimiter c = false) :
    ∃ parts, split t = .ok parts := by
  have inside := (authorityOf_sublist t).subset
  refine split_ok_iff.2 ⟨?_, fun c hc => plain c (inside hc)⟩
  have no {c : CodePoint} (h : c ∉ t) : (authorityOf t).contains c = false :=
    Bool.eq_false_iff.2 fun hc => h (inside (List.contains_iff_mem.1 hc))
  unfold checkBrackets
  rw [no opening, no closing]
  rfl

end Url

/-! ### The parts of a document -/

namespace Check

theorem url_ok_iff {v : Option Value} :
    (∃ found, url v = .ok found) ↔ ∀ t, v = some (.string t) → Text.isBlank t = false →
      ∃ parts, Url.split (Text.strip t) = .ok parts := by
  unfold url
  split
  · next t =>
    split
    · next blank =>
      refine iff_of_true ⟨_, rfl⟩ ?_
      rintro _ ⟨⟩ present
      rw [blank] at present
      cases present
    · next present =>
      rw [ok_map_iff]
      constructor
      · rintro split _ ⟨⟩ -
        exact split
      · intro h
        exact h t rfl (Bool.eq_false_iff.2 present)
  · next other =>
    refine iff_of_true ⟨_, rfl⟩ ?_
    rintro t rfl
    exact absurd rfl (other t)

/-- A scheme's name is refused for its encoding alone. -/
theorem schemeName_ok_iff {kind : Text} {title : String} (present : kind ≠ []) :
    (∃ name, ((SchemeName.check (.string kind)).under "kind").orReject title = .ok name) ↔
      Text.Scalar kind := by
  unfold SchemeName.check Schema.properText
  dsimp only
  split
  · next scalar => exact iff_of_true ⟨_, rfl⟩ scalar
  · next lone =>
    refine iff_of_false ?_ lone
    rintro ⟨_, ⟨⟩⟩

theorem credential_ok_iff {auth : Members} :
    (∃ found, credential auth = .ok found) ↔
      ∀ kind, auth.get? "type" = some (.string kind) → Text.Scalar kind := by
  unfold credential
  split
  · next kind typed =>
    rw [typed]
    split
    · next empty =>
      refine iff_of_true ⟨_, rfl⟩ ?_
      rintro _ ⟨⟩
      rw [empty]
      exact fun _ hc => absurd hc List.not_mem_nil
    · next present =>
      rw [ok_map_iff, schemeName_ok_iff present]
      constructor
      · rintro scalar _ ⟨⟩
        exact scalar
      · intro h
        exact h kind rfl
  · next other =>
    exact iff_of_true ⟨_, rfl⟩ fun kind typed => absurd typed (other kind)

theorem credentialSection_ok_iff {members : Members} :
    (∃ found, credentialSection members = .ok found) ↔ ∀ (auth : Members) (kind : Text),
      members.find? "auth" = some (.object auth) → auth.get? "type" = some (.string kind) →
      Text.Scalar kind := by
  unfold credentialSection
  split
  · next none =>
    refine iff_of_true ⟨_, rfl⟩ fun auth kind found => ?_
    rw [none] at found
    cases found
  · next auth found =>
    rw [credential_ok_iff]
    constructor
    · intro h auth' kind found'
      rw [found] at found'
      cases found'
      exact h kind
    · exact fun h kind => h auth kind found
  · next other found =>
    refine iff_of_true ⟨_, rfl⟩ fun auth kind found' => ?_
    exact absurd (Option.some.inj (found.symm.trans found')) (other auth)

end Check

/-! ### Whole configurations -/

/-- The document does not stop the check: its URL can be taken apart, and the name of its
credential scheme has an encoding. -/
structure Document.Checkable (members : Members) : Prop where
  url : ∀ t, members.get? "url" = some (.string t) → Text.isBlank t = false →
    ∃ parts, Url.split (Text.strip t) = .ok parts
  scheme : ∀ (auth : Members) (kind : Text), members.find? "auth" = some (.object auth) →
    auth.get? "type" = some (.string kind) → Text.Scalar kind

/-- Only an object can stop the check. -/
def Json.Value.Checkable : Value → Prop
  | .object members => Document.Checkable members
  | _ => True

namespace Verdict

theorem findings_ok_iff {members : Members} :
    (∃ found, Check.findings members = .ok found) ↔ Document.Checkable members := by
  have parts : (∃ found, Check.findings members = .ok found) ↔
      (∃ found, Check.url (members.get? "url") = .ok found) ∧
        ∃ found, Check.credentialSection members = .ok found := by
    unfold Check.findings
    cases Check.url (members.get? "url") with
    | error e =>
      refine iff_of_false ?_ ?_
      · rintro ⟨_, ⟨⟩⟩
      · rintro ⟨⟨_, ⟨⟩⟩, -⟩
    | ok onUrl =>
      cases Check.credentialSection members with
      | error r =>
        refine iff_of_false ?_ ?_
        · rintro ⟨_, ⟨⟩⟩
        · rintro ⟨-, _, ⟨⟩⟩
      | ok onCredential => exact iff_of_true ⟨_, rfl⟩ ⟨⟨_, rfl⟩, ⟨_, rfl⟩⟩
  rw [parts, Check.url_ok_iff, Check.credentialSection_ok_iff]
  exact ⟨fun h => ⟨h.1, h.2⟩, fun h => ⟨h.url, h.scheme⟩⟩

theorem ofDocument_ok_iff {d : Value} : (∃ v, ofDocument d = .ok v) ↔ d.Checkable := by
  cases d with
  | object members =>
    rw [Value.Checkable, ← findings_ok_iff]
    show (∃ v, Check.findings members >>= _ = .ok v) ↔ _
    cases Check.findings members with
    | error e =>
      refine iff_of_false ?_ ?_
      · rintro ⟨_, ⟨⟩⟩
      · rintro ⟨_, ⟨⟩⟩
    | ok found => exact iff_of_true ⟨_, rfl⟩ ⟨found, rfl⟩
  | _ => exact iff_of_true ⟨_, rfl⟩ trivial

theorem isValid_ofDocument {d : Value} {v : Verdict} (h : ofDocument d = .ok v) :
    v.isValid = v.errors.isEmpty := by
  cases d with
  | object members =>
    obtain ⟨found, -, h⟩ := ok_of_bind h
    cases h
    rfl
  | _ =>
    cases h
    rfl

/-- How the check of a text goes on: with the document that the text spells, with the one error
that it is no JSON, or not at all. -/
theorem ofText_cases (t : Text) :
    (∃ d, Json.readLenient t = .ok d ∧ ofText t = ofDocument d) ∨
    (∃ failure reason, Json.readLenient t = .error failure ∧
      (∀ digits, failure ≠ .overlongInteger digits) ∧
      ofText t = .ok ⟨false, ["Invalid JSON: " ++ reason], []⟩) ∨
    ∃ digits, Json.readLenient t = .error (.overlongInteger digits) ∧
      ofText t = .error (.overlongInteger digits) := by
  unfold ofText
  cases Json.readLenient t with
  | ok d => exact .inl ⟨d, rfl, rfl⟩
  | error failure =>
    cases failure with
    | malformed reason place =>
      exact .inr (.inl ⟨_, (Json.Failure.malformed reason place).message, rfl, nofun, rfl⟩)
    | tooDeep => exact .inr (.inl ⟨_, "nesting too deep", rfl, nofun, rfl⟩)
    | overlongInteger digits => exact .inr (.inr ⟨digits, rfl, rfl⟩)

theorem ofText_ok_iff {t : Text} : (∃ v, ofText t = .ok v) ↔
    (∀ digits, Json.readLenient t ≠ .error (.overlongInteger digits)) ∧
      ∀ d, Json.readLenient t = .ok d → d.Checkable := by
  rcases ofText_cases t with ⟨d, read, goes⟩ | ⟨failure, reason, read, shorter, goes⟩ |
    ⟨digits, read, stops⟩
  · rw [read, goes, ofDocument_ok_iff]
    refine ⟨fun checkable => ⟨nofun, ?_⟩, fun h => h.2 d rfl⟩
    rintro _ ⟨⟩
    exact checkable
  · rw [read, goes]
    exact iff_of_true ⟨_, rfl⟩ ⟨fun digits h => shorter digits (Except.error.inj h), nofun⟩
  · rw [read, stops]
    refine iff_of_false ?_ fun h => h.1 digits rfl
    rintro ⟨_, ⟨⟩⟩

theorem isValid_ofText {t : Text} {v : Verdict} (h : ofText t = .ok v) :
    v.isValid = v.errors.isEmpty := by
  rcases ofText_cases t with ⟨d, -, goes⟩ | ⟨_, _, -, -, goes⟩ | ⟨_, -, stops⟩
  · exact isValid_ofDocument (goes ▸ h)
  · rw [goes] at h
    cases h
    rfl
  · rw [stops] at h
    cases h

/-- **When the check comes to a verdict.** A document stops it if and only if its URL cannot be
taken apart or the name of its credential scheme has no encoding; a text does so for these reasons,
and for an integer with too many digits. Any other text that cannot be read has the one error that
it is no JSON, and a verdict says valid exactly if it has no errors. -/
theorem comes_iff (d : Value) (t : Text) :
    ((∃ v, ofDocument d = .ok v) ↔ d.Checkable) ∧
    ((∃ v, ofText t = .ok v) ↔
      (∀ digits, Json.readLenient t ≠ .error (.overlongInteger digits)) ∧
        ∀ d, Json.readLenient t = .ok d → d.Checkable) ∧
    (∀ failure, Json.readLenient t = .error failure →
      (∀ digits, failure ≠ .overlongInteger digits) →
      ∃ reason, ofText t = .ok ⟨false, ["Invalid JSON: " ++ reason], []⟩) ∧
    (∀ v, ofDocument d = .ok v → v.isValid = v.errors.isEmpty) ∧
    ∀ v, ofText t = .ok v → v.isValid = v.errors.isEmpty := by
  refine ⟨ofDocument_ok_iff, ofText_ok_iff, fun failure read shorter => ?_,
    fun v => isValid_ofDocument, fun v => isValid_ofText⟩
  rcases ofText_cases t with ⟨d, read', -⟩ | ⟨_, reason, -, -, goes⟩ | ⟨digits, read', -⟩
  · rw [read] at read'
    cases read'
  · exact ⟨reason, goes⟩
  · rw [read] at read'
    exact absurd (Except.error.inj read') (shorter digits)

/-- A document with a plain URL and a credential without a scheme, and a text that is no JSON. -/
theorem comes_iff_nameless :
    (∃ v, ofDocument (.object [("url", .string "https://h/"), ("auth", .object [])]) = .ok v ∧
      v.isValid = v.errors.isEmpty) ∧
    ∃ reason, ofText "[" = .ok ⟨false, ["Invalid JSON: " ++ reason], []⟩ := by
  obtain ⟨document, -, unreadable, verdict, -⟩ :=
    comes_iff (.object [("url", .string "https://h/"), ("auth", .object [])]) "["
  constructor
  · have checkable : Document.Checkable [("url", .string "https://h/"), ("auth", .object [])] := by
      refine ⟨?_, ?_⟩
      · rintro _ ⟨⟩ -
        exact Url.split_of_plain (by decide) (by decide) (by decide)
      · rintro _ _ ⟨⟩ ⟨⟩
    obtain ⟨v, comes⟩ := document.2 checkable
    exact ⟨v, comes, verdict v comes⟩
  · have read : Json.readLenient "[" = .error (.malformed .expectingValue ⟨1, 1, 2⟩) := by cbv
    exact unreadable _ read nofun

/-- Any of the three reasons is found in a configuration. -/
theorem not_comes :
    (¬ ∃ v, ofDocument (.object [("url", .string "http://[")]) = .ok v) ∧
    (¬ ∃ v, ofDocument (.object [("url", .string "https://h/"),
      ("auth", .object [("type", .string [CodePoint.ofNat 0xD800])])]) = .ok v) ∧
    ¬ ∃ v, ofText (List.replicate 4301 (CodePoint.ofChar '1')) = .ok v := by
  refine ⟨fun comes => ?_, fun comes => ?_, fun comes => ?_⟩
  · have checkable : Document.Checkable _ := ofDocument_ok_iff.1 comes
    have split := checkable.url "http://[" rfl (by decide)
    have misplaced : (Url.checkBrackets (Url.authorityOf (Text.strip "http://["))).toOption =
        none := by decide +kernel
    rw [(Url.split_ok_iff.1 split).1] at misplaced
    cases misplaced
  · have checkable : Document.Checkable _ := ofDocument_ok_iff.1 comes
    exact absurd (checkable.scheme _ _ rfl rfl) (by decide)
  · have digits : ∀ c ∈ List.replicate 4301 (CodePoint.ofChar '1'), c.isDigit = true := by
      intro c hc
      rw [List.eq_of_mem_replicate hc]
      decide
    refine (ofText_ok_iff.1 comes).1 _ (Json.readLenient_of_digits digits ?_ ?_)
    · rw [List.head?_replicate]
      decide
    · rw [List.length_replicate]
      decide

end Verdict

end HttpCourier
