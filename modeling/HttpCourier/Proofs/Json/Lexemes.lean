import HttpCourier.Json.Lenient
import HttpCourier.Proofs.Computation
import HttpCourier.Proofs.Json.Numerals

/-!
# HttpCourier.Proofs.Json.Lexemes

**How a token is spelled.** `Lexeme token spelling` says so as a grammar, without a text around
it. The scanner takes such a spelling off the front of a text (`Token.exists_lexeme`), and it
reads the token again wherever the spelling stands (`Token.first_lexeme`): what follows matters
to number literals alone, which must not go on (`Token.StopsAt`).

From the grammar it is seen at once what the two cleaning passes do to a token: they copy it.
No quote and no slash stands in a token that is not a string literal, and inside a literal both
passes find its end where the scanner does.
-/

namespace HttpCourier.Json

/-! ### String literals -/

/-- The spelling of letters behind the opening quote, the closing one included. -/
inductive LiteralBody : Text → List Letter → Prop
  | close : LiteralBody [CodePoint.ofChar '"'] []
  | plain {c body letters} (quote : c ≠ CodePoint.ofChar '"') (escape : c ≠ CodePoint.ofChar '\\')
      (visible : ¬ c.val < 0x20) (rest : LiteralBody body letters) :
      LiteralBody (c :: body) (.plain c :: letters)
  | short {e d body letters} (other : e ≠ CodePoint.ofChar 'u') (meaning : shortEscape? e = some d)
      (rest : LiteralBody body letters) :
      LiteralBody (CodePoint.ofChar '\\' :: e :: body) (.plain d :: letters)
  | numbered {h₁ h₂ h₃ h₄ n body letters} (digits : hexValue? h₁ h₂ h₃ h₄ = some n)
      (rest : LiteralBody body letters) :
      LiteralBody (CodePoint.ofChar '\\' :: CodePoint.ofChar 'u' :: h₁ :: h₂ :: h₃ :: h₄ :: body)
        (.numbered n :: letters)

theorem LiteralBody.ne_nil {body : Text} {letters : List Letter} (h : LiteralBody body letters) :
    body ≠ [] := by
  cases h <;> simp

/-- The letters that are scanned are spelled at the front of the text. -/
theorem exists_literalBody {opened at_ n : Nat} {t : Text} {letters : List Letter}
    (h : scanLetters opened at_ t = .ok (letters, n)) :
    ∃ body rest, t = body ++ rest ∧ body.length = n ∧ LiteralBody body letters := by
  fun_induction scanLetters opened at_ t generalizing letters n with
  | case2 at_ rest =>
    cases h
    exact ⟨[CodePoint.ofChar '"'], rest, rfl, rfl, .close⟩
  | case4 at_ h₁ h₂ h₃ h₄ rest m _ digits _ ih =>
    obtain ⟨⟨more, k⟩, scanned, eq⟩ := ok_of_map h
    cases eq
    obtain ⟨body, rest', rfl, rfl, spelled⟩ := ih scanned
    exact ⟨_, rest', rfl, rfl, .numbered digits spelled⟩
  | case7 at_ e rest other d meaning _ ih =>
    obtain ⟨⟨more, k⟩, scanned, eq⟩ := ok_of_map h
    cases eq
    obtain ⟨body, rest', rfl, rfl, spelled⟩ := ih scanned
    exact ⟨_, rest', rfl, rfl, .short other meaning spelled⟩
  | case10 at_ c rest quote escape visible ih =>
    obtain ⟨⟨more, k⟩, scanned, eq⟩ := ok_of_map h
    cases eq
    obtain ⟨body, rest', rfl, rfl, spelled⟩ := ih scanned
    exact ⟨_, rest', rfl, rfl, .plain quote escape visible spelled⟩
  | _ => cases h

variable {body : Text} {letters : List Letter}

/-- A spelling is scanned wherever it stands. -/
theorem LiteralBody.scanLetters (h : LiteralBody body letters) (opened at_ : Nat) (rest : Text) :
    scanLetters opened at_ (body ++ rest) = .ok (letters, body.length) := by
  induction h generalizing at_ with
  | close =>
    rw [List.cons_append, Json.scanLetters.eq_def]
    exact if_pos rfl
  | plain quote escape visible _ ih =>
    rw [List.cons_append, Json.scanLetters.eq_def]
    dsimp only
    rw [if_neg quote, if_neg escape, if_neg visible, ih]
    rfl
  | short other meaning _ ih =>
    rw [List.cons_append, List.cons_append, Json.scanLetters.eq_def]
    dsimp only
    rw [if_neg (by decide), if_pos rfl, if_neg other, meaning, ih]
    rfl
  | @numbered _ _ _ _ _ body _ digits spelled ih =>
    have more : (body ++ rest).isEmpty = false := by simp [spelled.ne_nil]
    simp only [List.cons_append]
    rw [Json.scanLetters.eq_def]
    dsimp only
    rw [if_neg (by decide), if_pos rfl, if_pos rfl, digits, more]
    dsimp only
    rw [ih]
    rfl

/-- Neither a quote nor a backslash is a hexadecimal digit. -/
theorem plain_of_hexValue? {c : CodePoint} (h : c.hexValue?.isSome = true) :
    c ≠ CodePoint.ofChar '"' ∧ c ≠ CodePoint.ofChar '\\' := by
  constructor
  all_goals
    rintro rfl
    exact absurd h (by decide)

theorem plain_of_digits {h₁ h₂ h₃ h₄ : CodePoint} {n : Nat}
    (h : hexValue? h₁ h₂ h₃ h₄ = some n) :
    ∀ c ∈ [h₁, h₂, h₃, h₄], c ≠ CodePoint.ofChar '"' ∧ c ≠ CodePoint.ofChar '\\' := by
  simp only [hexValue?, Option.bind_eq_bind, Option.bind_eq_some_iff] at h
  obtain ⟨_, e₁, _, e₂, _, e₃, _, e₄, -⟩ := h
  simp only [List.mem_cons, List.not_mem_nil, or_false]
  rintro c (rfl | rfl | rfl | rfl) <;> exact plain_of_hexValue? (by simp [*])

namespace Lenient

/-! ### Literals in the cleaning passes -/

theorem literalLength?_plain {c : CodePoint} (hc : c ≠ CodePoint.ofChar '"' ∧
    c ≠ CodePoint.ofChar '\\') (t : Text) :
    literalLength? (c :: t) = (literalLength? t).map (· + 1) := by
  rw [literalLength?.eq_def]
  dsimp only
  rw [if_neg hc.1, if_neg hc.2]

theorem literalLength?_escape {c : CodePoint} (hc : c ≠ CodePoint.ofChar '\n') (t : Text) :
    literalLength? (CodePoint.ofChar '\\' :: c :: t) = (literalLength? t).map (· + 2) := by
  rw [literalLength?.eq_def]
  dsimp only
  rw [if_neg (by decide), if_pos rfl, if_neg hc]

theorem dropComments_plain {c : CodePoint} (hc : c ≠ CodePoint.ofChar '"' ∧
    c ≠ CodePoint.ofChar '\\') (at_ : Nat) (t : Text) :
    dropComments .literal 0 at_ (c :: t) = (dropComments .literal 0 (at_ + 1) t).map (c :: ·) := by
  rw [dropComments.eq_def]
  dsimp only
  rw [if_neg hc.2, if_neg hc.1]

theorem dropComments_escape (c : CodePoint) (at_ : Nat) (t : Text) :
    dropComments .literal 0 at_ (CodePoint.ofChar '\\' :: c :: t) =
      (dropComments .literal 0 (at_ + 2) t).map (CodePoint.ofChar '\\' :: c :: ·) := by
  rw [dropComments.eq_def]
  dsimp only
  rw [if_pos rfl, dropComments.eq_def]
  dsimp only
  cases dropComments .literal 0 (at_ + 1 + 1) t <;> rfl

end Lenient

/-- A line feed has no short escape. -/
theorem ne_newline_of_shortEscape? {e d : CodePoint} (h : shortEscape? e = some d) :
    e ≠ CodePoint.ofChar '\n' := by
  rintro rfl
  have none : shortEscape? (CodePoint.ofChar '\n') = none := by decide
  rw [none] at h
  cases h

open Lenient

/-- The pass over commas finds the end of a literal where the scanner does. -/
theorem LiteralBody.literalLength? (h : LiteralBody body letters) (rest : Text) :
    literalLength? (body ++ rest) = some body.length := by
  induction h with
  | close =>
    rw [List.cons_append, Lenient.literalLength?.eq_def]
    exact if_pos rfl
  | plain quote escape _ _ ih =>
    rw [List.cons_append, literalLength?_plain ⟨quote, escape⟩, ih]
    rfl
  | short _ meaning _ ih =>
    rw [List.cons_append, List.cons_append,
      literalLength?_escape (ne_newline_of_shortEscape? meaning), ih]
    rfl
  | numbered digits _ ih =>
    have plain := plain_of_digits digits
    simp only [List.mem_cons, List.not_mem_nil, or_false, forall_eq_or_imp, forall_eq] at plain
    obtain ⟨p₁, p₂, p₃, p₄⟩ := plain
    simp only [List.cons_append]
    rw [literalLength?_escape (by decide), literalLength?_plain p₁, literalLength?_plain p₂,
      literalLength?_plain p₃, literalLength?_plain p₄, ih]
    rfl

/-- The pass over comments copies a literal. -/
theorem LiteralBody.dropComments (h : LiteralBody body letters) (at_ : Nat) (rest : Text) :
    dropComments .literal 0 at_ (body ++ rest) =
      (dropComments .code 0 (at_ + body.length) rest).map (body ++ ·) := by
  induction h generalizing at_ with
  | close =>
    rw [List.cons_append, Lenient.dropComments.eq_def]
    dsimp only
    rw [if_neg (by decide), if_pos rfl]
    rfl
  | @plain c body _ quote escape _ _ ih =>
    have shift : at_ + (c :: body).length = at_ + 1 + body.length := by simp; omega
    rw [List.cons_append, dropComments_plain ⟨quote, escape⟩, ih, shift]
    cases Lenient.dropComments .code 0 (at_ + 1 + body.length) rest <;> rfl
  | @short e _ body _ _ _ _ ih =>
    have shift : at_ + (CodePoint.ofChar '\\' :: e :: body).length = at_ + 2 + body.length := by
      simp; omega
    rw [List.cons_append, List.cons_append, dropComments_escape, ih, shift]
    cases Lenient.dropComments .code 0 (at_ + 2 + body.length) rest <;> rfl
  | @numbered h₁ h₂ h₃ h₄ _ body _ digits _ ih =>
    have plain := plain_of_digits digits
    simp only [List.mem_cons, List.not_mem_nil, or_false, forall_eq_or_imp, forall_eq] at plain
    obtain ⟨p₁, p₂, p₃, p₄⟩ := plain
    have shift : at_ + (CodePoint.ofChar '\\' :: CodePoint.ofChar 'u' ::
        h₁ :: h₂ :: h₃ :: h₄ :: body).length = at_ + 2 + 1 + 1 + 1 + 1 + body.length := by
      simp; omega
    simp only [List.cons_append]
    rw [dropComments_escape, dropComments_plain p₁, dropComments_plain p₂, dropComments_plain p₃,
      dropComments_plain p₄, ih, shift]
    cases Lenient.dropComments .code 0 (at_ + 2 + 1 + 1 + 1 + 1 + body.length) rest <;> rfl

/-! ### Tokens -/

/-- The tokens of a single code point. -/
def marks : List (CodePoint × Token) :=
  [(CodePoint.ofChar '[', .beginArray), (CodePoint.ofChar ']', .endArray),
   (CodePoint.ofChar '{', .beginObject), (CodePoint.ofChar '}', .endObject),
   (CodePoint.ofChar ':', .colon), (CodePoint.ofChar ',', .comma)]

/-- How a token is spelled. -/
inductive Lexeme : Token → Text → Prop
  | mark {c token} (one : (c, token) ∈ marks) : Lexeme token [c]
  | word {spelling v} (one : (spelling, v) ∈ words) : Lexeme (.word v) spelling
  | number {n spelling} (spelled : Numeral.Spelling n spelling) : Lexeme (.number n) spelling
  | string {spelling ls} (spelled : LiteralBody spelling ls) :
      Lexeme (.string (Letter.join ls)) (CodePoint.ofChar '"' :: spelling)

namespace Token

/-- A token in front of the text is at its end. -/
def StopsAt (token : Token) (rest : Text) : Prop := ∀ n, token = number n → Numeral.StopsAt rest

theorem first_mark {c : CodePoint} {token : Token} (h : (c, token) ∈ marks) (at_ : Nat)
    (rest : Text) : first at_ c rest = (token, 1) := by
  simp only [marks, List.mem_cons, Prod.mk.injEq, List.not_mem_nil, or_false] at h
  rcases h with ⟨rfl, rfl⟩ | ⟨rfl, rfl⟩ | ⟨rfl, rfl⟩ | ⟨rfl, rfl⟩ | ⟨rfl, rfl⟩ | ⟨rfl, rfl⟩ <;> rfl

/-- The token of a code point that is no token by itself. -/
theorem first_of_not_mark {c : CodePoint} (h : ∀ token, (c, token) ∉ marks) (at_ : Nat)
    (rest : Text) :
    first at_ c rest =
      if c = CodePoint.ofChar '"' then
        match scanLetters at_ (at_ + 1) rest with
        | .ok (letters, n) => (string (Letter.join letters), n + 1)
        | .error (reason, offset) => (brokenString reason offset, 1)
      else match words.find? fun w => Text.startsWith (c :: rest) w.1 with
        | some (spelling, v) => (word v, spelling.length)
        | none =>
          match Numeral.scan (c :: rest) with
          | some (n, length) => (number n, length)
          | none => (stray, 1) := by
  have ne {x : CodePoint} {m : Token} (one : (x, m) ∈ marks) : c ≠ x := fun hc => h m (hc ▸ one)
  unfold first
  rw [if_neg (ne (m := beginArray) (by simp [marks])),
    if_neg (ne (m := endArray) (by simp [marks])),
    if_neg (ne (m := beginObject) (by simp [marks])),
    if_neg (ne (m := endObject) (by simp [marks])),
    if_neg (ne (m := colon) (by simp [marks]))]
  exact if_neg (ne (m := comma) (by simp [marks]))

/-- The token that is read is spelled at the front of the text. -/
theorem exists_lexeme {at_ n : Nat} {c : CodePoint} {rest : Text} {token : Token}
    (h : first at_ c rest = (token, n)) (ht : token.isFault = false) :
    ∃ spelling rest', c :: rest = spelling ++ rest' ∧ spelling.length = n ∧
      Lexeme token spelling := by
  by_cases mark : ∃ m, (c, m) ∈ marks
  · obtain ⟨m, one⟩ := mark
    rw [first_mark one] at h
    cases h
    exact ⟨[c], rest, rfl, rfl, .mark one⟩
  rw [first_of_not_mark (not_exists.1 mark)] at h
  split at h
  · next hc =>
    split at h
    · next letters m scanned =>
      cases h
      obtain ⟨body, rest', rfl, rfl, spelled⟩ := exists_literalBody scanned
      exact ⟨c :: body, rest', rfl, rfl, hc ▸ .string spelled⟩
    · cases h
      cases ht
  split at h
  · next spelling v found =>
    cases h
    have starts := List.find?_some found
    obtain ⟨rest', split⟩ := List.isPrefixOf_iff_prefix.1 starts
    exact ⟨spelling, rest', split.symm, rfl, .word (List.mem_of_find?_eq_some found)⟩
  split at h
  · next m length scanned =>
    cases h
    obtain ⟨spelling, rest', split, length_eq, spelled⟩ := Numeral.exists_spelling scanned
    exact ⟨spelling, rest', split, length_eq, .number spelled⟩
  · cases h
    cases ht

/-- No word starts with a minus sign and a digit. -/
theorem find?_words_of_minus {d : CodePoint} (hd : d.isDigit = true) (rest : Text) :
    (words.find? fun w => Text.startsWith (CodePoint.ofChar '-' :: d :: rest) w.1) = none := by
  have letter : CodePoint.ofChar 'I' ≠ d := (CodePoint.ne_ofChar_of_isDigit hd (by decide)).symm
  refine List.find?_eq_none.2 fun w hw => ?_
  simp only [words, List.mem_cons, List.not_mem_nil, or_false] at hw
  rcases hw with rfl | rfl | rfl | rfl | rfl | rfl <;>
    simp [Text.startsWith, Text.ofString, CodePoint.ofChar_inj, letter]

theorem find?_words_of_numeral {n : Numeral} {spelling : Text} (h : n.Spelling spelling)
    (rest : Text) : (words.find? fun w => Text.startsWith (spelling ++ rest) w.1) = none := by
  obtain @⟨negative, whole, fraction, exponent, f, x, wholePart, -, -⟩ := h
  obtain ⟨d, ds, rfl, digit⟩ : ∃ d ds, whole = d :: ds ∧ d.isDigit = true := by
    cases wholePart with
    | zero => exact ⟨_, [], rfl, by decide⟩
    | digits _ all => exact ⟨_, _, rfl, all _ List.mem_cons_self⟩
  cases negative with
  | true => exact find?_words_of_minus digit _
  | false => exact find?_words_of_isDigit digit _

theorem first_lexeme {token : Token} {c : CodePoint} {spelling rest : Text}
    (h : Lexeme token (c :: spelling)) (stops : token.StopsAt rest) (at_ : Nat) :
    first at_ c (spelling ++ rest) = (token, spelling.length + 1) := by
  cases h with
  | mark one => exact first_mark one at_ rest
  | word one =>
    simp only [words, List.mem_cons, Prod.mk.injEq, List.not_mem_nil, or_false] at one
    rcases one with ⟨h, rfl⟩ | ⟨h, rfl⟩ | ⟨h, rfl⟩ | ⟨h, rfl⟩ | ⟨h, rfl⟩ | ⟨h, rfl⟩ <;>
      (cases h; rfl)
  | @number n _ spelled =>
    have made : Numeral.inSpelling c = true := spelled.inSpelling c List.mem_cons_self
    have mark : ∀ m, (c, m) ∉ marks := by
      have outside : ∀ m ∈ marks, Numeral.inSpelling m.1 = false := by decide
      intro m one
      rw [outside _ one] at made
      cases made
    have quote : c ≠ CodePoint.ofChar '"' := by
      rintro rfl
      exact absurd made (by decide)
    have noWord := find?_words_of_numeral spelled rest
    have scanned := spelled.scan (stops n rfl)
    rw [List.cons_append] at noWord scanned
    rw [first_of_not_mark mark, if_neg quote, noWord, scanned]
    rfl
  | string spelled =>
    unfold first
    rw [spelled.scanLetters]
    rfl

end Token

/-! ### Tokens in the cleaning passes -/

variable {token : Token} {lexeme : Text}

/-- A token starts with a code point that is no white space. -/
theorem Lexeme.exists_cons (h : Lexeme token lexeme) :
    ∃ c tail, lexeme = c :: tail ∧ c.isBlank = false := by
  cases h with
  | mark one =>
    have visible : ∀ m ∈ marks, m.1.isBlank = false := by decide
    exact ⟨_, [], rfl, visible _ one⟩
  | word one =>
    have visible : ∀ w ∈ words, ∃ c tail, w.1 = c :: tail ∧ c.isBlank = false := by
      simp only [words, List.forall_mem_cons, List.not_mem_nil, false_implies, implies_true,
        and_true]
      refine ⟨?_, ?_, ?_, ?_, ?_, ?_⟩ <;> exact ⟨_, _, rfl, by decide⟩
    exact visible _ one
  | @number n _ spelled =>
    obtain ⟨c, tail, rfl⟩ := List.exists_cons_of_ne_nil spelled.ne_nil
    exact ⟨c, tail, rfl, Numeral.isBlank_of_inSpelling (spelled.inSpelling c List.mem_cons_self)⟩
  | string _ => exact ⟨_, _, rfl, by decide⟩

/-- A token of a single code point has no other spelling. -/
theorem Lexeme.eq_singleton {c : CodePoint} (h : Lexeme token lexeme) (one : (c, token) ∈ marks) :
    lexeme = [c] := by
  simp only [marks, List.mem_cons, Prod.mk.injEq, List.not_mem_nil, or_false] at one
  rcases one with ⟨rfl, rfl⟩ | ⟨rfl, rfl⟩ | ⟨rfl, rfl⟩ | ⟨rfl, rfl⟩ | ⟨rfl, rfl⟩ | ⟨rfl, rfl⟩
  all_goals
    cases h with
    | mark one =>
      simp [marks] at one
      rw [one]

/-- No other token starts with a code point that is one by itself. -/
theorem Lexeme.eq_of_mark {c : CodePoint} {tail : Text} {m : Token}
    (h : Lexeme token (c :: tail)) (one : (c, m) ∈ marks) : token = m ∧ tail = [] := by
  have stops : token.StopsAt [] := fun _ _ _ hc => absurd hc (by simp)
  have scanned := Token.first_lexeme h stops 0
  rw [Token.first_mark one] at scanned
  cases tail with
  | nil => exact ⟨(congrArg Prod.fst scanned).symm, rfl⟩
  | cons d tail => cases congrArg Prod.snd scanned

/-- A token that is no string literal is made of visible code points other than quotes and
slashes, and a comma or a closing bracket is in it only if it is that alone. -/
theorem Lexeme.literal_or_plain (h : Lexeme token lexeme) :
    (∃ body letters, lexeme = CodePoint.ofChar '"' :: body ∧ LiteralBody body letters) ∨
      (∀ c ∈ lexeme, c ≠ CodePoint.ofChar '"' ∧ c ≠ CodePoint.ofChar '/' ∧ c.isBlank = false) ∧
        ∀ c ∈ lexeme.tail, c ≠ CodePoint.ofChar ',' ∧ c ≠ CodePoint.ofChar ']' ∧
          c ≠ CodePoint.ofChar '}' := by
  cases h with
  | mark one =>
    have plain : ∀ m ∈ marks, m.1 ≠ CodePoint.ofChar '"' ∧ m.1 ≠ CodePoint.ofChar '/' ∧
        m.1.isBlank = false := by decide
    exact .inr ⟨List.forall_mem_singleton.2 (plain _ one), fun _ hc => absurd hc (by simp)⟩
  | word one =>
    have plain : ∀ w ∈ words,
        (∀ c ∈ w.1, c ≠ CodePoint.ofChar '"' ∧ c ≠ CodePoint.ofChar '/' ∧ c.isBlank = false) ∧
          ∀ c ∈ w.1.tail, c ≠ CodePoint.ofChar ',' ∧ c ≠ CodePoint.ofChar ']' ∧
            c ≠ CodePoint.ofChar '}' := by decide
    exact .inr (plain _ one)
  | number spelled =>
    have other {c x : CodePoint} (hc : Numeral.inSpelling c = true)
        (hx : Numeral.inSpelling x = false) : c ≠ x := by
      rintro rfl
      rw [hx] at hc
      cases hc
    refine .inr ⟨fun c hc => ?_, fun c hc => ?_⟩
    · have made := spelled.inSpelling c hc
      exact ⟨other made (by decide), other made (by decide), Numeral.isBlank_of_inSpelling made⟩
    · have made := spelled.inSpelling c (List.mem_of_mem_tail hc)
      exact ⟨other made (by decide), other made (by decide), other made (by decide)⟩
  | string spelled => exact .inl ⟨_, _, rfl, spelled⟩

/-- The pass over comments copies a token. -/
theorem Lexeme.dropComments (h : Lexeme token lexeme) (at_ : Nat) (rest : Text) :
    dropComments .code 0 at_ (lexeme ++ rest) =
      (dropComments .code 0 (at_ + lexeme.length) rest).map (lexeme ++ ·) := by
  rcases h.literal_or_plain with ⟨body, letters, rfl, spelled⟩ | ⟨plain, -⟩
  · have shift : at_ + (CodePoint.ofChar '"' :: body).length = at_ + 1 + body.length := by
      simp; omega
    rw [List.cons_append, Lenient.dropComments.eq_def]
    dsimp only
    rw [if_pos rfl, spelled.dropComments, shift]
    cases Lenient.dropComments .code 0 (at_ + 1 + body.length) rest <;> rfl
  · exact dropComments_plain_append at_ (fun c hc => ⟨(plain c hc).1, (plain c hc).2.1⟩) rest

theorem Lenient.dropTrailingCommas_literal (body rest : Text) :
    dropTrailingCommas body.length (body ++ rest) = body ++ dropTrailingCommas 0 rest := by
  induction body with
  | nil => rfl
  | cons c body ih => exact congrArg (c :: ·) ih

/-- The pass over trailing commas copies a token that is no trailing comma. -/
theorem Lexeme.dropTrailingCommas (h : Lexeme token lexeme) {rest : Text}
    (kept : token = .comma → closesNext rest = false) :
    dropTrailingCommas 0 (lexeme ++ rest) = lexeme ++ dropTrailingCommas 0 rest := by
  by_cases comma : token = .comma
  · have stays := kept comma
    subst comma
    rw [h.eq_singleton (c := CodePoint.ofChar ',') (by simp [marks]), List.cons_append,
      Lenient.dropTrailingCommas.eq_def]
    dsimp only
    rw [if_neg (by decide), if_neg (by simp [stays])]
    rfl
  rcases h.literal_or_plain with ⟨body, letters, rfl, spelled⟩ | ⟨plain, inner⟩
  · rw [List.cons_append, Lenient.dropTrailingCommas.eq_def]
    dsimp only
    rw [if_pos rfl, spelled.literalLength?]
    exact congrArg _ (Lenient.dropTrailingCommas_literal body rest)
  · obtain ⟨c, tail, rfl, -⟩ := h.exists_cons
    have front : c ≠ CodePoint.ofChar ',' := by
      rintro rfl
      exact comma (h.eq_of_mark (by simp [marks])).1
    exact dropTrailingCommas_plain_append (List.forall_mem_cons.2
      ⟨⟨(plain c List.mem_cons_self).1, front⟩, fun d hd =>
        ⟨(plain d (List.mem_cons_of_mem c hd)).1, (inner d hd).1⟩⟩) rest

end HttpCourier.Json
