import HttpCourier.Proofs.Json.Relaxed

/-!
# HttpCourier.Proofs.Json.Cleaning

**The cleaning passes of lenient reading, taken backwards.** What the pass over comments has met
is told by what it left (`Lenient.Leaves.met`). A token that stands in the cleaned text stood in
the text before: `Lexeme.of_leaves` for the pass over comments, and
`Lexeme.of_dropTrailingCommas` for the one over commas.

For a string literal the latter needs that the literal is closed, for the pass takes an unclosed
one for plain text. But then it is not closed in what the pass leaves either
(`Lenient.literalLength?_dropTrailingCommas`), and no token stands there.
-/

namespace HttpCourier.Json

variable {token : Token} {lexeme t u x : Text} {c : CodePoint}

/-! ### Comments that were dropped -/

namespace Lenient

/-- The pass over comments leaves `u` of the text `t` that it has come to. -/
def Leaves (mode : Mode) (t u : Text) : Prop := ∃ at_, dropComments mode 0 at_ t = .ok u

theorem Leaves.line (h : Leaves .lineComment t u) :
    (CodePoint.ofChar '\n' ∉ t ∧ u = []) ∨
      ∃ body t' u', t = body ++ CodePoint.ofChar '\n' :: t' ∧ CodePoint.ofChar '\n' ∉ body ∧
        u = CodePoint.ofChar '\n' :: u' ∧ Leaves .code (CodePoint.ofChar '\n' :: t') u := by
  obtain ⟨at_, left⟩ := h
  induction t generalizing at_ with
  | nil =>
    cases left
    exact .inl ⟨List.not_mem_nil, rfl⟩
  | cons c t ih =>
    rw [dropComments.eq_def] at left
    dsimp only at left
    split at left
    · next feed =>
      subst feed
      obtain ⟨u', -, rfl⟩ := ok_of_map left
      refine .inr ⟨[], t, u', rfl, List.not_mem_nil, rfl, at_, ?_⟩
      rw [dropComments_blank (by decide), left]
    · next goesOn =>
      rcases ih _ left with ⟨oneLine, rfl⟩ | ⟨body, t', u', rfl, oneLine, rfl, rest⟩
      · exact .inl ⟨by simp [oneLine, Ne.symm goesOn], rfl⟩
      · exact .inr ⟨c :: body, t', u', rfl, by simp [oneLine, Ne.symm goesOn], rfl, rest⟩

theorem Leaves.block {opened : Nat} (h : Leaves (.blockComment opened) t u) :
    ∃ body t' u', t = body ++ CodePoint.ofChar '*' :: CodePoint.ofChar '/' :: t' ∧
      Text.hasBlock body "*/" = false ∧ u = CodePoint.ofChar ' ' :: u' ∧ Leaves .code t' u' := by
  obtain ⟨at_, left⟩ := h
  induction t generalizing at_ with
  | nil => cases left
  | cons c t ih =>
    rw [dropComments.eq_def] at left
    dsimp only at left
    split at left
    · next closing =>
      obtain ⟨rfl, next⟩ := closing
      obtain ⟨t', rfl⟩ := List.head?_eq_some_iff.1 next
      obtain ⟨u', left', rfl⟩ := ok_of_map left
      exact ⟨[], t', u', rfl, by decide, rfl, _, left'⟩
    · next goesOn =>
      obtain ⟨body, t', u', rfl, closed, rfl, rest⟩ := ih _ left
      refine ⟨c :: body, t', u', rfl, ?_, rfl, rest⟩
      -- A closing mark at the front would have ended the comment here.
      rw [Text.hasBlock, closed, Bool.or_false, Bool.eq_false_iff]
      intro starts
      obtain ⟨more, split⟩ := List.isPrefixOf_iff_prefix.1 starts
      cases body with
      | nil => cases split
      | cons d body =>
        cases split
        exact goesOn ⟨rfl, rfl⟩

/-- What the pass over comments meets at the front of a text, and what it leaves of the text. -/
inductive Met : Text → Text → Prop
  | nil : Met [] []
  | openLine {body} (oneLine : CodePoint.ofChar '\n' ∉ body) :
      Met (CodePoint.ofChar '/' :: CodePoint.ofChar '/' :: body) []
  | line {body t u : Text} (oneLine : CodePoint.ofChar '\n' ∉ body)
      (rest : Leaves .code (CodePoint.ofChar '\n' :: t) (CodePoint.ofChar '\n' :: u)) :
      Met (CodePoint.ofChar '/' :: CodePoint.ofChar '/' :: (body ++ CodePoint.ofChar '\n' :: t))
        (CodePoint.ofChar '\n' :: u)
  | block {body t u : Text} (closed : Text.hasBlock body "*/" = false) (rest : Leaves .code t u) :
      Met (CodePoint.ofChar '/' :: CodePoint.ofChar '*' ::
        (body ++ CodePoint.ofChar '*' :: CodePoint.ofChar '/' :: t)) (CodePoint.ofChar ' ' :: u)
  | quote {t u : Text} (rest : Leaves .literal t u) :
      Met (CodePoint.ofChar '"' :: t) (CodePoint.ofChar '"' :: u)
  | plain {c : CodePoint} {t u} (other : c ≠ CodePoint.ofChar '"') (rest : Leaves .code t u) :
      Met (c :: t) (c :: u)

theorem Leaves.met (h : Leaves .code t u) : Met t u := by
  obtain ⟨at_, left⟩ := h
  cases t with
  | nil =>
    cases left
    exact .nil
  | cons c t =>
    rw [dropComments.eq_def] at left
    dsimp only at left
    split at left
    · next quote =>
      subst quote
      obtain ⟨u', left', rfl⟩ := ok_of_map left
      exact .quote ⟨_, left'⟩
    split at left
    · next opened =>
      obtain ⟨rfl, next⟩ := opened
      obtain ⟨t', rfl⟩ := List.head?_eq_some_iff.1 next
      rcases Leaves.line ⟨_, left⟩ with ⟨oneLine, rfl⟩ | ⟨body, t', u', rfl, oneLine, rfl, rest⟩
      · exact .openLine oneLine
      · exact .line oneLine rest
    split at left
    · next opened =>
      obtain ⟨rfl, next⟩ := opened
      obtain ⟨t', rfl⟩ := List.head?_eq_some_iff.1 next
      obtain ⟨body, t', u', rfl, closed, rfl, rest⟩ := Leaves.block ⟨_, left⟩
      exact .block closed rest
    · next quote _ _ =>
      obtain ⟨u', left', rfl⟩ := ok_of_map left
      exact .plain quote ⟨_, left'⟩

/-! ### Tokens that were copied with the comments dropped -/

theorem Leaves.plain {p : Text}
    (hp : ∀ c ∈ p, c ≠ CodePoint.ofChar '"' ∧ c.isBlank = false)
    (h : Leaves .code t (p ++ u)) : ∃ t', t = p ++ t' ∧ Leaves .code t' u := by
  induction p generalizing t with
  | nil => exact ⟨t, rfl, h⟩
  | cons c p ih =>
    obtain ⟨⟨quote, visible⟩, hp⟩ := List.forall_mem_cons.1 hp
    rw [List.cons_append] at h
    cases h.met with
    | line | block => exact absurd visible (by decide)
    | quote => exact absurd rfl quote
    | plain _ rest =>
      obtain ⟨t', rfl, behind⟩ := ih hp rest
      exact ⟨t', rfl, behind⟩

theorem Leaves.literal_cons (h : Leaves .literal t (c :: u)) :
    ∃ t', t = c :: t' ∧ Leaves (if c = CodePoint.ofChar '\\' then .escaped
      else if c = CodePoint.ofChar '"' then .code else .literal) t' u := by
  obtain ⟨at_, left⟩ := h
  cases t with
  | nil => cases left
  | cons d t =>
    rw [dropComments.eq_def] at left
    dsimp only at left
    split at left
    · next escape =>
      obtain ⟨u', left', eq⟩ := ok_of_map left
      cases eq
      rw [if_pos escape]
      exact ⟨t, rfl, _, left'⟩
    split at left
    · next escape quote =>
      obtain ⟨u', left', eq⟩ := ok_of_map left
      cases eq
      rw [if_neg escape, if_pos quote]
      exact ⟨t, rfl, _, left'⟩
    · next escape quote =>
      obtain ⟨u', left', eq⟩ := ok_of_map left
      cases eq
      rw [if_neg escape, if_neg quote]
      exact ⟨t, rfl, _, left'⟩

theorem Leaves.literal_plain (hc : c ≠ CodePoint.ofChar '"' ∧ c ≠ CodePoint.ofChar '\\')
    (h : Leaves .literal t (c :: u)) : ∃ t', t = c :: t' ∧ Leaves .literal t' u := by
  obtain ⟨t', rfl, left⟩ := h.literal_cons
  rw [if_neg hc.2, if_neg hc.1] at left
  exact ⟨t', rfl, left⟩

theorem Leaves.literal_escape (h : Leaves .literal t (CodePoint.ofChar '\\' :: c :: u)) :
    ∃ t', t = CodePoint.ofChar '\\' :: c :: t' ∧ Leaves .literal t' u := by
  obtain ⟨t', rfl, at_, left⟩ := h.literal_cons
  rw [if_pos rfl] at left
  cases t' with
  | nil => cases left
  | cons d t' =>
    rw [dropComments.eq_def] at left
    obtain ⟨u', left', eq⟩ := ok_of_map left
    cases eq
    exact ⟨t', rfl, _, left'⟩

end Lenient

open Lenient

/-- A literal in the cleaned text stands in the text as given. -/
theorem LiteralBody.of_leaves {body : Text} {letters : List Letter} (h : LiteralBody body letters)
    (left : Leaves .literal t (body ++ u)) : ∃ t', t = body ++ t' ∧ Leaves .code t' u := by
  induction h generalizing t with
  | close =>
    obtain ⟨t', rfl, rest⟩ := left.literal_cons
    rw [if_neg (by decide), if_pos rfl] at rest
    exact ⟨t', rfl, rest⟩
  | plain quote escape _ _ ih =>
    obtain ⟨_, rfl, behind⟩ := left.literal_plain ⟨quote, escape⟩
    obtain ⟨t', rfl, rest⟩ := ih behind
    exact ⟨t', rfl, rest⟩
  | short _ _ _ ih =>
    obtain ⟨_, rfl, behind⟩ := left.literal_escape
    obtain ⟨t', rfl, rest⟩ := ih behind
    exact ⟨t', rfl, rest⟩
  | numbered digits _ ih =>
    have plain := plain_of_digits digits
    simp only [List.mem_cons, List.not_mem_nil, or_false, forall_eq_or_imp, forall_eq] at plain
    obtain ⟨p₁, p₂, p₃, p₄⟩ := plain
    obtain ⟨_, rfl, behind⟩ := left.literal_escape
    obtain ⟨_, rfl, behind₁⟩ := behind.literal_plain p₁
    obtain ⟨_, rfl, behind₂⟩ := behind₁.literal_plain p₂
    obtain ⟨_, rfl, behind₃⟩ := behind₂.literal_plain p₃
    obtain ⟨_, rfl, behind₄⟩ := behind₃.literal_plain p₄
    obtain ⟨t', rfl, rest⟩ := ih behind₄
    exact ⟨t', rfl, rest⟩

/-- A token in the cleaned text stands in the text as given. -/
theorem Lexeme.of_leaves (h : Lexeme token lexeme) (left : Leaves .code t (lexeme ++ u)) :
    ∃ t', t = lexeme ++ t' ∧ Leaves .code t' u := by
  rcases h.literal_or_plain with ⟨body, letters, rfl, spelled⟩ | ⟨plain, -⟩
  · rw [List.cons_append] at left
    cases left.met with
    | quote rest =>
      obtain ⟨t', rfl, behind⟩ := spelled.of_leaves rest
      exact ⟨t', rfl, behind⟩
    | plain other => exact absurd rfl other
  · exact left.plain fun c hc => ⟨(plain c hc).1, (plain c hc).2.2⟩

/-! ### Commas that were dropped -/

namespace Lenient

/-- Where a closing bracket is next, a blank or the bracket is left in front. -/
theorem exists_cons_of_closesNext (h : closesNext u = true) :
    ∃ c x, dropTrailingCommas 0 u = c :: x ∧
      (c.isBlank = true ∨ c = CodePoint.ofChar '}' ∨ c = CodePoint.ofChar ']') := by
  cases u with
  | nil => cases h
  | cons c u =>
    have front : c.isBlank = true ∨ c = CodePoint.ofChar '}' ∨ c = CodePoint.ofChar ']' := by
      by_cases hc : c.isBlank = true
      · exact .inl hc
      · unfold closesNext at h
        rw [List.dropWhile_cons_of_neg hc] at h
        simpa using Or.inr h
    have plain : c ≠ CodePoint.ofChar '"' ∧ c ≠ CodePoint.ofChar ',' := by
      constructor
      all_goals
        rintro rfl
        exact absurd front (by decide)
    exact ⟨c, _, dropTrailingCommas_plain_append (t := [c]) (List.forall_mem_singleton.2 plain) u,
      front⟩

theorem literalLength?_append {n : Nat} (h : literalLength? u = some n) :
    ∃ p q, u = p ++ q ∧ p.length = n ∧ ∀ x, literalLength? (p ++ x) = some n := by
  fun_induction literalLength? u generalizing n with
  | case1 => cases h
  | case2 rest =>
    cases h
    refine ⟨[CodePoint.ofChar '"'], rest, rfl, rfl, fun x => ?_⟩
    rw [List.cons_append, literalLength?.eq_def]
    exact if_pos rfl
  | case3 => cases h
  | case4 => cases h
  | case5 d rest feed _ ih =>
    obtain ⟨m, found, rfl⟩ := Option.map_eq_some_iff.1 h
    obtain ⟨p, q, rfl, rfl, all⟩ := ih found
    refine ⟨CodePoint.ofChar '\\' :: d :: p, q, rfl, rfl, fun x => ?_⟩
    rw [List.cons_append, List.cons_append, literalLength?_escape feed, all]
    rfl
  | case6 c rest quote escape ih =>
    obtain ⟨m, found, rfl⟩ := Option.map_eq_some_iff.1 h
    obtain ⟨p, q, rfl, rfl, all⟩ := ih found
    refine ⟨c :: p, q, rfl, rfl, fun x => ?_⟩
    rw [List.cons_append, literalLength?_plain ⟨quote, escape⟩, all]
    rfl

theorem literalLength?_escapedFeed (x : Text) :
    literalLength? (CodePoint.ofChar '\\' :: CodePoint.ofChar '\n' :: x) = none := by
  rw [literalLength?.eq_def]
  dsimp only
  rw [if_neg (by decide), if_pos rfl, if_pos rfl]

/-- Dropping commas does not close a literal. -/
theorem literalLength?_dropTrailingCommas (h : literalLength? u = none) :
    literalLength? (dropTrailingCommas 0 u) = none := by
  have backslash (x : Text) : dropTrailingCommas 0 (CodePoint.ofChar '\\' :: x) =
      CodePoint.ofChar '\\' :: dropTrailingCommas 0 x :=
    dropTrailingCommas_plain_append (t := [CodePoint.ofChar '\\']) (by decide) x
  fun_induction literalLength? u with
  | case1 => rfl
  | case2 => cases h
  | case3 =>
    rw [backslash, dropTrailingCommas, literalLength?.eq_def]
    rfl
  | case4 rest =>
    have feed : dropTrailingCommas 0 (CodePoint.ofChar '\n' :: rest) =
        CodePoint.ofChar '\n' :: dropTrailingCommas 0 rest := dropTrailingCommas_blank (by decide) _
    rw [backslash, feed, literalLength?_escapedFeed]
  | case5 d rest feed _ ih =>
    have open_ := Option.map_eq_none_iff.1 h
    have kept :
        literalLength? (CodePoint.ofChar '\\' :: d :: dropTrailingCommas 0 rest) = none := by
      rw [literalLength?_escape feed, ih open_]
      rfl
    rw [backslash, dropTrailingCommas.eq_def]
    dsimp only
    split
    · rw [open_]
      exact kept
    split
    · next dropped =>
      -- The backslash comes to stand in front of what followed the comma.
      obtain ⟨c, x, left, front⟩ := exists_cons_of_closesNext dropped.2
      have still := ih open_
      rw [left] at still ⊢
      by_cases hc : c = CodePoint.ofChar '\n'
      · rw [hc, literalLength?_escapedFeed]
      · have plain : c ≠ CodePoint.ofChar '"' ∧ c ≠ CodePoint.ofChar '\\' := by
          constructor
          all_goals
            rintro rfl
            exact absurd front (by decide)
        rw [literalLength?_plain plain, Option.map_eq_none_iff] at still
        rw [literalLength?_escape hc, still]
        rfl
    · exact kept
  | case6 c rest quote escape ih =>
    have open_ := ih (Option.map_eq_none_iff.1 h)
    rw [dropTrailingCommas.eq_def]
    dsimp only
    rw [if_neg quote]
    split
    · exact open_
    · rw [literalLength?_plain ⟨quote, escape⟩, open_]
      rfl

/-- What is no comma in front of a closing bracket is copied. -/
theorem dropTrailingCommas_kept (kept : ¬ (c = CodePoint.ofChar ',' ∧ closesNext u = true)) :
    dropTrailingCommas 0 (c :: u) = c :: dropTrailingCommas
      (if c = CodePoint.ofChar '"' then (literalLength? u).getD 0 else 0) u := by
  rw [dropTrailingCommas.eq_def]
  dsimp only
  by_cases quote : c = CodePoint.ofChar '"'
  · rw [if_pos quote, if_pos quote]
  · rw [if_neg quote, if_neg kept, if_neg quote]

theorem exists_of_dropTrailingCommas_cons (h : dropTrailingCommas 0 u = c :: x)
    (kept : ∀ u', u = CodePoint.ofChar ',' :: u' → ¬ closesNext u' = true) :
    ∃ u', u = c :: u' ∧ dropTrailingCommas
      (if c = CodePoint.ofChar '"' then (literalLength? u').getD 0 else 0) u' = x := by
  cases u with
  | nil => cases h
  | cons d u =>
    rw [dropTrailingCommas_kept fun dropped => kept u (by rw [dropped.1]) dropped.2] at h
    cases h
    exact ⟨u, rfl, rfl⟩

theorem exists_append_of_dropTrailingCommas {p : Text}
    (hp : ∀ c ∈ p, c ≠ CodePoint.ofChar '"' ∧ c.isBlank = false ∧
      c ≠ CodePoint.ofChar ']' ∧ c ≠ CodePoint.ofChar '}')
    (h : dropTrailingCommas 0 u = p ++ x) : ∃ u', u = p ++ u' ∧ dropTrailingCommas 0 u' = x := by
  induction p generalizing u with
  | nil => exact ⟨u, rfl, h⟩
  | cons c p ih =>
    obtain ⟨⟨quote, visible, bracket, brace⟩, hp⟩ := List.forall_mem_cons.1 hp
    have kept : ∀ u', u = CodePoint.ofChar ',' :: u' → ¬ closesNext u' = true := by
      rintro u' rfl closes
      obtain ⟨d, y, left, front⟩ := exists_cons_of_closesNext closes
      rw [dropTrailingCommas_comma closes, left] at h
      cases h
      simp [visible, bracket, brace] at front
    obtain ⟨u', rfl, left⟩ := exists_of_dropTrailingCommas_cons h kept
    rw [if_neg quote] at left
    obtain ⟨u'', rfl, left'⟩ := ih hp left
    exact ⟨u'', rfl, left'⟩

end Lenient

/-- A literal that is left where the commas are dropped is one of the text with its commas. -/
theorem LiteralBody.of_dropTrailingCommas {body : Text} {letters : List Letter}
    (h : LiteralBody body letters)
    (left : Lenient.dropTrailingCommas ((Lenient.literalLength? u).getD 0) u = body ++ x) :
    ∃ u', u = body ++ u' ∧ Lenient.dropTrailingCommas 0 u' = x := by
  have closed := h.literalLength? x
  cases found : Lenient.literalLength? u with
  | none =>
    rw [found] at left
    rw [← left, Option.getD_none, literalLength?_dropTrailingCommas found] at closed
    cases closed
  | some n =>
    obtain ⟨p, q, rfl, rfl, all⟩ := literalLength?_append found
    rw [found, Option.getD_some, dropTrailingCommas_literal] at left
    rw [← left, all] at closed
    obtain ⟨rfl, rfl⟩ := List.append_inj left (Option.some.inj closed)
    exact ⟨q, rfl, rfl⟩

/-- A token that is left where the commas are dropped is one of the text with its commas. -/
theorem Lexeme.of_dropTrailingCommas (h : Lexeme token lexeme)
    (kept : ∀ u', u = CodePoint.ofChar ',' :: u' → ¬ closesNext u' = true)
    (left : Lenient.dropTrailingCommas 0 u = lexeme ++ x) :
    ∃ u', u = lexeme ++ u' ∧ Lenient.dropTrailingCommas 0 u' = x := by
  rcases h.literal_or_plain with ⟨body, letters, rfl, spelled⟩ | ⟨plain, inner⟩
  · obtain ⟨u', rfl, left'⟩ := exists_of_dropTrailingCommas_cons left kept
    rw [if_pos rfl] at left'
    obtain ⟨u'', rfl, left''⟩ := spelled.of_dropTrailingCommas left'
    exact ⟨u'', rfl, left''⟩
  · obtain ⟨c, tail, rfl, -⟩ := h.exists_cons
    obtain ⟨u', rfl, left'⟩ := exists_of_dropTrailingCommas_cons left kept
    rw [if_neg (plain c List.mem_cons_self).1] at left'
    obtain ⟨u'', rfl, left''⟩ := exists_append_of_dropTrailingCommas (fun d hd =>
      have further := plain d (List.mem_cons_of_mem c hd)
      ⟨further.1, further.2.2, (inner d hd).2⟩) left'
    exact ⟨u'', rfl, left''⟩

end HttpCourier.Json
