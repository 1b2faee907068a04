import HttpCourier.Proofs.Computation
import HttpCourier.Proofs.Json.Pieces

/-!
# HttpCourier.Proofs.Json.Comments

**What cleaning does to the pieces of a text.** The pass over comments leaves what each of the
pieces leaves (`Lenient.Pieces.stripComments`): a literal itself, a line comment nothing, and a
block comment a space. What is left is made of the same literals and of no comment
(`Lenient.Pieces.left`), because a slash that is no part of a mark does not come to stand in front
of another one. So cleaning once is cleaning for good.
-/

namespace HttpCourier.Json

namespace Lenient

variable {body t t' u rest : Text} {c : CodePoint} {piece : Piece} {pieces : List Piece}

/-! ### What the pass over comments leaves -/

theorem dropComments_code (quote : c ≠ CodePoint.ofChar '"') (mark : ¬ CommentAt (c :: t))
    (at_ : Nat) :
    dropComments .code 0 at_ (c :: t) = (dropComments .code 0 (at_ + 1) t).map (c :: ·) := by
  rw [commentAt_cons_iff, and_or_left, not_or] at mark
  rw [dropComments.eq_def]
  dsimp only
  rw [if_neg quote, if_neg mark.1, if_neg mark.2]

theorem Inside.dropComments (h : Inside body) (at_ : Nat) (t : Text) :
    dropComments .literal 0 at_ (body ++ t) =
      (dropComments .literal 0 (at_ + body.length) t).map (body ++ ·) := by
  induction h generalizing at_ with
  | nil => exact (congrFun Except.map_id _).symm
  | @plain c body quote escape _ ih =>
    have shift : at_ + (c :: body).length = at_ + 1 + body.length := by simp; omega
    rw [List.cons_append, dropComments_plain ⟨quote, escape⟩, ih, map_map, shift]
    rfl
  | @escape c body _ ih =>
    have shift : at_ + (CodePoint.ofChar '\\' :: c :: body).length = at_ + 2 + body.length := by
      simp; omega
    rw [List.cons_append, List.cons_append, dropComments_escape, ih, map_map, shift]
    rfl

/-- A literal that is not closed is copied to the end. -/
theorem Unclosed.dropComments (h : Unclosed t) (at_ : Nat) :
    dropComments .literal 0 at_ t = .ok t := by
  induction h generalizing at_ with
  | nil | backslash => rfl
  | plain quote escape _ ih =>
    rw [dropComments_plain ⟨quote, escape⟩, ih]
    rfl
  | escape _ ih =>
    rw [dropComments_escape, ih]
    rfl

/-- The line feed behind a line comment is no part of it. -/
theorem dropComments_lineComment (oneLine : CodePoint.ofChar '\n' ∉ body)
    (ends : t = [] ∨ t.head? = some (CodePoint.ofChar '\n')) (at_ : Nat) :
    dropComments .lineComment 0 at_ (body ++ t) = dropComments .code 0 (at_ + body.length) t := by
  rcases ends with rfl | feed
  · rw [List.append_nil, dropComments_openLine oneLine]
    rfl
  · obtain ⟨t, rfl⟩ := List.head?_eq_some_iff.1 feed
    rw [dropComments_line oneLine, dropComments_blank (by decide)]

theorem dropComments_unclosed (h : Text.hasBlock t "*/" = false) (opened at_ : Nat) :
    dropComments (.blockComment opened) 0 at_ t = .error opened := by
  induction t generalizing at_ with
  | nil => rfl
  | cons c t ih =>
    rw [Text.hasBlock, Bool.or_eq_false_iff] at h
    have goesOn : ¬ (c = CodePoint.ofChar '*' ∧ t.head? = some (CodePoint.ofChar '/')) := by
      rintro ⟨rfl, next⟩
      obtain ⟨t', rfl⟩ := List.head?_eq_some_iff.1 next
      exact absurd h.1 (by simp [Text.startsWith, Text.ofString])
    rw [dropComments.eq_def]
    dsimp only
    rw [if_neg goesOn, ih h.2]

/-- The pass leaves of the first piece what is no comment, and goes on behind it. -/
theorem First.dropComments (h : First piece t t') (at_ : Nat) :
    dropComments .code 0 at_ t = (dropComments .code 0 (at_ + piece.text.length) t').map
      (textOf piece.left ++ ·) := by
  cases h with
  | plain quote mark => exact dropComments_code quote mark at_
  | @literal body _ inside =>
    have shift : at_ + (Piece.literal (CodePoint.ofChar '"' ::
        (body ++ [CodePoint.ofChar '"']))).text.length = at_ + 1 + body.length + 1 := by
      simp [Piece.text]; omega
    show (Lenient.dropComments .literal 0 (at_ + 1) _).map _ = _
    rw [inside.dropComments, shift]
    show (((Lenient.dropComments .code 0 _ t').map _).map _).map _ = _
    rw [map_map, map_map]
    simp [Function.comp_def, textOf, Piece.left, Piece.text]
  | openLiteral unclosed =>
    show (Lenient.dropComments .literal 0 (at_ + 1) _).map _ = _
    rw [unclosed.dropComments]
    simp [Lenient.dropComments, Except.map, textOf, Piece.left, Piece.text]
  | @lineComment body _ oneLine ends =>
    have shift : at_ + (Piece.lineComment body).text.length = at_ + 2 + body.length := by
      simp [Piece.text]; omega
    show Lenient.dropComments .lineComment 0 (at_ + 2) (body ++ t') = _
    rw [dropComments_lineComment oneLine ends, shift]
    exact (congrFun Except.map_id _).symm
  | @blockComment body _ closed =>
    have shift : at_ + (Piece.blockComment body).text.length = at_ + 2 + body.length + 2 := by
      simp [Piece.text]; omega
    show Lenient.dropComments (.blockComment at_) 0 (at_ + 2) _ = _
    rw [dropComments_block closed, shift]
    rfl

theorem Pieces.dropComments (h : Pieces pieces t rest) (at_ : Nat) :
    dropComments .code 0 at_ t = (dropComments .code 0 (at_ + (textOf pieces).length) rest).map
      (textOf (leftOf pieces) ++ ·) := by
  induction h generalizing at_ with
  | nil => exact (congrFun Except.map_id _).symm
  | @cons piece pieces _ _ _ first _ ih =>
    have shift : at_ + (textOf (piece :: pieces)).length =
        at_ + piece.text.length + (textOf pieces).length := by
      simp [textOf]; omega
    rw [first.dropComments, ih, map_map, shift]
    simp [Function.comp_def, textOf, leftOf]

/-- **What is left of a text without an open comment.** -/
theorem Pieces.stripComments (h : Pieces pieces t []) :
    stripComments t = .ok (textOf (leftOf pieces)) := by
  unfold Json.stripComments
  rw [h.dropComments]
  exact congrArg Except.ok (List.append_nil _)

/-- **A block comment that is not closed** is complained about where it opens. -/
theorem Pieces.stripComments_unclosed
    (h : Pieces pieces t (CodePoint.ofChar '/' :: CodePoint.ofChar '*' :: rest))
    (unclosed : Text.hasBlock rest "*/" = false) : Json.stripComments t =
      .error (.malformed .unterminatedComment (Place.of t (textOf pieces).length)) := by
  have opened (at_ : Nat) : Lenient.dropComments .code 0 at_
      (CodePoint.ofChar '/' :: CodePoint.ofChar '*' :: rest) = .error at_ :=
    dropComments_unclosed unclosed at_ (at_ + 2)
  unfold Json.stripComments
  rw [h.dropComments, opened, Nat.zero_add]
  rfl

/-! ### What is left has no comments -/

/-- The second text is what is left of the first one: a slash or a star at its front stood there
before. -/
structure Leavings (t u : Text) : Prop where
  nil : t = [] → u = []
  front : ∀ d, d = CodePoint.ofChar '/' ∨ d = CodePoint.ofChar '*' → u.head? = some d →
    t.head? = some d

theorem Leavings.of_cons (front : ∀ d, d = CodePoint.ofChar '/' ∨ d = CodePoint.ofChar '*' →
    u.head? = some d → (c :: t).head? = some d) : Leavings (c :: t) u :=
  ⟨fun none => absurd none (List.cons_ne_nil _ _), front⟩

theorem First.left (h : First piece t t') (leavings : Leavings t' u)
    (behind : Pieces pieces u rest) :
    Pieces (piece.left ++ pieces) (textOf piece.left ++ u) rest ∧
      Leavings t (textOf piece.left ++ u) := by
  cases h with
  | @plain c _ quote mark =>
    refine ⟨.cons (.plain quote fun mark' => mark ?_) behind, .of_cons fun _ _ head => head⟩
    obtain ⟨slash, next⟩ := commentAt_cons_iff.1 mark'
    exact commentAt_cons_iff.2 ⟨slash, next.imp (leavings.front _ (.inl rfl))
      (leavings.front _ (.inr rfl))⟩
  | @literal body _ inside =>
    have text_eq : textOf (Piece.literal (CodePoint.ofChar '"' ::
        (body ++ [CodePoint.ofChar '"']))).left ++ u =
        CodePoint.ofChar '"' :: (body ++ CodePoint.ofChar '"' :: u) := by
      simp [textOf, Piece.left, Piece.text]
    rw [text_eq]
    exact ⟨.cons (.literal inside) behind, .of_cons fun _ _ head => head⟩
  | @openLiteral body unclosed =>
    obtain rfl := leavings.nil rfl
    have text_eq : textOf (Piece.literal (CodePoint.ofChar '"' :: body)).left ++ [] =
        CodePoint.ofChar '"' :: body := by
      simp [textOf, Piece.left, Piece.text]
    rw [text_eq]
    exact ⟨.cons (.openLiteral unclosed) behind, .of_cons fun _ _ head => head⟩
  | lineComment _ ends =>
    refine ⟨behind, .of_cons fun d hd head => ?_⟩
    have there := leavings.front d hd head
    rcases ends with rfl | feed
    · cases there
    · rw [feed] at there
      cases there
      exact absurd hd (by decide)
  | blockComment =>
    refine ⟨.cons (.plain (by decide) fun mark => ?_) behind, .of_cons fun d hd head => ?_⟩
    · exact absurd (commentAt_cons_iff.1 mark).1 (by decide)
    · cases head
      exact absurd hd (by decide)

/-- **What is left** is made of the pieces that are left. -/
theorem Pieces.left (h : Pieces pieces t rest) :
    Pieces (leftOf pieces) (textOf (leftOf pieces) ++ rest) rest ∧
      Leavings t (textOf (leftOf pieces) ++ rest) := by
  induction h with
  | nil => exact ⟨.nil, id, fun _ _ head => head⟩
  | @cons piece pieces _ _ rest first _ ih =>
    have text_eq : textOf (leftOf (piece :: pieces)) ++ rest =
        textOf piece.left ++ (textOf (leftOf pieces) ++ rest) := by
      simp [textOf, leftOf]
    rw [text_eq]
    exact first.left ih.2 ih.1

theorem left_of_mem_leftOf (h : piece ∈ leftOf pieces) : piece.left = [piece] := by
  obtain ⟨whole, -, left⟩ := List.mem_flatMap.1 h
  cases whole with
  | lineComment => cases left
  | plain | literal | blockComment =>
    rw [List.mem_singleton.1 left]
    rfl

theorem leftOf_leftOf (pieces : List Piece) : leftOf (leftOf pieces) = leftOf pieces := by
  have once (piece : Piece) : leftOf piece.left = piece.left := by cases piece <;> rfl
  rw [leftOf, leftOf, List.flatMap_assoc]
  exact List.flatMap_congr fun piece _ => once piece

theorem literalsOf_leftOf (pieces : List Piece) :
    literalsOf (leftOf pieces) = literalsOf pieces := by
  have one (piece : Piece) : literalsOf piece.left = literalsOf [piece] := by cases piece <;> rfl
  induction pieces with
  | nil => rfl
  | cons piece pieces ih =>
    calc literalsOf (leftOf (piece :: pieces))
        = literalsOf piece.left ++ literalsOf (leftOf pieces) := List.filterMap_append
      _ = literalsOf [piece] ++ literalsOf pieces := by rw [one, ih]
      _ = literalsOf (piece :: pieces) := List.filterMap_append.symm

/-- The text is made of whole string literals and of code points that are no quote: the literals of
a text behind it start where they start in the whole. -/
inductive Outside : Text → Prop
  | nil : Outside []
  | plain {c : CodePoint} {t : Text} (quote : c ≠ CodePoint.ofChar '"') (behind : Outside t) :
      Outside (c :: t)
  | literal {body t : Text} (inside : Inside body) (behind : Outside t) :
      Outside (CodePoint.ofChar '"' :: (body ++ CodePoint.ofChar '"' :: t))

theorem First.not_commentAt (h : First piece t t') (kept : piece.left = [piece]) :
    ¬ CommentAt t := by
  cases h with
  | plain _ mark => exact mark
  | literal | openLiteral =>
    intro mark
    exact absurd (commentAt_cons_iff.1 mark).1 (by decide)
  | lineComment | blockComment => cases kept

theorem First.eq_of_plain (h : First piece (c :: t) t') (quote : c ≠ CodePoint.ofChar '"')
    (kept : piece.left = [piece]) : t' = t := by
  cases h with
  | plain => rfl
  | literal | openLiteral => exact absurd rfl quote
  | lineComment | blockComment => cases kept

theorem First.eq_of_literal
    (h : First piece (CodePoint.ofChar '"' :: (body ++ CodePoint.ofChar '"' :: t)) t')
    (inside : Inside body) : t' = t := by
  rcases h.of_quote with ⟨body', inside', eq, -⟩ | ⟨unclosed, -⟩
  · exact (inside.append_inj inside' eq).2.symm
  · exact absurd unclosed inside.not_unclosed

/-- Outside literals no comment opens in a text of which everything is left. -/
theorem Outside.not_commentAt {front : Text} (h : Outside front)
    (cut : Pieces pieces (front ++ t) []) (kept : ∀ p ∈ pieces, p.left = [p]) :
    ¬ CommentAt t := by
  induction h generalizing pieces with
  | nil =>
    cases cut with
    | nil => simp [CommentAt, Text.ofString]
    | cons first => exact first.not_commentAt (kept _ List.mem_cons_self)
  | plain quote _ ih =>
    cases cut with
    | cons first behind =>
      obtain ⟨here, further⟩ := List.forall_mem_cons.1 kept
      obtain rfl := first.eq_of_plain quote here
      exact ih behind further
  | literal inside _ ih =>
    rw [List.cons_append, List.append_assoc, List.cons_append] at cut
    cases cut with
    | cons first behind =>
      obtain rfl := first.eq_of_literal inside
      exact ih behind fun p hp => kept p (List.mem_cons_of_mem _ hp)

end Lenient

open Lenient

/-- **What cleaning does to a text.** A text that it does not refuse is made of pieces in one way.
What is left of it is what they leave, and is made of the pieces left: of the same string literals,
then. It stays as it is when it is cleaned again, and outside literals no comment opens in it.

A text is refused if a block comment that opens outside literals and comments is not closed, and
then for that and for no other reason. -/
theorem stripComments_by_pieces (t : Text) :
    (∀ u, stripComments t = .ok u →
      stripComments u = .ok u ∧
      (∀ front back, u = front ++ back → Outside front → ¬ CommentAt back) ∧
      ∃ pieces, (∀ ps, Pieces ps t [] ↔ ps = pieces) ∧ u = textOf (leftOf pieces) ∧
        (∀ ps, Pieces ps u [] ↔ ps = leftOf pieces) ∧
        literalsOf (leftOf pieces) = literalsOf pieces) ∧
    ∀ failure, stripComments t = .error failure ↔ ∃ pieces rest,
      Pieces pieces t (CodePoint.ofChar '/' :: CodePoint.ofChar '*' :: rest) ∧
      Text.hasBlock rest "*/" = false ∧
      failure = .malformed .unterminatedComment (Place.of t (textOf pieces).length) := by
  constructor
  · intro u cleaned
    rcases exists_pieces t with ⟨pieces, cut⟩ | ⟨pieces, rest, cut, unclosed⟩
    · obtain rfl : u = textOf (leftOf pieces) :=
        Except.ok.inj (cleaned.symm.trans cut.stripComments)
      have left := cut.left.1
      rw [List.append_nil] at left
      refine ⟨?_, ?_, pieces, ?_, rfl, ?_, literalsOf_leftOf pieces⟩
      · rw [left.stripComments, leftOf_leftOf]
      · intro front back eq outside
        rw [eq] at left
        exact outside.not_commentAt left fun _ => left_of_mem_leftOf
      · exact fun ps => ⟨fun other => other.unique cut, fun same => same ▸ cut⟩
      · exact fun ps => ⟨fun other => other.unique left, fun same => same ▸ left⟩
    · rw [cut.stripComments_unclosed unclosed] at cleaned
      cases cleaned
  · intro failure
    constructor
    · intro refused
      rcases exists_pieces t with ⟨pieces, cut⟩ | ⟨pieces, rest, cut, unclosed⟩
      · rw [cut.stripComments] at refused
        cases refused
      · rw [cut.stripComments_unclosed unclosed] at refused
        exact ⟨pieces, rest, cut, unclosed, (Except.error.inj refused).symm⟩
    · rintro ⟨pieces, rest, cut, unclosed, rfl⟩
      exact cut.stripComments_unclosed unclosed

end HttpCourier.Json
