import HttpCourier.Proofs.Json.Relaxed

/-!
# HttpCourier.Proofs.Json.Pieces

**The pieces of a text with comments.** Outside comments a text is made of string literals and
single code points; outside literals two marks open a comment. `Lenient.Pieces` cuts a text that
way, up to a rest. Every text is cut to its end or up to a block comment that is not closed
(`Lenient.exists_pieces`), and in one way only (`Lenient.Pieces.unique`).
-/

namespace HttpCourier.Json.Lenient

variable {body body' t t' t'' u rest : Text} {c : CodePoint}

/-! ### Literals and marks -/

/-- What may stand between the quotes of a string literal. -/
inductive Inside : Text → Prop
  | nil : Inside []
  | plain {c : CodePoint} {t : Text} (quote : c ≠ CodePoint.ofChar '"')
      (escape : c ≠ CodePoint.ofChar '\\') (behind : Inside t) : Inside (c :: t)
  | escape {c : CodePoint} {t : Text} (behind : Inside t) : Inside (CodePoint.ofChar '\\' :: c :: t)

/-- What may stand behind a quote that is never closed. -/
inductive Unclosed : Text → Prop
  | nil : Unclosed []
  | backslash : Unclosed [CodePoint.ofChar '\\']
  | plain {c : CodePoint} {t : Text} (quote : c ≠ CodePoint.ofChar '"')
      (escape : c ≠ CodePoint.ofChar '\\') (behind : Unclosed t) : Unclosed (c :: t)
  | escape {c : CodePoint} {t : Text} (behind : Unclosed t) :
      Unclosed (CodePoint.ofChar '\\' :: c :: t)

/-- The text starts with the mark of a comment. -/
def CommentAt (t : Text) : Prop := Text.ofString "//" <+: t ∨ Text.ofString "/*" <+: t

theorem commentAt_cons_iff : CommentAt (c :: t) ↔ c = CodePoint.ofChar '/' ∧
    (t.head? = some (CodePoint.ofChar '/') ∨ t.head? = some (CodePoint.ofChar '*')) := by
  have mark (d : CodePoint) : [CodePoint.ofChar '/', d] <+: c :: t ↔
      c = CodePoint.ofChar '/' ∧ t.head? = some d := by
    rw [List.cons_prefix_cons, eq_comm, List.singleton_prefix_iff_head?_eq_some]
  rw [and_or_left, ← mark, ← mark]
  rfl

/-- Behind a quote a literal is closed, or it goes on to the end. -/
theorem exists_inside (t : Text) :
    (∃ body t', Inside body ∧ t = body ++ CodePoint.ofChar '"' :: t') ∨ Unclosed t := by
  match t with
  | [] => exact .inr .nil
  | c :: t =>
    by_cases quote : c = CodePoint.ofChar '"'
    · exact .inl ⟨[], t, .nil, by rw [quote]; rfl⟩
    by_cases escape : c = CodePoint.ofChar '\\'
    · subst escape
      match t with
      | [] => exact .inr .backslash
      | d :: t =>
        rcases exists_inside t with ⟨body, t', inside, rfl⟩ | unclosed
        · exact .inl ⟨_, t', .escape inside, rfl⟩
        · exact .inr (.escape unclosed)
    · rcases exists_inside t with ⟨body, t', inside, rfl⟩ | unclosed
      · exact .inl ⟨_, t', .plain quote escape inside, rfl⟩
      · exact .inr (.plain quote escape unclosed)

theorem Inside.append_inj (h : Inside body) (h' : Inside body')
    (eq : body ++ CodePoint.ofChar '"' :: t = body' ++ CodePoint.ofChar '"' :: t') :
    body = body' ∧ t = t' := by
  induction h generalizing body' with
  | nil =>
    cases h' with
    | nil => exact ⟨rfl, (List.cons.inj eq).2⟩
    | plain quote => exact absurd (List.cons.inj eq).1.symm quote
    | escape => exact absurd (List.cons.inj eq).1 (by decide)
  | plain quote escape _ ih =>
    cases h' with
    | nil => exact absurd (List.cons.inj eq).1 quote
    | plain _ _ behind =>
      obtain ⟨rfl, further⟩ := List.cons.inj eq
      obtain ⟨rfl, rest⟩ := ih behind further
      exact ⟨rfl, rest⟩
    | escape => exact absurd (List.cons.inj eq).1 escape
  | escape _ ih =>
    cases h' with
    | nil => exact absurd (List.cons.inj eq).1 (by decide)
    | plain _ escape => exact absurd (List.cons.inj eq).1.symm escape
    | escape behind =>
      obtain ⟨rfl, further⟩ := List.cons.inj (List.cons.inj eq).2
      obtain ⟨rfl, rest⟩ := ih behind further
      exact ⟨rfl, rest⟩

theorem Unclosed.of_plain (escape : c ≠ CodePoint.ofChar '\\') (h : Unclosed (c :: t)) :
    Unclosed t := by
  cases h with
  | backslash | escape => exact absurd rfl escape
  | plain _ _ behind => exact behind

theorem Unclosed.of_escape (h : Unclosed (CodePoint.ofChar '\\' :: c :: t)) : Unclosed t := by
  cases h with
  | plain _ escape => exact absurd rfl escape
  | escape behind => exact behind

theorem Inside.not_unclosed (h : Inside body) :
    ¬ Unclosed (body ++ CodePoint.ofChar '"' :: t) := by
  induction h with
  | nil =>
    intro unclosed
    cases unclosed with
    | plain quote => exact quote rfl
  | plain _ escape _ ih => exact fun unclosed => ih (unclosed.of_plain escape)
  | escape _ ih => exact fun unclosed => ih unclosed.of_escape

/-! ### Where comments end -/

theorem exists_line (t : Text) : ∃ body t', t = body ++ t' ∧ CodePoint.ofChar '\n' ∉ body ∧
    (t' = [] ∨ t'.head? = some (CodePoint.ofChar '\n')) := by
  by_cases feed : CodePoint.ofChar '\n' ∈ t
  · obtain ⟨body, t', rfl, oneLine⟩ := List.eq_append_cons_of_mem feed
    exact ⟨body, _, rfl, oneLine, .inr rfl⟩
  · exact ⟨t, [], (List.append_nil t).symm, feed, .inl rfl⟩

/-- A line comment is not longer than another one at the same place. -/
theorem line_eq_of_front (ends : t = [] ∨ t.head? = some (CodePoint.ofChar '\n'))
    (oneLine' : CodePoint.ofChar '\n' ∉ body') (eq : body ++ t = body' ++ t')
    (front : body <+: body') : body = body' := by
  obtain ⟨more, rfl⟩ := front
  rw [List.append_assoc, List.append_cancel_left_eq] at eq
  cases more with
  | nil => exact (List.append_nil _).symm
  | cons c more =>
    subst eq
    rcases ends with none | feed
    · cases none
    · cases feed
      exact absurd (by simp) oneLine'

theorem line_unique (oneLine : CodePoint.ofChar '\n' ∉ body)
    (ends : t = [] ∨ t.head? = some (CodePoint.ofChar '\n'))
    (oneLine' : CodePoint.ofChar '\n' ∉ body')
    (ends' : t' = [] ∨ t'.head? = some (CodePoint.ofChar '\n')) (eq : body ++ t = body' ++ t') :
    body = body' ∧ t = t' := by
  have same : body = body' := by
    rcases List.prefix_or_prefix_of_prefix ⟨t, eq⟩ ⟨t', rfl⟩ with front | front
    · exact line_eq_of_front ends oneLine' eq front
    · exact (line_eq_of_front ends' oneLine eq.symm front).symm
  subst same
  exact ⟨rfl, List.append_cancel_left eq⟩

/-- The first closing mark. -/
theorem exists_block (h : Text.hasBlock t "*/" = true) : ∃ body t',
    t = body ++ CodePoint.ofChar '*' :: CodePoint.ofChar '/' :: t' ∧
      Text.hasBlock body "*/" = false := by
  induction t with
  | nil => cases h
  | cons c t ih =>
    by_cases starts : Text.startsWith (c :: t) "*/" = true
    · obtain ⟨t', eq⟩ := List.isPrefixOf_iff_prefix.1 starts
      exact ⟨[], t', eq.symm, by decide⟩
    · rw [Text.hasBlock, Bool.or_eq_true, or_iff_right starts] at h
      obtain ⟨body, t', rfl, closed⟩ := ih h
      refine ⟨c :: body, t', rfl, ?_⟩
      rw [Text.hasBlock, closed, Bool.or_false, Bool.eq_false_iff]
      intro early
      have front : c :: body <+:
          c :: (body ++ CodePoint.ofChar '*' :: CodePoint.ofChar '/' :: t') :=
        List.prefix_append (c :: body) _
      exact starts (List.isPrefixOf_iff_prefix.2 ((List.isPrefixOf_iff_prefix.1 early).trans front))

theorem hasBlock_closing (body t : Text) :
    Text.hasBlock (body ++ CodePoint.ofChar '*' :: CodePoint.ofChar '/' :: t) "*/" = true := by
  induction body with
  | nil => rfl
  | cons c body ih => rw [List.cons_append, Text.hasBlock, ih, Bool.or_true]

/-- A block comment is not longer than another one at the same place. -/
theorem block_eq_of_front (closed' : Text.hasBlock body' "*/" = false)
    (eq : body ++ CodePoint.ofChar '*' :: CodePoint.ofChar '/' :: t =
      body' ++ CodePoint.ofChar '*' :: CodePoint.ofChar '/' :: t')
    (front : body <+: body') : body = body' := by
  obtain ⟨more, rfl⟩ := front
  rw [List.append_assoc, List.append_cancel_left_eq] at eq
  match more with
  | [] => exact (List.append_nil _).symm
  | [c] =>
    obtain ⟨-, further⟩ := List.cons.inj eq
    exact absurd (List.cons.inj further).1 (by decide)
  | c :: d :: more =>
    obtain ⟨rfl, further⟩ := List.cons.inj eq
    obtain ⟨rfl, -⟩ := List.cons.inj further
    rw [hasBlock_closing] at closed'
    cases closed'

theorem block_unique (closed : Text.hasBlock body "*/" = false)
    (closed' : Text.hasBlock body' "*/" = false)
    (eq : body ++ CodePoint.ofChar '*' :: CodePoint.ofChar '/' :: t =
      body' ++ CodePoint.ofChar '*' :: CodePoint.ofChar '/' :: t') : body = body' ∧ t = t' := by
  have same : body = body' := by
    rcases List.prefix_or_prefix_of_prefix ⟨_, eq⟩ ⟨_, rfl⟩ with front | front
    · exact block_eq_of_front closed' eq front
    · exact (block_eq_of_front closed eq.symm front).symm
  subst same
  exact ⟨rfl, (List.cons.inj (List.cons.inj (List.append_cancel_left eq)).2).2⟩

/-! ### Pieces -/

/-- The pieces that a text is made of. -/
inductive Piece where
  /-- A code point outside literals and comments. -/
  | plain (c : CodePoint)
  /-- A string literal with its quotes. -/
  | literal (t : Text)
  /-- A line comment by what stands behind its mark. -/
  | lineComment (body : Text)
  /-- A block comment by what stands between its marks. -/
  | blockComment (body : Text)

namespace Piece

/-- The text of a piece. -/
def text : Piece → Text
  | plain c => [c]
  | literal t => t
  | lineComment body => CodePoint.ofChar '/' :: CodePoint.ofChar '/' :: body
  | blockComment body => CodePoint.ofChar '/' :: CodePoint.ofChar '*' ::
      (body ++ [CodePoint.ofChar '*', CodePoint.ofChar '/'])

/-- The pieces that are left of a piece without its comment. -/
def left : Piece → List Piece
  | plain c => [plain c]
  | literal t => [literal t]
  | lineComment _ => []
  | blockComment _ => [plain (CodePoint.ofChar ' ')]

/-- The literal that the piece is. -/
def literal? : Piece → Option Text
  | literal t => some t
  | _ => none

end Piece

/-- The text of some pieces. -/
def textOf (pieces : List Piece) : Text := pieces.flatMap Piece.text

/-- The pieces that are left without comments. -/
def leftOf (pieces : List Piece) : List Piece := pieces.flatMap Piece.left

/-- The string literals among some pieces. -/
def literalsOf (pieces : List Piece) : List Text := pieces.filterMap Piece.literal?

/-- The first piece of a text, and the text behind it. -/
inductive First : Piece → Text → Text → Prop
  | plain {c : CodePoint} {t : Text} (quote : c ≠ CodePoint.ofChar '"')
      (mark : ¬ CommentAt (c :: t)) : First (.plain c) (c :: t) t
  | literal {body t : Text} (inside : Inside body) :
      First (.literal (CodePoint.ofChar '"' :: (body ++ [CodePoint.ofChar '"'])))
        (CodePoint.ofChar '"' :: (body ++ CodePoint.ofChar '"' :: t)) t
  /-- A literal that is not closed goes on to the end of the text. -/
  | openLiteral {body : Text} (unclosed : Unclosed body) :
      First (.literal (CodePoint.ofChar '"' :: body)) (CodePoint.ofChar '"' :: body) []
  /-- A line comment goes on to the next line feed, or else to the end of the text. -/
  | lineComment {body t : Text} (oneLine : CodePoint.ofChar '\n' ∉ body)
      (ends : t = [] ∨ t.head? = some (CodePoint.ofChar '\n')) :
      First (.lineComment body) (CodePoint.ofChar '/' :: CodePoint.ofChar '/' :: (body ++ t)) t
  /-- A block comment goes on to the next closing mark. -/
  | blockComment {body t : Text} (closed : Text.hasBlock body "*/" = false) :
      First (.blockComment body) (CodePoint.ofChar '/' :: CodePoint.ofChar '*' ::
        (body ++ CodePoint.ofChar '*' :: CodePoint.ofChar '/' :: t)) t

/-- The text is made of these pieces up to a rest, which starts outside literals and comments. -/
inductive Pieces : List Piece → Text → Text → Prop
  | nil {t : Text} : Pieces [] t t
  | cons {piece : Piece} {pieces : List Piece} {t t' rest : Text} (first : First piece t t')
      (behind : Pieces pieces t' rest) : Pieces (piece :: pieces) t rest

variable {piece piece' : Piece} {pieces pieces' : List Piece}

theorem First.text_eq (h : First piece t t') : t = piece.text ++ t' := by
  cases h <;> simp [Piece.text]

theorem First.shorter (h : First piece t t') : t'.length < t.length := by
  cases h <;> simp <;> omega

/-- **The first piece** of a text. -/
theorem exists_first (c : CodePoint) (t : Text) : (∃ piece t', First piece (c :: t) t') ∨
    ∃ rest, c :: t = CodePoint.ofChar '/' :: CodePoint.ofChar '*' :: rest ∧
      Text.hasBlock rest "*/" = false := by
  by_cases quote : c = CodePoint.ofChar '"'
  · subst quote
    rcases exists_inside t with ⟨body, t', inside, rfl⟩ | unclosed
    · exact .inl ⟨_, _, .literal inside⟩
    · exact .inl ⟨_, _, .openLiteral unclosed⟩
  by_cases mark : CommentAt (c :: t)
  · obtain ⟨rfl, next | next⟩ := commentAt_cons_iff.1 mark
    · obtain ⟨t, rfl⟩ := List.head?_eq_some_iff.1 next
      obtain ⟨body, t', rfl, oneLine, ends⟩ := exists_line t
      exact .inl ⟨_, _, .lineComment oneLine ends⟩
    · obtain ⟨t, rfl⟩ := List.head?_eq_some_iff.1 next
      cases closing : Text.hasBlock t "*/" with
      | false => exact .inr ⟨t, rfl, closing⟩
      | true =>
        obtain ⟨body, t', rfl, closed⟩ := exists_block closing
        exact .inl ⟨_, _, .blockComment closed⟩
  · exact .inl ⟨_, _, .plain quote mark⟩

/-- **Every text is cut** to its end, or up to a block comment that is not closed. -/
theorem exists_pieces (t : Text) : (∃ pieces, Pieces pieces t []) ∨
    ∃ pieces rest, Pieces pieces t (CodePoint.ofChar '/' :: CodePoint.ofChar '*' :: rest) ∧
      Text.hasBlock rest "*/" = false := by
  induction hn : t.length using Nat.strong_induction_on generalizing t with
  | _ n ih =>
    subst hn
    cases t with
    | nil => exact .inl ⟨[], .nil⟩
    | cons c t =>
      rcases exists_first c t with ⟨piece, t', first⟩ | ⟨rest, eq, unclosed⟩
      · rcases ih _ first.shorter t' rfl with ⟨pieces, cut⟩ | ⟨pieces, rest, cut, unclosed⟩
        · exact .inl ⟨_, .cons first cut⟩
        · exact .inr ⟨_, rest, .cons first cut, unclosed⟩
      · exact .inr ⟨[], rest, eq ▸ .nil, unclosed⟩

/-- A quote starts a literal and nothing else. -/
theorem First.of_quote (h : First piece (CodePoint.ofChar '"' :: t) t') :
    (∃ body, Inside body ∧ t = body ++ CodePoint.ofChar '"' :: t' ∧
      piece = .literal (CodePoint.ofChar '"' :: (body ++ [CodePoint.ofChar '"']))) ∨
    (Unclosed t ∧ t' = [] ∧ piece = .literal (CodePoint.ofChar '"' :: t)) := by
  cases h with
  | plain quote => exact absurd rfl quote
  | literal inside => exact .inl ⟨_, inside, rfl, rfl⟩
  | openLiteral unclosed => exact .inr ⟨unclosed, rfl, rfl⟩

theorem First.unique (h : First piece t t') (h' : First piece' t t'') :
    piece = piece' ∧ t' = t'' := by
  cases h with
  | plain quote mark =>
    cases h' with
    | plain => exact ⟨rfl, rfl⟩
    | literal | openLiteral => exact absurd rfl quote
    | lineComment | blockComment => exact absurd (commentAt_cons_iff.2 (by simp)) mark
  | literal inside =>
    rcases h'.of_quote with ⟨body', inside', eq, rfl⟩ | ⟨unclosed, -⟩
    · obtain ⟨rfl, rfl⟩ := inside.append_inj inside' eq
      exact ⟨rfl, rfl⟩
    · exact absurd unclosed inside.not_unclosed
  | openLiteral unclosed =>
    rcases h'.of_quote with ⟨body', inside', rfl, -⟩ | ⟨-, rfl, rfl⟩
    · exact absurd unclosed inside'.not_unclosed
    · exact ⟨rfl, rfl⟩
  | lineComment oneLine ends =>
    -- A case split cannot match what is appended, so that the text is given a name.
    generalize eq : CodePoint.ofChar '/' :: CodePoint.ofChar '/' :: _ = w at h'
    cases h' with
    | plain _ mark =>
      obtain ⟨rfl, rfl⟩ := List.cons.inj eq
      exact absurd (commentAt_cons_iff.2 (by simp)) mark
    | literal | openLiteral => exact absurd (List.cons.inj eq).1 (by decide)
    | lineComment oneLine' ends' =>
      obtain ⟨-, further⟩ := List.cons.inj eq
      obtain ⟨rfl, rfl⟩ := line_unique oneLine ends oneLine' ends' (List.cons.inj further).2
      exact ⟨rfl, rfl⟩
    | blockComment =>
      obtain ⟨-, further⟩ := List.cons.inj eq
      exact absurd (List.cons.inj further).1 (by decide)
  | blockComment closed =>
    generalize eq : CodePoint.ofChar '/' :: CodePoint.ofChar '*' :: _ = w at h'
    cases h' with
    | plain _ mark =>
      obtain ⟨rfl, rfl⟩ := List.cons.inj eq
      exact absurd (commentAt_cons_iff.2 (by simp)) mark
    | literal | openLiteral => exact absurd (List.cons.inj eq).1 (by decide)
    | lineComment =>
      obtain ⟨-, further⟩ := List.cons.inj eq
      exact absurd (List.cons.inj further).1 (by decide)
    | blockComment closed' =>
      obtain ⟨-, further⟩ := List.cons.inj eq
      obtain ⟨rfl, rfl⟩ := block_unique closed closed' (List.cons.inj further).2
      exact ⟨rfl, rfl⟩

/-- **A text is cut in one way only.** -/
theorem Pieces.unique (h : Pieces pieces t []) (h' : Pieces pieces' t []) : pieces = pieces' := by
  generalize ended : [] = rest at h
  induction h generalizing pieces' with
  | nil =>
    subst ended
    cases h' with
    | nil => rfl
    | cons first => cases first
  | cons first _ ih =>
    cases h' with
    | nil => cases first
    | cons first' behind =>
      obtain ⟨rfl, rfl⟩ := first.unique first'
      rw [ih behind ended]

end HttpCourier.Json.Lenient
