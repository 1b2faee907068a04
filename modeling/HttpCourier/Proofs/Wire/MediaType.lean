import HttpCourier.Proofs.Text.Lowering
import HttpCourier.Text.Blank

/-!
# HttpCourier.Proofs.Wire.MediaType

**The charset of a media type, as a receiver reads it.** A media type is followed by parameters, each
behind a semicolon that stands outside of quoted strings; the first one that is named `charset`, in
any letter case, gives the charset (`MediaType.charset?`).

A type without that word gets a parameter at its end, and that is what a receiver finds
(`MediaType.charset?_append`).
-/

namespace HttpCourier

/-! ### Reading parameters -/

namespace MediaType

/-- Where a reader of a media type stands. -/
inductive Place where
  | outside
  /-- In a quoted string. -/
  | quoted
  /-- In a quoted string, behind a backslash. -/
  | escaped
  deriving DecidableEq, Repr

/-- Where the reader stands behind one more code point. -/
def Place.next : Place → CodePoint → Place
  | outside, c => if c = CodePoint.ofChar '"' then quoted else outside
  | quoted, c =>
    if c = CodePoint.ofChar '"' then outside
    else if c = CodePoint.ofChar '\\' then escaped
    else quoted
  | escaped, _ => quoted

/-- Where the reader stands behind a text. -/
def Place.after (place : Place) (t : Text) : Place := t.foldl next place

/-- The sections of a text between the semicolons that stand outside of quoted strings. -/
def sections (place : Place) : Text → List Text
  | [] => [[]]
  | c :: rest =>
    if place = .outside ∧ c = CodePoint.ofChar ';' then [] :: sections place rest
    else (sections (place.next c) rest).modifyHead (c :: ·)

/-- A quoted string, read behind its first quotation mark. -/
def unquoted : Text → Text
  | [] => []
  | c :: rest =>
    if c = CodePoint.ofChar '"' then []
    else if c = CodePoint.ofChar '\\' then
      match rest with
      | [] => []
      | d :: rest => d :: unquoted rest
    else c :: unquoted rest

/-- The value of a parameter, as it is or in quotation marks. -/
def parameterValue (t : Text) : Text :=
  if t.head? = some (CodePoint.ofChar '"') then unquoted t.tail else t

/-- Whether the code point is a blank that may stand around a parameter. -/
def isPadding (c : CodePoint) : Bool := c.val == 0x20 || c.val == 0x09

/-- The value of a section that is a parameter of the name, which is told by its ASCII letters in
lower case. -/
def valueOf? (name : Text) (part : Text) : Option Text :=
  match Text.splitFirst? (CodePoint.ofChar '=') (Text.stripBy isPadding part) with
  | some (given, value) =>
    if Text.asciiLower given = name then some (parameterValue value) else none
  | none => none

/-- The charset parameter of a media type: the first one behind the type itself. -/
def charset? (t : Text) : Option Text :=
  (sections .outside t).tail.findSome? (valueOf? "charset")

/-- The charset parameter is UTF-8, in any letter case. -/
def NamesUtf8 (t : Text) : Prop := ∃ name, charset? t = some name ∧ Text.asciiLower name = "utf-8"

/-- Somewhere in the text stands `charset=`, in any letter case. -/
def MentionsCharset (t : Text) : Prop := ∃ here, here <:+: t ∧ Text.asciiLower here = "charset="

variable {place : Place} {t u name value : Text}

theorem hasBlock_charset_iff :
    Text.hasBlock (Text.lower t) "charset=" = true ↔ MentionsCharset t :=
  Text.hasBlock_lower_iff (by decide) (by decide)

instance (t : Text) : Decidable (MentionsCharset t) :=
  decidable_of_iff _ hasBlock_charset_iff

/-- There is a first section, at the beginning of the text, and all others stand in the text. -/
theorem exists_sections (place : Place) (t : Text) :
    ∃ first rest, sections place t = first :: rest ∧ first <+: t ∧ ∀ s ∈ rest, s <:+: t := by
  induction t generalizing place with
  | nil => exact ⟨[], [], rfl, List.nil_prefix, by simp⟩
  | cons c t ih =>
    rw [sections]
    split
    · -- The section that begins behind the semicolon is no longer the first one.
      obtain ⟨first, rest, eq, front, back⟩ := ih place
      refine ⟨[], first :: rest, by rw [eq], List.nil_prefix, fun s hs => ?_⟩
      rcases List.mem_cons.1 hs with rfl | hs
      · exact List.infix_cons front.isInfix
      · exact List.infix_cons (back s hs)
    · obtain ⟨first, rest, eq, front, back⟩ := ih (place.next c)
      exact ⟨c :: first, rest, by rw [eq]; rfl, List.cons_prefix_cons.2 ⟨rfl, front⟩,
        fun s hs => List.infix_cons (back s hs)⟩

theorem infix_of_mem_sections {s : Text} (hs : s ∈ (sections place t).tail) : s <:+: t := by
  obtain ⟨first, rest, eq, -, back⟩ := exists_sections place t
  rw [eq] at hs
  exact back s hs

/-- Behind closed quotation marks a new section begins. -/
theorem sections_append (closed : place.after t = .outside) :
    sections place (t ++ CodePoint.ofChar ';' :: u) = sections place t ++ sections .outside u := by
  induction t generalizing place with
  | nil =>
    change place = .outside at closed
    rw [closed]
    exact if_pos ⟨rfl, rfl⟩
  | cons c t ih =>
    rw [List.cons_append, sections, sections]
    split
    · next separates =>
      have here : place.next c = place := by
        rw [separates.1, separates.2]
        rfl
      rw [ih (by rwa [← here]), List.cons_append]
    · rw [ih closed]
      obtain ⟨first, rest, eq, -⟩ := exists_sections (place.next c) t
      rw [eq]
      rfl

theorem infix_stripBy (p : CodePoint → Bool) (t : Text) : Text.stripBy p t <:+: t := by
  have back := List.dropWhile_suffix p (l := (t.dropWhile p).reverse)
  rw [← List.reverse_prefix, List.reverse_reverse] at back
  exact back.isInfix.trans (List.dropWhile_suffix p).isInfix

/-- What stands before the first occurrence of a code point, with that code point. -/
theorem prefix_of_splitFirst? {c : CodePoint} (h : Text.splitFirst? c t = some (name, value)) :
    name ++ [c] <+: t := by
  unfold Text.splitFirst? at h
  split at h
  · cases h
  · next first rest dropped =>
    cases h
    have head := List.head?_dropWhile_not (· ≠ c) t
    rw [dropped] at head
    obtain rfl : first = c := by simpa using head
    refine ⟨value, ?_⟩
    rw [List.append_assoc, List.singleton_append, ← dropped]
    exact List.takeWhile_append_dropWhile

/-- A charset parameter is mentioned in a text that it stands in. -/
theorem mentionsCharset_of_valueOf? {part : Text} (within : part <:+: t)
    (h : valueOf? "charset" part = some value) : MentionsCharset t := by
  unfold valueOf? at h
  split at h
  · next given rest parts =>
    split at h
    · next named =>
      refine ⟨given ++ [CodePoint.ofChar '='],
        (prefix_of_splitFirst? parts).isInfix.trans ((infix_stripBy _ _).trans within), ?_⟩
      unfold Text.asciiLower at named ⊢
      rw [List.map_append, named]
      decide
    · cases h
  · cases h

/-- **A charset parameter is mentioned.** -/
theorem mentionsCharset_of_charset? (h : charset? t = some value) : MentionsCharset t := by
  obtain ⟨s, hs, found⟩ := List.exists_of_findSome?_eq_some h
  exact mentionsCharset_of_valueOf? (infix_of_mem_sections hs) found

/-- **The parameter that is added to a type** is the one that a reader finds, if the type has none
and leaves no quoted string open. -/
theorem charset?_append (unnamed : ¬ MentionsCharset t) (closed : Place.outside.after t = .outside) :
    charset? (t ++ Text.ofString "; charset=utf-8") = some (Text.ofString "utf-8") := by
  have added : Text.ofString "; charset=utf-8" =
      CodePoint.ofChar ';' :: Text.ofString " charset=utf-8" := by decide
  have behind : sections .outside (Text.ofString " charset=utf-8") =
      [Text.ofString " charset=utf-8"] := by decide
  have none : charset? t = none :=
    Option.eq_none_iff_forall_ne_some.2 fun value found =>
      unnamed (mentionsCharset_of_charset? found)
  obtain ⟨first, rest, eq, -⟩ := exists_sections .outside t
  unfold charset? at none ⊢
  rw [eq, List.tail_cons] at none
  rw [added, sections_append closed, behind, eq, List.cons_append, List.tail_cons,
    List.findSome?_append, none]
  decide

end MediaType

end HttpCourier
