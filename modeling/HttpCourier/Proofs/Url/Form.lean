import HttpCourier.Proofs.Computation
import HttpCourier.Proofs.Text.Utf8
import HttpCourier.Url.Form
import HttpCourier.Url.Split

/-!
# HttpCourier.Proofs.Url.Form

**Form-encoded parameters can be read back.** `Url.formPairs` reads the parameters of a query: it
is cut at each `&`, empty pieces are passed over, and a piece is cut at its first `=`; a `+` is read
as a space, and percent escapes as bytes of UTF-8. What is encoded is read back
(`Url.formPairs_join`): no separator comes up in an encoded text.

`Url.Extends` says of a URL that it is another one with further parameters behind those that it has
already. Appending parameters extends a URL, whether or not it has a query.
-/

namespace HttpCourier

/-! ### Blocks of a text -/

namespace Text

variable {sep : CodePoint} {t : Text}

theorem splitOn_ne_nil (sep : CodePoint) (t : Text) : splitOn sep t ≠ [] := by
  cases t with
  | nil => exact List.cons_ne_nil _ _
  | cons c t =>
    unfold splitOn
    split
    · exact List.cons_ne_nil _ _
    · split <;> exact List.cons_ne_nil _ _

theorem splitOn_append (sep : CodePoint) (t u : Text) :
    splitOn sep (t ++ sep :: u) = splitOn sep t ++ splitOn sep u := by
  induction t with
  | nil => exact if_pos rfl
  | cons c t ih =>
    rw [List.cons_append, splitOn, splitOn, ih]
    by_cases hc : c = sep
    · rw [if_pos hc, if_pos hc, List.cons_append]
    · obtain ⟨block, blocks, hb⟩ := List.exists_cons_of_ne_nil (splitOn_ne_nil sep t)
      rw [if_neg hc, if_neg hc, hb]
      rfl

theorem splitOn_of_notMem (h : sep ∉ t) : splitOn sep t = [t] := by
  induction t with
  | nil => rfl
  | cons c t ih =>
    rw [List.mem_cons, not_or] at h
    rw [splitOn, if_neg (Ne.symm h.1), ih h.2]

/-- Blocks that are joined can be told apart. -/
theorem splitOn_join {blocks : List Text} (nonempty : blocks ≠ []) (h : ∀ b ∈ blocks, sep ∉ b) :
    splitOn sep (join [sep] blocks) = blocks := by
  induction blocks with
  | nil => exact absurd rfl nonempty
  | cons block blocks ih =>
    obtain ⟨here, there⟩ := List.forall_mem_cons.1 h
    cases blocks with
    | nil => exact splitOn_of_notMem here
    | cons next blocks =>
      show splitOn sep (block ++ [sep] ++ join [sep] (next :: blocks)) = _
      rw [List.append_assoc, List.singleton_append, splitOn_append, splitOn_of_notMem here,
        ih (List.cons_ne_nil _ _) there, List.singleton_append]

theorem splitFirst?_of_notMem (h : sep ∉ t) : splitFirst? sep t = none := by
  have none : t.dropWhile (· ≠ sep) = [] :=
    List.dropWhile_eq_nil_iff.2 fun d hd => decide_eq_true fun same => h (same ▸ hd)
  unfold splitFirst?
  rw [none]

theorem splitFirst?_append (h : sep ∉ t) (u : Text) :
    splitFirst? sep (t ++ sep :: u) = some (t, u) := by
  have front : ∀ d ∈ t, (decide (d ≠ sep)) = true :=
    fun d hd => decide_eq_true fun same => h (same ▸ hd)
  unfold splitFirst?
  rw [List.dropWhile_append_of_pos front, List.takeWhile_append_of_pos front,
    List.dropWhile_cons_of_neg (by simp), List.takeWhile_cons_of_neg (by simp), List.append_nil]

theorem notMem_join {c : CodePoint} {blocks : List Text} (hsep : c ≠ sep)
    (h : ∀ b ∈ blocks, c ∉ b) : c ∉ join [sep] blocks := by
  induction blocks with
  | nil => exact List.not_mem_nil
  | cons block blocks ih =>
    obtain ⟨here, there⟩ := List.forall_mem_cons.1 h
    cases blocks with
    | nil => exact here
    | cons next blocks =>
      simp only [join, List.mem_append, List.mem_singleton, not_or]
      exact ⟨⟨here, hsep⟩, ih there⟩

end Text

namespace Url

theorem cutAt_of_notMem {c : CodePoint} {t : Text} (h : c ∉ t) : cutAt c t = (t, []) := by
  rw [cutAt, Text.splitFirst?_of_notMem h]

theorem cutAt_append {c : CodePoint} {t : Text} (h : c ∉ t) (u : Text) :
    cutAt c (t ++ c :: u) = (t, u) := by
  rw [cutAt, Text.splitFirst?_append h]

/-! ### Reading parameters -/

/-- The byte that two hexadecimal digits at the start of a text spell. -/
def hexByte? : Text → Option UInt8
  | high :: low :: _ =>
    match high.hexValue?, low.hexValue? with
    | some x, some y => some (UInt8.ofNat (16 * x + y))
    | _, _ => none
  | _ => none

/-- The bytes that a form-encoded text spells, after `skip` code points that belong to an escape. A
percent sign that no two hexadecimal digits follow stands for itself. -/
def formBytes (skip : Nat) : Text → Bytes
  | [] => []
  | c :: rest =>
    match skip with
    | skip + 1 => formBytes skip rest
    | 0 =>
      if c = '+' then 0x20 :: formBytes 0 rest
      else if c = '%' then
        match hexByte? rest with
        | some b => b :: formBytes 2 rest
        | none => 0x25 :: formBytes 0 rest
      else Charset.utf8Bytes c.val ++ formBytes 0 rest

/-- The text that a form-encoded text spells. -/
def formDecode (t : Text) : Text := Text.ofUtf8Lossy (formBytes 0 t)

/-- The parameter that a piece of a query spells. -/
def formPiece (piece : Text) : Text × Text :=
  (formDecode (cutAt '=' piece).1, formDecode (cutAt '=' piece).2)

/-- The parameters of a query, in order. -/
def formPairs (query : Text) : List (Text × Text) :=
  ((Text.splitOn '&' query).filter (· ≠ [])).map formPiece

/-- What stands in front of the query of a URL. -/
def beforeQuery (url : Text) : Text := (cutAt '?' (cutAt '#' url).1).1

/-- The query of a URL. -/
def queryOf (url : Text) : Text := (cutAt '?' (cutAt '#' url).1).2

/-! ### Encoded texts -/

/-- What an encoded byte is made of: the byte itself, a plus sign, or an escape. -/
theorem formByte_cases (b : UInt8) :
    (formByte b = [CodePoint.ofNat b.toNat] ∧ b.toNat < 128 ∧ b ≠ 0x2B ∧ b ≠ 0x25) ∨
    (formByte b = [CodePoint.ofChar '+'] ∧ b = 0x20) ∨ formByte b = percentEscape b := by
  have plain : ∀ i : Fin 256, isUnreserved (UInt8.ofNat i) = true →
      (UInt8.ofNat i).toNat < 128 ∧ UInt8.ofNat i ≠ 0x2B ∧ UInt8.ofNat i ≠ 0x25 := by
    decide +kernel
  unfold formByte
  split
  · next unreserved =>
    have here := plain ⟨b.toNat, b.toNat_lt⟩
    rw [UInt8.ofNat_toNat] at here
    exact .inl ⟨rfl, here unreserved⟩
  · split
    · next space => exact .inr (.inl ⟨rfl, UInt8.toNat_inj.1 space⟩)
    · exact .inr (.inr rfl)

theorem hexValue?_upperHexDigit {n : Nat} (h : n < 16) : (upperHexDigit n).hexValue? = some n := by
  have digits : ∀ i : Fin 16, (upperHexDigit i).hexValue? = some i.val := by decide
  exact digits ⟨n, h⟩

theorem hexByte?_digits (b : UInt8) (rest : Text) :
    hexByte? (upperHexDigit (b.toNat / 16) :: upperHexDigit (b.toNat % 16) :: rest) = some b := by
  have small := b.toNat_lt
  unfold hexByte?
  dsimp only
  rw [hexValue?_upperHexDigit (by omega), hexValue?_upperHexDigit (by omega)]
  dsimp only
  rw [Nat.div_add_mod, UInt8.ofNat_toNat]

/-- **An encoded byte** is read as that byte. -/
theorem formBytes_formByte (b : UInt8) (rest : Text) :
    formBytes 0 (formByte b ++ rest) = b :: formBytes 0 rest := by
  rcases formByte_cases b with ⟨encoded, ascii, plus, percent⟩ | ⟨encoded, rfl⟩ | encoded
  · have val_eq : (CodePoint.ofNat b.toNat).val = b.toNat := by
      rw [CodePoint.ofNat, dif_pos (by omega)]
    have ne {x : Char} {y : UInt8} (code : x.toNat = y.toNat) (other : b ≠ y) :
        CodePoint.ofNat b.toNat ≠ CodePoint.ofChar x := fun h =>
      other (UInt8.toNat_inj.1 (val_eq.symm.trans ((congrArg CodePoint.val h).trans code)))
    rw [encoded, List.singleton_append, formBytes, if_neg (ne rfl plus), if_neg (ne rfl percent),
      val_eq, Charset.utf8Bytes_of_lt ascii, UInt8.ofNat_toNat, List.singleton_append]
  · rw [encoded]
    rfl
  · rw [encoded]
    show (match hexByte? (_ :: _ :: rest) with
      | some b => b :: formBytes 2 (_ :: _ :: rest)
      | none => _) = _
    rw [hexByte?_digits]
    rfl

/-- **An encoded text** is read as that text. -/
theorem formDecode_formEncode {t encoded : Text} (h : formEncode t = .ok encoded) :
    formDecode encoded = t := by
  obtain ⟨bytes, hb, rfl⟩ := ok_of_map h
  obtain ⟨held, rfl⟩ := Text.encode_ok_iff.1 hb
  have bytes_eq (bytes : Bytes) : formBytes 0 (bytes.flatMap formByte) = bytes := by
    induction bytes with
    | nil => rfl
    | cons b bytes ih => rw [List.flatMap_cons, formBytes_formByte, ih]
  rw [formDecode, bytes_eq, Text.ofUtf8Lossy_bytesIn (Text.scalar_iff_holds.2 held)]

/-- Nothing that separates parameters comes up in an encoded text. -/
theorem notMem_formEncode {t encoded : Text} (h : formEncode t = .ok encoded) {c : CodePoint}
    (hc : c ∈ Text.ofString "&=?#") : c ∉ encoded := by
  have all : ∀ c ∈ Text.ofString "&=?#", ∀ i : Fin 256, c ∉ formByte (UInt8.ofNat i) := by
    decide +kernel
  obtain ⟨bytes, -, rfl⟩ := ok_of_map h
  intro found
  obtain ⟨b, -, hb⟩ := List.mem_flatMap.1 found
  have here := all c hc ⟨b.toNat, b.toNat_lt⟩
  rw [UInt8.ofNat_toNat] at here
  exact here hb

theorem formPair_spec {name value pair : Text} (h : formPair name value = .ok pair) :
    formPiece pair = (name, value) ∧ pair ≠ [] ∧
      ∀ c ∈ Text.ofString "&#", c ∉ pair := by
  obtain ⟨n, hn, h⟩ := ok_of_bind h
  obtain ⟨v, hv, h⟩ := ok_of_bind h
  cases h
  have cut : cutAt '=' (n ++ [CodePoint.ofChar '='] ++ v) = (n, v) := by
    rw [List.append_assoc]
    exact cutAt_append (notMem_formEncode hn (by decide)) v
  refine ⟨?_, by simp, fun c hc => ?_⟩
  · rw [formPiece, cut, formDecode_formEncode hn, formDecode_formEncode hv]
  · have other : c ≠ CodePoint.ofChar '=' := by
      rintro rfl
      exact absurd hc (by decide)
    have inside : c ∈ Text.ofString "&=?#" :=
      (by decide : Text.ofString "&#" ⊆ Text.ofString "&=?#") hc
    simp only [List.mem_append, List.mem_singleton, not_or]
    exact ⟨⟨notMem_formEncode hn inside, other⟩, notMem_formEncode hv inside⟩

/-! ### Queries -/

theorem formPairs_append (query further : Text) :
    formPairs (query ++ CodePoint.ofChar '&' :: further) =
      formPairs query ++ formPairs further := by
  unfold formPairs
  rw [Text.splitOn_append, List.filter_append, List.map_append]

/-- Each of the encoded parameters is read as the one that it was made from. -/
theorem formPieces_of_mapM {entries : List (Text × Text)} {pairs : List Text}
    (h : entries.mapM (fun (n, v) => formPair n v) = .ok pairs) :
    pairs.map formPiece = entries ∧
      ∀ pair ∈ pairs, pair ≠ [] ∧ ∀ c ∈ Text.ofString "&#", c ∉ pair := by
  induction entries generalizing pairs with
  | nil =>
    cases h
    exact ⟨rfl, fun _ hp => absurd hp List.not_mem_nil⟩
  | cons entry entries ih =>
    rw [List.mapM_cons] at h
    obtain ⟨pair, hp, h⟩ := ok_of_bind h
    obtain ⟨further, hf, h⟩ := ok_of_bind h
    cases h
    obtain ⟨read, plain⟩ := formPair_spec hp
    obtain ⟨reads, plains⟩ := ih hf
    refine ⟨?_, List.forall_mem_cons.2 ⟨plain, plains⟩⟩
    rw [List.map_cons, read, reads]

/-- **Encoded parameters** are read back, in order. -/
theorem formPairs_join {entries : List (Text × Text)} {pairs : List Text} (nonempty : entries ≠ [])
    (h : entries.mapM (fun (n, v) => formPair n v) = .ok pairs) :
    formPairs (Text.join [CodePoint.ofChar '&'] pairs) = entries ∧
      CodePoint.ofChar '#' ∉ Text.join [CodePoint.ofChar '&'] pairs := by
  obtain ⟨reads, plain⟩ := formPieces_of_mapM h
  have pairs_ne : pairs ≠ [] := by
    rintro rfl
    exact nonempty reads.symm
  constructor
  · have kept : pairs.filter (· ≠ []) = pairs :=
      List.filter_eq_self.2 fun pair hp => decide_eq_true (plain pair hp).1
    unfold formPairs
    rw [Text.splitOn_join pairs_ne fun pair hp => (plain pair hp).2 _ (by decide), kept, reads]
  · exact Text.notMem_join (by decide) fun pair hp => (plain pair hp).2 _ (by decide)

/-! ### URLs with further parameters -/

/-- The first URL is the second one with further parameters behind those that it has. -/
structure Extends (url' url : Text) (further : List (Text × Text)) : Prop where
  noFragment : CodePoint.ofChar '#' ∉ url'
  front : beforeQuery url' = beforeQuery url
  pairs : formPairs (queryOf url') = formPairs (queryOf url) ++ further

variable {url url' url'' : Text} {further further' : List (Text × Text)}

theorem Extends.refl (h : CodePoint.ofChar '#' ∉ url) : Extends url url [] :=
  ⟨h, rfl, (List.append_nil _).symm⟩

theorem Extends.trans (h' : Extends url'' url' further') (h : Extends url' url further) :
    Extends url'' url (further ++ further') := by
  refine ⟨h'.noFragment, h'.front.trans h.front, ?_⟩
  rw [h'.pairs, h.pairs, List.append_assoc]

/-- What is written behind the separator stands at the end of the query. -/
theorem cut_separator (h : CodePoint.ofChar '#' ∉ url) {written : Text}
    (hw : CodePoint.ofChar '#' ∉ written) :
    CodePoint.ofChar '#' ∉ url ++ [separator url] ++ written ∧
    beforeQuery (url ++ [separator url] ++ written) = beforeQuery url ∧
    queryOf (url ++ [separator url] ++ written) =
      (if CodePoint.ofChar '?' ∈ url then queryOf url ++ [CodePoint.ofChar '&'] else []) ++
        written := by
  have sign : separator url ≠ CodePoint.ofChar '#' := by
    unfold separator
    split <;> decide
  have whole : CodePoint.ofChar '#' ∉ url ++ [separator url] ++ written := by
    simp only [List.mem_append, List.mem_singleton, not_or]
    exact ⟨⟨h, sign.symm⟩, hw⟩
  refine ⟨whole, ?_⟩
  rw [beforeQuery, beforeQuery, queryOf, queryOf, cutAt_of_notMem whole, cutAt_of_notMem h]
  by_cases mark : CodePoint.ofChar '?' ∈ url
  · rw [if_pos mark]
    obtain ⟨front, query, rfl, first⟩ := List.eq_append_cons_of_mem mark
    have joined : front ++ CodePoint.ofChar '?' :: query ++
        [separator (front ++ CodePoint.ofChar '?' :: query)] ++ written =
        front ++ CodePoint.ofChar '?' :: (query ++ [CodePoint.ofChar '&'] ++ written) := by
      rw [separator, if_pos (List.contains_iff_mem.2 mark)]
      simp
    rw [joined, cutAt_append first, cutAt_append first]
    exact ⟨rfl, rfl⟩
  · rw [if_neg mark]
    have joined : url ++ [separator url] ++ written = url ++ CodePoint.ofChar '?' :: written := by
      rw [separator, if_neg fun hc => mark (List.contains_iff_mem.1 hc), List.append_assoc]
      rfl
    rw [joined, cutAt_append mark, cutAt_of_notMem mark]
    exact ⟨rfl, rfl⟩

/-- What is written behind the separator is read behind the parameters that are there already. -/
theorem extends_separator (h : CodePoint.ofChar '#' ∉ url) {written : Text}
    (hw : CodePoint.ofChar '#' ∉ written) :
    Extends (url ++ [separator url] ++ written) url (formPairs written) := by
  obtain ⟨whole, front, query⟩ := cut_separator h hw
  refine ⟨whole, front, ?_⟩
  rw [query]
  by_cases mark : CodePoint.ofChar '?' ∈ url
  · rw [if_pos mark, List.append_assoc, List.singleton_append, formPairs_append]
  · rw [if_neg mark, queryOf, cutAt_of_notMem h, cutAt_of_notMem mark]
    rfl

/-- What is written for parameters: it stands behind a separator and is read as the parameters. -/
theorem exists_written_of_appendParameters {parameters : TextMap}
    (nonempty : parameters.entries ≠ [])
    (appended : appendParameters url parameters = .ok url') :
    ∃ written, url' = url ++ [separator url] ++ written ∧ CodePoint.ofChar '#' ∉ written ∧
      formPairs written = parameters.entries := by
  unfold appendParameters at appended
  rw [if_neg fun none => nonempty (List.isEmpty_iff.1 none)] at appended
  obtain ⟨pairs, hp, appended⟩ := ok_of_bind appended
  cases appended
  obtain ⟨reads, noFragment⟩ := formPairs_join nonempty hp
  exact ⟨_, rfl, noFragment, reads⟩

theorem exists_written_of_appendParameter {name value : Text}
    (appended : appendParameter url name value = .ok url') :
    ∃ written, formPair name value = .ok written ∧ url' = url ++ [separator url] ++ written ∧
      CodePoint.ofChar '#' ∉ written ∧ formPairs written = [(name, value)] := by
  obtain ⟨pair, hp, rfl⟩ := ok_of_map appended
  have encoded : [(name, value)].mapM (fun (n, v) => formPair n v) = .ok [pair] := by
    show (formPair name value >>= fun pair => pure [pair]) = _
    rw [hp]
    rfl
  obtain ⟨reads, noFragment⟩ := formPairs_join (List.cons_ne_nil _ _) encoded
  exact ⟨pair, hp, rfl, noFragment, reads⟩

theorem extends_appendParameters {parameters : TextMap} (h : CodePoint.ofChar '#' ∉ url)
    (appended : appendParameters url parameters = .ok url') :
    Extends url' url parameters.entries := by
  by_cases none : parameters.entries = []
  · unfold appendParameters at appended
    rw [none] at appended ⊢
    cases appended
    exact .refl h
  · obtain ⟨written, rfl, noFragment, reads⟩ := exists_written_of_appendParameters none appended
    exact reads ▸ extends_separator h noFragment

theorem extends_appendParameter {name value : Text} (h : CodePoint.ofChar '#' ∉ url)
    (appended : appendParameter url name value = .ok url') :
    Extends url' url [(name, value)] := by
  obtain ⟨written, -, rfl, noFragment, reads⟩ := exists_written_of_appendParameter appended
  exact reads ▸ extends_separator h noFragment

end Url

end HttpCourier
