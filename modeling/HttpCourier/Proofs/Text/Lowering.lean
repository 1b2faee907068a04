import HttpCourier.Proofs.Text.Case

/-!
# HttpCourier.Proofs.Text.Lowering

**Lower case, read off the table.** The rows of the table map code points beyond ASCII to code
points that no row maps any further (`CaseTable.lowerRows_pass`), so that a text in lower case stays
as it is (`Text.lower_lower`).

Next to nothing beyond ASCII comes into ASCII by this: the Kelvin sign becomes a `k`, and a dotted
capital `I` an `i` with a dot that is still beyond ASCII (`CodePoint.LowersBeyond`). So a name or a
block of other ASCII letters is found in the lower case of a text only where it stands in the text
itself, in some letter case.
-/

namespace HttpCourier

/-! ### The rows of the table -/

namespace Text.CaseTable

/-- Whether all images under the first row lie outside of the second one: to either side of it, or
between the code points that it covers. -/
def Row.passes (r s : Row) : Bool :=
  Nat.blt (r.image + (r.last - r.first)) s.first || Nat.blt s.last r.image ||
    (Nat.beq s.stride 2 && (Nat.beq r.stride 2 || Nat.beq r.first r.last) &&
      Nat.beq ((r.image + s.first) % 2) 1)

variable {r s : Row} {n m : Nat}

theorem image?_eq_some (h : r.image? n = some m) :
    r.first ≤ n ∧ n ≤ r.last ∧ (n - r.first) % r.stride = 0 ∧ m = r.image + (n - r.first) := by
  unfold Row.image? at h
  split at h
  · next covered => exact ⟨covered.1, covered.2.1, covered.2.2, (Option.some.inj h).symm⟩
  · cases h

theorem image?_of_passes (passes : r.passes s = true) (h : r.image? n = some m) :
    s.image? m = none := by
  obtain ⟨low, high, step, rfl⟩ := image?_eq_some h
  simp only [Row.passes, Bool.or_eq_true, Bool.and_eq_true, Nat.blt_eq, Nat.beq_eq] at passes
  refine if_neg fun covered => ?_
  obtain ⟨above, below, even⟩ := covered
  rcases passes with (before | behind) | ⟨⟨stride, alike⟩, odd⟩
  · omega
  · omega
  · rw [stride] at even
    rcases alike with two | single
    · rw [two] at step
      omega
    · omega

theorem lowerRows_pass : ∀ r ∈ lowerRows, ∀ s ∈ lowerRows, r.passes s = true := by
  have all : (lowerRows.all fun r => lowerRows.all r.passes) = true := by decide +kernel
  intro r hr s hs
  exact List.all_eq_true.1 (List.all_eq_true.1 all r hr) s hs

/-- The images are code points, and none has a lower case of several letters. Only one of them is in
ASCII. -/
theorem lowerRows_images : ∀ r ∈ lowerRows,
    r.image + (r.last - r.first) < 0x110000 ∧
      (r.image + (r.last - r.first) < 0x130 ∨ 0x130 < r.image) ∧
      (128 ≤ r.image ∨ r.first = r.last ∧ r.image = 0x6B) := by
  decide +kernel

/-- What a row maps to has no other lower case, and only the Kelvin sign is mapped into ASCII. -/
theorem lower_of_image? (hr : r ∈ lowerRows) (image : r.image? m = some n) :
    (CodePoint.ofNat n).lower = [CodePoint.ofNat n] ∧
      (128 ≤ (CodePoint.ofNat n).val ∨ CodePoint.ofNat n = CodePoint.ofChar 'k') := by
  obtain ⟨low, high, -, n_eq⟩ := image?_eq_some image
  obtain ⟨small, single, ascii⟩ := lowerRows_images r hr
  have val : (CodePoint.ofNat n).val = n := by
    unfold CodePoint.ofNat
    rw [dif_pos (by omega)]
  rcases ascii with large | ⟨alone, kelvin⟩
  · refine ⟨?_, .inl (by omega)⟩
    have notAscii : (CodePoint.ofNat n).isAscii = false := by
      unfold CodePoint.isAscii
      rw [val, decide_eq_false_iff_not]
      omega
    -- No row has the image, whichever row it is compared with.
    have noRow : lowerRows.findSome? (·.image? n) = none := by
      rw [List.findSome?_eq_none_iff]
      exact fun s hs => image?_of_passes (lowerRows_pass r hr s hs) image
    have noBlock : lowerBlocks.lookup n = none := by
      unfold lowerBlocks
      rw [List.lookup_cons, beq_false_of_ne (by omega)]
      rfl
    unfold CodePoint.lower CodePoint.caseImage
    rw [if_neg (by simp [notAscii]), val, noBlock, noRow]
  · have n_eq : n = 0x6B := by omega
    rw [n_eq]
    decide +kernel

end Text.CaseTable

/-! ### Code points -/

namespace CodePoint

variable {c d : CodePoint}

/-- What the lower case of a code point beyond ASCII is: a code point beyond ASCII or a `k`, or an
`i` with a dot beyond ASCII. -/
inductive LowersBeyond : Text → Prop
  | one {d : CodePoint} (beyond : 128 ≤ d.val ∨ d = ofChar 'k') : LowersBeyond [d]
  | dotted : LowersBeyond [ofChar 'i', ofNat 0x307]

/-- The lower case of a code point beyond ASCII, and that it has no other lower case. -/
theorem lower_of_not_isAscii (h : c.isAscii = false) :
    LowersBeyond c.lower ∧ ∀ d ∈ c.lower, d.lower = [d] := by
  have beyond : 128 ≤ c.val := Nat.not_lt.1 (of_decide_eq_false h)
  have self : c.lower = caseImage Text.CaseTable.lowerBlocks Text.CaseTable.lowerRows c :=
    if_neg (by simp [h])
  have image := self
  unfold caseImage at image
  split at image
  · next block found =>
    have block_eq : block = [0x69, 0x307] := by
      unfold Text.CaseTable.lowerBlocks at found
      rw [List.lookup_cons] at found
      split at found
      · exact (Option.some.inj found).symm
      · cases found
    rw [image, block_eq]
    exact ⟨.dotted, by decide +kernel⟩
  · next noBlock =>
    split at image
    · next n found =>
      obtain ⟨r, hr, covers⟩ := List.exists_of_findSome?_eq_some found
      obtain ⟨fixed, left⟩ := Text.CaseTable.lower_of_image? hr covers
      rw [image]
      exact ⟨.one left, List.forall_mem_singleton.2 fixed⟩
    · rw [image]
      exact ⟨.one (.inl beyond), List.forall_mem_singleton.2 image⟩

theorem lower_of_isAscii (h : c.isAscii = true) : c.lower = [c.asciiLower] := if_pos h

/-- **A code point in lower case** has no other lower case. -/
theorem lower_of_mem_lower (h : d ∈ c.lower) : d.lower = [d] := by
  cases ascii : c.isAscii with
  | false => exact (lower_of_not_isAscii ascii).2 d h
  | true =>
    have small : c.val < 128 := of_decide_eq_true ascii
    have all : ∀ i : Fin 128, (ofNat i).asciiLower.lower = [(ofNat i).asciiLower] := by
      decide +kernel
    have here := all ⟨c.val, small⟩
    rw [lower_of_isAscii ascii, List.mem_singleton] at h
    rw [h]
    rwa [c.ofNat_val] at here

end CodePoint

/-! ### Texts -/

namespace Text

variable {t before : Text} {c d : CodePoint}

theorem lowerAfter_cons (before : Text) (c : CodePoint) (t : Text) :
    ∃ image, lowerAfter before (c :: t) = image ++ lowerAfter (c :: before) t ∧
      (∀ d ∈ image, d.lower = [d]) ∧ (c.isAscii = true → image = [c.asciiLower]) ∧
      (c.isAscii = false → CodePoint.LowersBeyond image) := by
  rw [lowerAfter]
  split
  · next sigma =>
    -- Either form of a small sigma is beyond ASCII, and is in lower case.
    have notAscii : c.isAscii = false := by
      unfold CodePoint.isAscii
      rw [sigma]
      rfl
    split
    · exact ⟨_, rfl, by decide +kernel, by simp [notAscii], fun _ => .one (.inl (by decide))⟩
    · exact ⟨_, rfl, by decide +kernel, by simp [notAscii], fun _ => .one (.inl (by decide))⟩
  · exact ⟨_, rfl, fun d => CodePoint.lower_of_mem_lower, CodePoint.lower_of_isAscii,
      fun h => (CodePoint.lower_of_not_isAscii h).1⟩

theorem lower_of_mem_lowerAfter (h : d ∈ lowerAfter before t) : d.lower = [d] := by
  induction t generalizing before with
  | nil => cases h
  | cons c t ih =>
    obtain ⟨image, eq, fixed, -⟩ := lowerAfter_cons before c t
    rw [eq] at h
    rcases List.mem_append.1 h with here | there
    · exact fixed d here
    · exact ih there

/-- A text without upper case stays as it is. -/
theorem lower_eq_self (h : ∀ d ∈ t, d.lower = [d]) : lower t = t := by
  have rest : ∀ before, lowerAfter before t = t := by
    induction t with
    | nil => exact fun _ => rfl
    | cons c t ih =>
      intro before
      obtain ⟨here, there⟩ := List.forall_mem_cons.1 h
      have notSigma : c.val ≠ 0x3A3 := by
        intro sigma
        have other : (CodePoint.ofNat 0x3A3).lower ≠ [CodePoint.ofNat 0x3A3] := by decide +kernel
        rw [← sigma, c.ofNat_val] at other
        exact other here
      rw [lowerAfter, if_neg notSigma, here, ih there]
      rfl
  exact rest []

/-- **A text in lower case stays as it is.** -/
theorem lower_lower (t : Text) : lower (lower t) = lower t :=
  lower_eq_self fun _ hd => lower_of_mem_lowerAfter hd

/-- A code point beyond ASCII leaves a trace in the lower case of a text. -/
theorem exists_mem_lower (hc : c ∈ t) (h : c.isAscii = false) :
    ∃ d ∈ lower t, 128 ≤ d.val ∨ d = CodePoint.ofChar 'k' := by
  have rest : ∀ before, ∃ d ∈ lowerAfter before t, 128 ≤ d.val ∨ d = CodePoint.ofChar 'k' := by
    induction t with
    | nil => cases hc
    | cons b t ih =>
      intro before
      obtain ⟨image, eq, -, -, beyond⟩ := lowerAfter_cons before b t
      rw [eq]
      rcases List.mem_cons.1 hc with rfl | there
      · cases beyond h with
        | one left => exact ⟨_, List.mem_append_left _ List.mem_cons_self, left⟩
        | dotted =>
          exact ⟨CodePoint.ofNat 0x307, List.mem_append_left _ (by simp), .inl (by decide)⟩
      · obtain ⟨d, hd, left⟩ := ih there (b :: before)
        exact ⟨d, List.mem_append_right _ hd, left⟩
  exact rest []

/-! ### Blocks in lower case -/

theorem hasBlock_iff {block : Text} : hasBlock t block = true ↔ block <:+: t := by
  induction t with
  | nil => rw [hasBlock, List.isEmpty_iff, List.infix_nil]
  | cons c t ih =>
    rw [hasBlock, Bool.or_eq_true, startsWith, List.isPrefixOf_iff_prefix, ih, List.infix_cons_iff]

/-- The code point is in ASCII, and nothing beyond ASCII becomes it in lower case. -/
def Homegrown (c : CodePoint) : Prop :=
  c.isAscii = true ∧ c ≠ CodePoint.ofChar 'k' ∧ c ≠ CodePoint.ofChar 'i'

instance (c : CodePoint) : Decidable (Homegrown c) :=
  inferInstanceAs (Decidable (_ ∧ _ ∧ _))

theorem not_homegrown {image : Text} (beyond : CodePoint.LowersBeyond image) (hd : d ∈ image) :
    ¬ Homegrown d := by
  rintro ⟨ascii, notK, notI⟩
  have small : d.val < 128 := of_decide_eq_true ascii
  cases beyond with
  | one left =>
    cases List.mem_singleton.1 hd
    exact left.elim (fun large => absurd small (Nat.not_lt.2 large)) notK
  | dotted =>
    rcases List.mem_cons.1 hd with rfl | hd
    · exact notI rfl
    · cases List.mem_singleton.1 hd
      exact absurd small (by decide)

variable {block : Text}

/-- A code point beyond ASCII cannot be one of a block of ASCII letters, in any letter case. -/
theorem isAscii_of_asciiLower (h : (CodePoint.asciiLower c).isAscii = true) : c.isAscii = true := by
  have same : c.asciiLower.isAscii = c.isAscii :=
    CodePoint.apply_asciiLower (f := CodePoint.isAscii) (by decide) c
  rwa [← same]

/-- What is put in front and belongs to no block makes no difference to the blocks behind it. -/
theorem infix_append_iff {image rest : Text} (some : block ≠ []) (home : ∀ b ∈ block, Homegrown b)
    (foreign : ∀ d ∈ image, ¬ Homegrown d) : block <:+: image ++ rest ↔ block <:+: rest := by
  induction image with
  | nil => exact Iff.rfl
  | cons d image ih =>
    obtain ⟨here, there⟩ := List.forall_mem_cons.1 foreign
    rw [List.cons_append, List.infix_cons_iff, ih there]
    refine ⟨fun h => h.resolve_left fun front => ?_, .inr⟩
    obtain ⟨b, block, rfl⟩ := List.exists_cons_of_ne_nil some
    rw [List.cons_prefix_cons] at front
    exact here (front.1 ▸ home b List.mem_cons_self)

theorem prefix_lowerAfter_iff (home : ∀ b ∈ block, Homegrown b) :
    block <+: lowerAfter before t ↔ ∃ here, here <+: t ∧ asciiLower here = block := by
  induction t generalizing before block with
  | nil =>
    rw [lowerAfter, List.prefix_nil]
    constructor
    · rintro rfl
      exact ⟨[], List.nil_prefix, rfl⟩
    · rintro ⟨here, front, rfl⟩
      rw [List.prefix_nil.1 front]
      rfl
  | cons c t ih =>
    cases block with
    | nil => exact ⟨fun _ => ⟨[], List.nil_prefix, rfl⟩, fun _ => List.nil_prefix⟩
    | cons b block =>
      obtain ⟨homeHere, homeThere⟩ := List.forall_mem_cons.1 home
      obtain ⟨image, eq, -, ascii, beyond⟩ := lowerAfter_cons before c t
      rw [eq]
      cases hc : c.isAscii with
      | true =>
        rw [ascii hc, List.singleton_append, List.cons_prefix_cons, ih homeThere]
        constructor
        · rintro ⟨rfl, here, front, rfl⟩
          exact ⟨c :: here, List.cons_prefix_cons.2 ⟨rfl, front⟩, rfl⟩
        · rintro ⟨_ | ⟨d, here⟩, front, same⟩
          · cases same
          · obtain ⟨rfl, within⟩ := List.cons_prefix_cons.1 front
            obtain ⟨rfl, rfl⟩ := List.cons.inj same
            exact ⟨rfl, here, within, rfl⟩
      | false =>
        -- Neither the code point nor what it becomes is the first one of the block.
        constructor
        · intro front
          have foreign := beyond hc
          obtain ⟨d, image, rfl⟩ : ∃ d rest, image = d :: rest := by
            cases foreign <;> exact ⟨_, _, rfl⟩
          rw [List.cons_append, List.cons_prefix_cons] at front
          exact absurd (front.1 ▸ homeHere) (not_homegrown foreign List.mem_cons_self)
        · rintro ⟨_ | ⟨d, here⟩, front, same⟩
          · cases same
          · obtain ⟨rfl, -⟩ := List.cons_prefix_cons.1 front
            obtain ⟨rfl, -⟩ := List.cons.inj same
            rw [isAscii_of_asciiLower homeHere.1] at hc
            cases hc

theorem infix_lowerAfter_iff (some : block ≠ []) (home : ∀ b ∈ block, Homegrown b) :
    block <:+: lowerAfter before t ↔ ∃ here, here <:+: t ∧ asciiLower here = block := by
  induction t generalizing before with
  | nil =>
    rw [lowerAfter, List.infix_nil]
    constructor
    · exact fun none => absurd none some
    · rintro ⟨here, within, rfl⟩
      rw [List.infix_nil.1 within]
      rfl
  | cons c t ih =>
    have front : block <+: lowerAfter before (c :: t) ↔ _ := prefix_lowerAfter_iff home
    obtain ⟨image, eq, -, ascii, beyond⟩ := lowerAfter_cons before c t
    have split : block <:+: lowerAfter before (c :: t) ↔
        block <+: lowerAfter before (c :: t) ∨ block <:+: lowerAfter (c :: before) t := by
      refine ⟨fun h => ?_, fun h => h.elim List.IsPrefix.isInfix fun h => ?_⟩
      · cases hc : c.isAscii with
        | true =>
          rw [eq, ascii hc, List.singleton_append] at h ⊢
          exact List.infix_cons_iff.1 h
        | false =>
          rw [eq] at h
          exact .inr ((infix_append_iff some home fun d => not_homegrown (beyond hc)).1 h)
      · rw [eq]
        exact h.trans (List.suffix_append _ _).isInfix
    rw [split, front, ih, ← exists_or]
    refine exists_congr fun here => ?_
    rw [← or_and_right, List.infix_cons_iff]

/-- **A block of ASCII letters in the lower case of a text** stands in the text, in some letter
case. -/
theorem hasBlock_lower_iff (some : block ≠ []) (home : ∀ b ∈ block, Homegrown b) :
    hasBlock (lower t) block = true ↔ ∃ here, here <:+: t ∧ asciiLower here = block :=
  hasBlock_iff.trans (infix_lowerAfter_iff some home)

end Text

end HttpCourier
