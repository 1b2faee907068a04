import Mathlib.Data.List.Forall2

/-!
# HttpCourier.Proofs.Computation

**Computations that come to a value.** A computation that can fail comes to a value only if each of
its parts does. These lemmas take a computation apart without a look at the parts that fail.

Two computations are in step if they come to values that are related, or to the same error.
-/

namespace HttpCourier

variable {α β ε ε' : Type}

theorem ok_of_bind {x : Except ε α} {f : α → Except ε β} {b : β} (h : x >>= f = .ok b) :
    ∃ a, x = .ok a ∧ f a = .ok b := by
  cases x with
  | error e => cases h
  | ok a => exact ⟨a, rfl, h⟩

theorem bind_of_ok {x : Except ε α} {a : α} (h : x = .ok a) (f : α → Except ε β) :
    x >>= f = f a := by
  rw [h]
  rfl

theorem error_of_bind {x : Except ε α} {f : α → Except ε β} {e : ε} (h : x >>= f = .error e) :
    x = .error e ∨ ∃ a, x = .ok a ∧ f a = .error e := by
  cases x with
  | error d =>
    cases h
    exact .inl rfl
  | ok a => exact .inr ⟨a, rfl, h⟩

theorem ok_bind_iff {x : Except ε α} {f : α → Except ε β} :
    (∃ b, x >>= f = .ok b) ↔ ∃ a, x = .ok a ∧ ∃ b, f a = .ok b := by
  constructor
  · rintro ⟨b, h⟩
    obtain ⟨a, ha, h⟩ := ok_of_bind h
    exact ⟨a, ha, b, h⟩
  · rintro ⟨a, rfl, b, h⟩
    exact ⟨b, h⟩

theorem ok_of_map {x : Except ε α} {f : α → β} {b : β} (h : x.map f = .ok b) :
    ∃ a, x = .ok a ∧ f a = b := by
  cases x with
  | error e => cases h
  | ok a => exact ⟨a, rfl, Except.ok.inj h⟩

theorem ok_map_iff {x : Except ε α} {f : α → β} : (∃ b, x.map f = .ok b) ↔ ∃ a, x = .ok a := by
  constructor
  · rintro ⟨b, h⟩
    obtain ⟨a, ha, -⟩ := ok_of_map h
    exact ⟨a, ha⟩
  · rintro ⟨a, rfl⟩
    exact ⟨f a, rfl⟩

theorem map_map {γ : Type} (x : Except ε α) (f : α → β) (g : β → γ) :
    (x.map f).map g = x.map (g ∘ f) := by
  cases x <;> rfl

theorem ok_of_mapError {x : Except ε α} {f : ε → ε'} {a : α} (h : x.mapError f = .ok a) :
    x = .ok a := by
  cases x with
  | error e => cases h
  | ok b =>
    cases h
    rfl

theorem error_of_mapError {x : Except ε α} {f : ε → ε'} {e : ε'} (h : x.mapError f = .error e) :
    ∃ d, x = .error d ∧ f d = e := by
  cases x with
  | error d => exact ⟨d, rfl, Except.error.inj h⟩
  | ok a => cases h

theorem exists_mapM {f : α → Except ε β} {l : List α} (h : ∀ a ∈ l, ∃ b, f a = .ok b) :
    ∃ bs, l.mapM f = .ok bs := by
  induction l with
  | nil => exact ⟨[], rfl⟩
  | cons a l ih =>
    obtain ⟨here, there⟩ := List.forall_mem_cons.1 h
    obtain ⟨b, hb⟩ := here
    obtain ⟨bs, hbs⟩ := ih there
    rw [List.mapM_cons, hb, hbs]
    exact ⟨b :: bs, rfl⟩

theorem mapM_ok_iff {f : α → Except ε β} {l : List α} :
    (∃ bs, l.mapM f = .ok bs) ↔ ∀ a ∈ l, ∃ b, f a = .ok b := by
  refine ⟨?_, exists_mapM⟩
  induction l with
  | nil => exact fun _ _ h => absurd h List.not_mem_nil
  | cons a l ih =>
    rintro ⟨bs, h⟩
    rw [List.mapM_cons] at h
    obtain ⟨b, here, h⟩ := ok_of_bind h
    obtain ⟨bs, there, -⟩ := ok_of_bind h
    exact List.forall_mem_cons.2 ⟨⟨b, here⟩, ih ⟨bs, there⟩⟩

/-! ### Two computations in step -/

/-- Both computations come to values that are related, or to the same error. -/
inductive InStep (R : α → β → Prop) : Except ε α → Except ε β → Prop
  | ok {a : α} {b : β} (related : R a b) : InStep R (.ok a) (.ok b)
  | error (e : ε) : InStep R (.error e) (.error e)

theorem InStep.refl {R : α → α → Prop} (h : ∀ a, R a a) (x : Except ε α) : InStep R x x := by
  cases x with
  | error e => exact .error e
  | ok a => exact .ok (h a)

theorem InStep.map {α' β' : Type} {R : α → β → Prop} {S : α' → β' → Prop} {f : α → α'} {g : β → β'}
    {x : Except ε α} {y : Except ε β} (h : InStep R x y) (hfg : ∀ a b, R a b → S (f a) (g b)) :
    InStep S (x.map f) (y.map g) := by
  cases h with
  | error e => exact .error e
  | ok related => exact .ok (hfg _ _ related)

theorem inStep_mapM {γ : Type} {R : α → β → Prop} {f : γ → Except ε α} {g : γ → Except ε β}
    {l : List γ} (h : ∀ x ∈ l, InStep R (f x) (g x)) :
    InStep (List.Forall₂ R) (l.mapM f) (l.mapM g) := by
  induction l with
  | nil => exact .ok .nil
  | cons x l ih =>
    obtain ⟨here, there⟩ := List.forall_mem_cons.1 h
    have rest := ih there
    rw [List.mapM_cons, List.mapM_cons]
    -- Whatever fails first does so on both sides.
    generalize f x = y, g x = z at *
    cases here with
    | error e => exact .error e
    | ok related =>
      generalize l.mapM f = ys, l.mapM g = zs at *
      cases rest with
      | error e => exact .error e
      | ok rest => exact .ok (.cons related rest)

end HttpCourier
