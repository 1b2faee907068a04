import HttpCourier.Text.CodePoint

/-!
# HttpCourier.Text.Entries

**Named entries** that keep the order in which their names first came up, as the members of a JSON
object and the entries of a text mapping do. Setting a name again changes its value and leaves it
in place, so that distinct names stay distinct.
-/

namespace HttpCourier

/-- Values with names, in order. -/
abbrev Entries (α : Type) := List (Text × α)

namespace Entries

variable {α : Type} {name key x : Text} {value : α} {entries : Entries α}

/-- The entries with one more: a new name goes to the end, a known one keeps its place. -/
def insert (name : Text) (value : α) : Entries α → Entries α
  | [] => [(name, value)]
  | (n, v) :: rest =>
    if n = name then (name, value) :: rest else (n, v) :: insert name value rest

/-- The value of a name. -/
def get? (name : Text) : Entries α → Option α
  | [] => none
  | (n, v) :: rest => if n = name then some v else get? name rest

/-- The entries without a name. -/
def erase (name : Text) (entries : Entries α) : Entries α := entries.filter fun e => e.1 ≠ name

/-- Whether a name occurs. -/
def has (name : Text) (entries : Entries α) : Bool := (entries.get? name).isSome

theorem mem_insert : x ∈ (entries.insert name value).map Prod.fst ↔
    x = name ∨ x ∈ entries.map Prod.fst := by
  induction entries with
  | nil => simp [insert]
  | cons e rest ih =>
    obtain ⟨n, v⟩ := e
    unfold insert
    by_cases h : n = name
    · subst h
      simp only [↓reduceIte, List.map_cons, List.mem_cons, or_self_left]
    · simp only [h, ↓reduceIte, List.map_cons, List.mem_cons, ih, or_left_comm]

theorem nodup_insert (h : (entries.map Prod.fst).Nodup) :
    ((entries.insert name value).map Prod.fst).Nodup := by
  induction entries with
  | nil => simp [insert]
  | cons e rest ih =>
    obtain ⟨n, v⟩ := e
    rw [List.map_cons, List.nodup_cons] at h
    unfold insert
    by_cases hn : n = name
    · simp only [hn, ↓reduceIte, List.map_cons, List.nodup_cons]
      exact ⟨hn ▸ h.1, h.2⟩
    · simp only [hn, ↓reduceIte, List.map_cons, List.nodup_cons]
      refine ⟨fun hm => ?_, ih h.2⟩
      exact (mem_insert.1 hm).elim hn h.1

theorem insert_of_notMem (fresh : name ∉ entries.map Prod.fst) (value : α) :
    entries.insert name value = entries ++ [(name, value)] := by
  induction entries with
  | nil => rfl
  | cons e rest ih =>
    rw [List.map_cons, List.mem_cons, not_or] at fresh
    rw [insert, if_neg (Ne.symm fresh.1), ih fresh.2]
    rfl

theorem get?_insert_self (entries : Entries α) (name : Text) (value : α) :
    (entries.insert name value).get? name = some value := by
  induction entries with
  | nil => exact if_pos rfl
  | cons e rest ih =>
    obtain ⟨n, v⟩ := e
    unfold insert
    by_cases h : n = name
    · rw [if_pos h]
      exact if_pos rfl
    · rw [if_neg h, get?, if_neg h, ih]

theorem get?_insert_of_ne (h : key ≠ name) (entries : Entries α) (value : α) :
    (entries.insert name value).get? key = entries.get? key := by
  induction entries with
  | nil => exact if_neg (Ne.symm h)
  | cons e rest ih =>
    obtain ⟨n, v⟩ := e
    unfold insert
    by_cases hn : n = name
    · rw [if_pos hn, get?, get?, if_neg (Ne.symm h), if_neg (hn ▸ Ne.symm h)]
    · rw [if_neg hn, get?, get?, ih]

theorem get?_erase_self (entries : Entries α) (name : Text) :
    (entries.erase name).get? name = none := by
  induction entries with
  | nil => rfl
  | cons e rest ih =>
    obtain ⟨n, v⟩ := e
    by_cases h : n = name
    · rw [erase, List.filter_cons_of_neg (by simpa using h)]
      exact ih
    · rw [erase, List.filter_cons_of_pos (by simpa using h), get?, if_neg h]
      exact ih

theorem get?_erase_of_ne (h : key ≠ name) (entries : Entries α) :
    (entries.erase name).get? key = entries.get? key := by
  induction entries with
  | nil => rfl
  | cons e rest ih =>
    obtain ⟨n, v⟩ := e
    by_cases hn : n = name
    · rw [erase, List.filter_cons_of_neg (by simpa using hn), get?, if_neg (hn ▸ Ne.symm h)]
      exact ih
    · rw [erase, List.filter_cons_of_pos (by simpa using hn), get?, get?]
      exact congrArg _ ih

end Entries

end HttpCourier
