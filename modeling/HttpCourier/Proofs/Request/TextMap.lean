import HttpCourier.Request.TextMap
import Mathlib.Data.List.Nodup

/-!
# HttpCourier.Proofs.Request.TextMap

**Mappings with distinct names, put together.** An entry whose name is not in a mapping goes to its
end, so that entries with names of their own are appended as they stand: those of a mapping to the
empty one (`TextMap.ofPairs_entries`), or to another mapping (`TextMap.entries_merge`).
-/

namespace HttpCourier.TextMap

/-- By what is in the mapping already: the entries to come have names of their own. -/
theorem entries_foldl_insert {pairs : List (Text × Text)} {m : TextMap}
    (distinct : ((m.entries ++ pairs).map Prod.fst).Nodup) :
    (pairs.foldl (fun m e => m.insert e.1 e.2) m).entries = m.entries ++ pairs := by
  induction pairs generalizing m with
  | nil => exact (List.append_nil _).symm
  | cons e pairs ih =>
    have fresh : e.1 ∉ m.entries.map Prod.fst := by
      rw [List.map_append] at distinct
      exact fun there => (List.nodup_append.1 distinct).2.2 _ there _ List.mem_cons_self rfl
    have inserted : (m.insert e.1 e.2).entries = m.entries ++ [e] :=
      Entries.insert_of_notMem fresh e.2
    rw [List.append_cons] at distinct ⊢
    rw [List.foldl_cons, ih (inserted ▸ distinct), inserted]

/-- The entries of a mapping, put in one after the other, make up the mapping. -/
theorem ofPairs_entries (m : TextMap) : ofPairs m.entries = m := by
  have entries : (ofPairs m.entries).entries = m.entries := entries_foldl_insert m.distinct
  cases m
  cases h : ofPairs _
  rw [h] at entries
  subst entries
  rfl

/-- A mapping with all the entries of another one. -/
def merge (m further : TextMap) : TextMap :=
  further.entries.foldl (fun m (n, v) => m.insert n v) m

/-- Where no name is in both of them, a mapping goes behind the other one. -/
theorem entries_merge {m further : TextMap}
    (disjoint : (m.entries.map Prod.fst).Disjoint (further.entries.map Prod.fst)) :
    (m.merge further).entries = m.entries ++ further.entries := by
  refine entries_foldl_insert ?_
  rw [List.map_append]
  exact List.Nodup.append m.distinct further.distinct disjoint

end HttpCourier.TextMap
