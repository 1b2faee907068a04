import HttpCourier.Text.Entries

/-!
# HttpCourier.Request.TextMap

**Mappings from text to text** that keep the order in which their names first came up, as
configured headers and query parameters do. No name occurs twice: that is part of the type.
-/

namespace HttpCourier

/-- A mapping from text to text, in order. -/
structure TextMap where
  entries : Entries Text
  distinct : (entries.map Prod.fst).Nodup

namespace TextMap

/-- The mapping without entries. -/
def empty : TextMap := ⟨[], List.nodup_nil⟩

instance : Inhabited TextMap := ⟨empty⟩

/-- The mapping with a value for a name. -/
def insert (name value : Text) (m : TextMap) : TextMap :=
  ⟨m.entries.insert name value, Entries.nodup_insert m.distinct⟩

/-- The mapping of a list of pairs that may repeat a name: the last value counts. -/
def ofPairs (pairs : List (Text × Text)) : TextMap :=
  pairs.foldl (fun m (n, v) => m.insert n v) empty

/-- The value of a name. -/
def get? (m : TextMap) (name : Text) : Option Text := m.entries.get? name

end TextMap

end HttpCourier
