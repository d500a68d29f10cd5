/-!
# Tables from names to values

A table binds some names to values.  Only its entries matter, so two tables that
bind the same names to the same values are equal.
-/

namespace SlotLang

/-- A binding of names to values. -/
def Table (α : Type) :=
  String → Option α

namespace Table

variable {α : Type}

/-- The table that binds no name. -/
def empty : Table α :=
  fun _ => none

/-- The value bound to a name. -/
def get? (table : Table α) (name : String) : Option α :=
  table name

/-- Whether a name is bound. -/
def contains (table : Table α) (name : String) : Bool :=
  (table.get? name).isSome

/-- Bind a name, in place of any earlier binding of it. -/
def insert (table : Table α) (name : String) (value : α) : Table α :=
  fun other => if other = name then some value else table other

instance : EmptyCollection (Table α) :=
  ⟨empty⟩

@[ext]
theorem ext {first second : Table α}
    (agree : ∀ name, first.get? name = second.get? name) : first = second :=
  funext agree

@[simp]
theorem get?_empty (name : String) : (∅ : Table α).get? name = none :=
  rfl

@[simp]
theorem get?_insert_self (table : Table α) (name : String) (value : α) :
    (table.insert name value).get? name = some value := by
  simp [get?, insert]

theorem get?_insert_of_ne (table : Table α) {name other : String} (value : α)
    (different : other ≠ name) :
    (table.insert name value).get? other = table.get? other := by
  simp [get?, insert, different]

theorem get?_insert (table : Table α) (name other : String) (value : α) :
    (table.insert name value).get? other =
      if other = name then some value else table.get? other :=
  rfl

end Table

end SlotLang
