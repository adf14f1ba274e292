set_option autoImplicit false

/-!
# Entries

Values under distinct names, kept in ascending order of the names, so that two collections with
the same values under the same names are equal.

## Main definitions

* `RecordQuery.Entries.get?`, `RecordQuery.Entries.insert`, `RecordQuery.Entries.erase` — the
  value under a name, and the entries with one more or one fewer.

## Main results

* `RecordQuery.Entries.get?_insert` — a name has the value it was last given.
-/

namespace RecordQuery

/-- Values under names. -/
abbrev Entries (α : Type) := List (String × α)

namespace Entries

variable {α : Type}

/-- The value under a name. -/
def get? (entries : Entries α) (name : String) : Option α :=
  (entries.find? fun e => e.1 == name).map (·.2)

/-- The entries with `value` under `name`, in place of what was there. -/
def insert (name : String) (value : α) : Entries α → Entries α
  | [] => [(name, value)]
  | e :: rest =>
    if name < e.1 then (name, value) :: e :: rest
    else if name = e.1 then (name, value) :: rest
    else e :: insert name value rest

/-- The entries without those under `name`. -/
def erase (name : String) (entries : Entries α) : Entries α := entries.filter fun e => e.1 != name

/-- The entries of a list of pairs; of several values under one name the last stays. -/
def ofList (pairs : List (String × α)) : Entries α :=
  pairs.foldl (fun entries p => insert p.1 p.2 entries) []

/-- The values, in the order of their names. -/
def values (entries : Entries α) : List α := entries.map (·.2)

@[simp]
theorem get?_nil (name : String) : get? ([] : Entries α) name = none := rfl

theorem get?_cons (e : String × α) (entries : Entries α) (name : String) :
    get? (e :: entries) name = if e.1 = name then some e.2 else get? entries name := by
  by_cases h : e.1 = name <;> simp [get?, h]

/-- A name has the value it was last given, and other names keep theirs. -/
theorem get?_insert (name other : String) (value : α) (entries : Entries α) :
    get? (insert name value entries) other =
      if name = other then some value else get? entries other := by
  induction entries with
  | nil => simp [insert, get?_cons]
  | cons e rest ih =>
    simp only [insert]
    split
    · simp [get?_cons]
    · split
      · rename_i h
        subst h
        simp only [get?_cons]
        split <;> rfl
      · rename_i h
        simp only [get?_cons, ih]
        by_cases h₁ : e.1 = other
        · have : name ≠ other := fun h₂ => h (h₂.trans h₁.symm)
          simp [h₁, this]
        · simp [h₁]

end Entries

end RecordQuery
