/-!
# Attributes and sheets

A sheet describes one device or subdevice: its name, its subtype and a list of attributes in the
order in which they were noted. Keys may repeat; looking one up finds the first.
-/

namespace AcceleratorTopology

/-- A key with its value. -/
structure Attribute where
  key : String
  value : String
  deriving DecidableEq, Repr

namespace Attribute

/-- An attribute whose value is a number, in decimal. -/
def number (key : String) (n : Nat) : Attribute := ⟨key, toString n⟩

/-- The first value noted under a key. -/
def lookup? (attributes : List Attribute) (key : String) : Option String :=
  (attributes.find? (·.key == key)).map value

/-- What is noted first under a key is found there. -/
theorem lookup?_cons_self (a : Attribute) (attributes : List Attribute) :
    lookup? (a :: attributes) a.key = some a.value := by
  simp [lookup?]

/-- A key is not found exactly if nothing is noted under it. -/
theorem lookup?_eq_none_iff {attributes : List Attribute} {key : String} :
    lookup? attributes key = none ↔ ∀ a ∈ attributes, a.key ≠ key := by
  simp [lookup?]

/-- A key is not found among keys of another form. -/
theorem lookup?_eq_none_of_form {attributes : List Attribute} {key : String} {form : String → Prop}
    (h : ∀ a ∈ attributes, form a.key) (hk : ¬form key) : lookup? attributes key = none :=
  lookup?_eq_none_iff.mpr fun a ha he ↦ hk (he ▸ h a ha)

/-- What is noted later is found if nothing was noted under the key before. -/
theorem lookup?_append (first second : List Attribute) (key : String) :
    lookup? (first ++ second) key = (lookup? first key).or (lookup? second key) := by
  rw [lookup?, lookup?, lookup?, List.find?_append]
  cases first.find? (·.key == key) <;> rfl

end Attribute

/-- The description of a device or subdevice. -/
structure Sheet where
  name : String := ""
  subtype : Option String := none
  attributes : List Attribute := []
  deriving DecidableEq, Repr

namespace Sheet

/-- Notes further attributes after those already there. -/
def note (s : Sheet) (attributes : List Attribute) : Sheet :=
  { s with attributes := s.attributes ++ attributes }

/-- Noting appends. -/
@[simp] theorem attributes_note (s : Sheet) (attributes : List Attribute) :
    (s.note attributes).attributes = s.attributes ++ attributes := rfl

/-- Noting keeps the name. -/
@[simp] theorem name_note (s : Sheet) (attributes : List Attribute) :
    (s.note attributes).name = s.name := rfl

/-- Noting keeps the subtype. -/
@[simp] theorem subtype_note (s : Sheet) (attributes : List Attribute) :
    (s.note attributes).subtype = s.subtype := rfl

/-- Noting nothing changes nothing. -/
@[simp] theorem note_nil (s : Sheet) : s.note [] = s := by
  simp [note]

/-- Noting twice is noting once, in order. -/
theorem note_note (s : Sheet) (first second : List Attribute) :
    (s.note first).note second = s.note (first ++ second) := by
  simp [note]

end Sheet

end AcceleratorTopology
