import AcceleratorTopology.Device.MemorySizes

/-!
# Drafts

A workspace for describing a device step by step: sheets are added one after another and linked
as parent and child, memory entries are noted on the sheets they belong to, and sheets are taken
out again to join a topology. A sheet that has been taken out leaves a blank one behind.
-/

namespace AcceleratorTopology

/-- The position of a draft in the order in which drafts were added. -/
structure DraftId where
  index : Nat
  deriving DecidableEq, Repr

/-- A sheet being written, with the drafts below it. -/
structure Draft where
  sheet : Sheet := {}
  children : List DraftId := []
  deriving DecidableEq, Repr

/-- Some drafts. -/
structure Drafts where
  drafts : List Draft := []
  deriving DecidableEq, Repr

namespace Drafts

/-- The number of drafts. -/
def size (ds : Drafts) : Nat := ds.drafts.length

/-- The position that the next draft will get. -/
def nextId (ds : Drafts) : DraftId := ⟨ds.size⟩

/-- Adds a draft that has a name only. -/
def add (ds : Drafts) (name : String) : Drafts :=
  ⟨ds.drafts ++ [{ sheet := { name } }]⟩

/-- The draft at a position. -/
def get? (ds : Drafts) (id : DraftId) : Option Draft := ds.drafts[id.index]?

/-- The sheet at a position, blank if there is none. -/
def sheet (ds : Drafts) (id : DraftId) : Sheet := ((ds.get? id).map Draft.sheet).getD {}

/-- Changes a draft in place. -/
def modify (ds : Drafts) (id : DraftId) (f : Draft → Draft) : Drafts :=
  ⟨ds.drafts.modify id.index f⟩

/-- Notes attributes on a sheet. -/
def note (ds : Drafts) (id : DraftId) (attributes : List Attribute) : Drafts :=
  ds.modify id fun d ↦ { d with sheet := d.sheet.note attributes }

/-- Makes a draft the last child of another. -/
def link (ds : Drafts) (parent child : DraftId) : Drafts :=
  ds.modify parent fun d ↦ { d with children := d.children ++ [child] }

/-- Takes a sheet out, leaving a blank draft behind. -/
def take (ds : Drafts) (id : DraftId) : Sheet × Drafts := (ds.sheet id, ds.modify id fun _ ↦ {})

/-- Takes sheets out one after another. -/
def takeAll (ds : Drafts) : List DraftId → List Sheet × Drafts
  | [] => ([], ds)
  | id :: ids =>
    let taken := ds.take id
    let rest := taken.2.takeAll ids
    (taken.1 :: rest.1, rest.2)

/-- The position that a place stands for, if the device is drafted at `whole` and its subdevices
at `parts`. -/
def locate? (whole : DraftId) (parts : List DraftId) : MemoryPlace → Option DraftId
  | .whole => some whole
  | .part k => parts[k]?

/-- Notes one entry where it belongs. -/
def noteEntry (whole : DraftId) (parts : List DraftId) (ds : Drafts) (entry : MemoryEntry) :
    Drafts :=
  match locate? whole parts entry.place with
  | some id => ds.note id [entry.attr]
  | none => ds

/-- Notes entries where they belong, in order. -/
def noteEntries (ds : Drafts) (whole : DraftId) (parts : List DraftId)
    (entries : List MemoryEntry) : Drafts :=
  entries.foldl (noteEntry whole parts) ds

end Drafts

end AcceleratorTopology
