import AcceleratorTopology.Device.Description
import AcceleratorTopology.Device.Drafts

/-!
# Drafting a device

A device is described in a workspace of its own: its draft is added first, then one draft for
each subdevice, linked below it once its attributes are noted. Memory sizes come last, when every
draft is there.
-/

namespace AcceleratorTopology

open Vendor Settings

namespace Drafts

/-- Adds a draft with a name, a subtype and some attributes. -/
def start (ds : Drafts) (s : Sheet) : Drafts :=
  (ds.add s.name).modify ds.nextId fun d ↦
    { d with sheet := { d.sheet with subtype := s.subtype }.note s.attributes }

end Drafts

/-- A subdevice with its draft. -/
structure DraftedPart where
  handle : DeviceHandle
  draft : DraftId
  deriving DecidableEq, Repr

/-- A workspace with the subdevices drafted so far. -/
structure Workspace where
  drafts : Drafts
  parts : List DraftedPart := []
  deriving DecidableEq, Repr

/-- Drafts a subdevice, its memory apart, and links it below the draft of the whole device. -/
def draftPart (vendor : Answers) (switch : SysmanState) (whole : String) (root : DraftId)
    (w : Workspace) (numbered : DeviceHandle × Nat) : Described Workspace := do
  let sheet := partSheet whole numbered.2
  let draft := w.drafts.nextId
  let begun := w.drafts.start sheet
  let profile ← deviceProfile vendor sheet.name numbered.1 .part switch
  let shaped := begun.note draft profile.attributes
  let queues ← queueAttributes vendor sheet.name numbered.1
  let queued := shaped.note draft queues
  return ⟨queued.link root draft, w.parts ++ [⟨numbered.1, draft⟩]⟩

/-- A device drafted in a workspace, and the choice of memory source from then on. -/
structure Drafted where
  choice : MemoryChoice
  drafts : Drafts
  root : DraftId
  deriving DecidableEq, Repr

/-- Drafts a device and its subdevices in a new workspace. -/
def draftDevice (vendor : Answers) (config : Configuration) (switch : SysmanState)
    (choice : MemoryChoice) (listing : Listing) : Described Drafted := do
  let empty : Drafts := {}
  let root := empty.nextId
  let sheet := wholeSheet config listing
  let begun := empty.start sheet
  let profile ← deviceProfile vendor sheet.name listing.device .whole switch
  let shaped := begun.note root profile.attributes
  let queues ← queueAttributes vendor sheet.name listing.device
  let queued := shaped.note root queues
  let handles ← subdevicesOf vendor sheet.name listing.device
  let counted := queued.note root (subdeviceCount handles)
  let work ← handles.zipIdx.foldlM (draftPart vendor switch sheet.name root) { drafts := counted }
  let named (part : DraftedPart) : NamedDevice := ⟨part.handle, (work.drafts.sheet part.draft).name⟩
  let family : DeviceFamily :=
    ⟨⟨listing.device, (work.drafts.sheet root).name⟩, work.parts.map named, profile.integrated⟩
  let memory ← memorySizes vendor family choice
  return ⟨memory.1, work.drafts.noteEntries root (work.parts.map DraftedPart.draft) memory.2, root⟩

end AcceleratorTopology
