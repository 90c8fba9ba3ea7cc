import AcceleratorTopology.Proofs.Device.Notes
import AcceleratorTopology.Proofs.Text.Hexadecimal

/-!
# What is noted about command-queue groups

Groups are noted in order, after their number. The numbers in the text of a group are kept apart by
a character that is in neither of them, so queues and flags of every group can be read off the notes
again. The size of fill patterns is not noted.
-/

namespace AcceleratorTopology

open Vendor

namespace Text

private theorem toList_hexText (n : Nat) : (hexText n).toList = hexDigits n := String.toList_ofList

/-- Different numbers have different hexadecimal digits. -/
theorem hexDigits_injective : Function.Injective hexDigits := by
  intro m n h
  have hread : some m = some n := by
    rw [← hexNatural?_hexDigits m, h, hexNatural?_hexDigits]
  exact Option.some.inj hread

private theorem notMem_hexDigits {c : Char} (hdigit : hexDigit? c = none) (hplus : c ≠ '+')
    (n : Nat) : c ∉ hexDigits n :=
  (IsHexNumeral.plain (hexNatural?_eq_some_iff.mp (hexNatural?_hexDigits n))).notMem hdigit hplus

end Text

/-- The number of queues of a group, and its flags. -/
def Vendor.QueueGroup.queuesAndFlags (g : QueueGroup) : UInt32 × UInt32 := (g.queueCount, g.flags)

private theorem Vendor.QueueGroup.text_eq (g : QueueGroup) :
    g.text = toString g.queueCount.toNat ++ "*0x" ++ Text.hexText g.flags.toNat := rfl

private theorem queuesAndFlags_eq_of_text {g g' : QueueGroup} (h : g.text = g'.text) :
    g.queuesAndFlags = g'.queuesAndFlags := by
  have htext (g : QueueGroup) : g.text.toList = (toString g.queueCount.toNat).toList ++
      '*' :: '0' :: 'x' :: Text.hexDigits g.flags.toNat := by
    rw [g.text_eq, String.toList_append, String.toList_append, Text.toList_hexText,
      List.append_assoc]
    rfl
  have hfront : '*' ∉ (toString g.queueCount.toNat).toList := Text.notMem_toString (by decide) _
  have hback : '*' ∉ '0' :: 'x' :: Text.hexDigits g.flags.toNat := by
    have hdigits := Text.notMem_hexDigits (c := '*') (by decide) (by decide) g.flags.toNat
    simpa using hdigits
  have hlist : g.text.toList = g'.text.toList := congrArg String.toList h
  rw [htext, htext, List.append_cons_inj_of_notMem hfront hback] at hlist
  obtain ⟨hcount, -, hflags⟩ := hlist
  have hqueues : g.queueCount = g'.queueCount :=
    UInt32.toNat_inj.mp (Text.toString_injective (String.toList_injective hcount))
  have hmask : g.flags = g'.flags :=
    UInt32.toNat_inj.mp (Text.hexDigits_injective (List.cons.inj (List.cons.inj hflags).2).2)
  exact Prod.ext hqueues hmask

/-- The notes that list some groups: their number, then queues and flags of one after another. -/
structure ListsGroups (groups : List QueueGroup) (notes : List Attribute) : Prop where
  length : notes.length = groups.length + 1
  keys : (notes.map Attribute.key).Nodup
  count : notes[0]? = some ⟨"LevelZeroCQGroups", toString groups.length⟩
  group : ∀ (k : Nat) (g : QueueGroup), groups[k]? = some g → notes[k + 1]? =
    some ⟨"LevelZeroCQGroup" ++ toString k,
      toString g.queueCount.toNat ++ "*0x" ++ Text.hexText g.flags.toNat⟩

/-- The notes about some groups list them. -/
theorem listsGroups_queueGroupAttributes {groups : List QueueGroup} (h : groups ≠ []) :
    ListsGroups groups (queueGroupAttributes groups) := by
  have hkeys := nodup_keys_queueGroupAttributes groups
  rw [queueGroupAttributes, if_neg (by simpa using h)] at hkeys ⊢
  constructor
  case length => rw [List.length_cons, List.length_mapIdx]
  case keys => exact hkeys
  case count => rfl
  case group =>
    intro k g hg
    rw [List.getElem?_cons_succ, List.getElem?_mapIdx, hg]
    rfl

/-- Notes list the queues and flags of only one list of groups. -/
theorem ListsGroups.unique {groups groups' : List QueueGroup} {notes : List Attribute}
    (h : ListsGroups groups notes) (h' : ListsGroups groups' notes) :
    groups.map QueueGroup.queuesAndFlags = groups'.map QueueGroup.queuesAndFlags := by
  have hlength : groups.length = groups'.length :=
    Nat.succ.inj (h.length.symm.trans h'.length)
  refine List.ext_getElem (by simpa using hlength) fun k hk hk' ↦ ?_
  rw [List.length_map] at hk hk'
  have hg := h.group k _ (List.getElem?_eq_getElem hk)
  have hg' := h'.group k _ (List.getElem?_eq_getElem hk')
  rw [hg, Option.some.injEq, Attribute.mk.injEq] at hg'
  rw [List.getElem_map, List.getElem_map]
  exact queuesAndFlags_eq_of_text hg'.2

private theorem queueGroupAttributes_eq_nil_iff {groups : List QueueGroup} :
    queueGroupAttributes groups = [] ↔ groups = [] := by
  rw [queueGroupAttributes]
  split
  · next h => simpa using h
  · next h => simpa using h

private theorem queuesAndFlags_eq_of_attributes {groups groups' : List QueueGroup}
    (h : queueGroupAttributes groups = queueGroupAttributes groups') :
    groups.map QueueGroup.queuesAndFlags = groups'.map QueueGroup.queuesAndFlags := by
  by_cases hnone : groups = []
  · have hnone' : groups' = [] := by
      rwa [← queueGroupAttributes_eq_nil_iff, ← h, queueGroupAttributes_eq_nil_iff]
    rw [hnone, hnone']
  · have hsome' : groups' ≠ [] := by
      rwa [ne_eq, ← queueGroupAttributes_eq_nil_iff, ← h, queueGroupAttributes_eq_nil_iff]
    have hlists := listsGroups_queueGroupAttributes hnone
    rw [h] at hlists
    exact hlists.unique (listsGroups_queueGroupAttributes hsome')

private theorem value_queueAttributes_of_ok {vendor : Answers} {device : DeviceHandle}
    {groups : List QueueGroup} (h : vendor (.queueGroups device) = .ok groups) (name : String) :
    (queueAttributes vendor name device).value = queueGroupAttributes groups := by
  rw [value_queueAttributes, queueNotes, h]
  rfl

private theorem value_queueAttributes_of_error {vendor : Answers} {device : DeviceHandle}
    {fault : Fault} (h : vendor (.queueGroups device) = .error fault) (name : String) :
    (queueAttributes vendor name device).value = [] := by
  rw [value_queueAttributes, queueNotes, h]
  rfl

/-- A sheet stays as it is where the vendor lists no groups or does not say. Otherwise all groups
are noted on it after what is there, in order and under keys of their own; and whichever vendor is
asked about whichever device, the notes tell the queues and flags of every group. -/
theorem noted_queue_groups_recoverable (vendor : Answers) (name : String) (device : DeviceHandle)
    (s : Sheet) :
    let noted := s.note (queueAttributes vendor name device).value
    (∀ fault, vendor (.queueGroups device) = .error fault → noted = s) ∧
    (vendor (.queueGroups device) = .ok [] → noted = s) ∧
    ∀ groups, vendor (.queueGroups device) = .ok groups →
      (groups ≠ [] → ∃ notes, noted = { s with attributes := s.attributes ++ notes } ∧
        ListsGroups groups notes) ∧
      ∀ (vendor' : Answers) (name' : String) (device' : DeviceHandle) groups',
        vendor' (.queueGroups device') = .ok groups' →
        noted = s.note (queueAttributes vendor' name' device').value →
        groups.map QueueGroup.queuesAndFlags = groups'.map QueueGroup.queuesAndFlags := by
  intro noted
  refine ⟨fun fault h ↦ ?_, fun h ↦ ?_, fun groups h ↦ ⟨fun hsome ↦ ?_, ?_⟩⟩
  · change s.note (queueAttributes vendor name device).value = s
    rw [value_queueAttributes_of_error h, Sheet.note_nil]
  · change s.note (queueAttributes vendor name device).value = s
    rw [value_queueAttributes_of_ok h, queueGroupAttributes_eq_nil_iff.mpr rfl, Sheet.note_nil]
  · exact ⟨_, rfl, value_queueAttributes_of_ok h name ▸ listsGroups_queueGroupAttributes hsome⟩
  · intro vendor' name' device' groups' h' hnoted
    have hsame := List.append_cancel_left (congrArg Sheet.attributes hnoted)
    rw [value_queueAttributes_of_ok h, value_queueAttributes_of_ok h'] at hsame
    exact queuesAndFlags_eq_of_attributes hsame

/-- A vendor with two groups on its first device, which have a size of fill patterns, and with none
on its second. -/
def fillingVendor (size : UInt64) : Answers
  | .queueGroups ⟨1⟩ => .ok [⟨7, size, 4⟩, ⟨2, size, 1⟩]
  | .queueGroups ⟨2⟩ => .ok []
  | q => .error (.missingEntry q.entryPoint.symbol)

/-- Groups that differ by the size of fill patterns are noted alike. -/
theorem filling_groups_noted_alike :
    let s : Sheet := { attributes := [backendAttribute] }
    let noted := s.note (queueAttributes (fillingVendor 16) "ze0" ⟨1⟩).value
    fillingVendor 16 (.queueGroups ⟨1⟩) = .ok [⟨7, 16, 4⟩, ⟨2, 16, 1⟩] ∧
    fillingVendor 64 (.queueGroups ⟨1⟩) = .ok [⟨7, 64, 4⟩, ⟨2, 64, 1⟩] ∧
    noted = s.note (queueAttributes (fillingVendor 64) "ze1" ⟨1⟩).value ∧
    (∃ notes, noted = { s with attributes := s.attributes ++ notes } ∧
      ListsGroups [⟨7, 16, 4⟩, ⟨2, 16, 1⟩] notes) ∧
    [⟨7, 16, 4⟩, ⟨2, 16, 1⟩].map QueueGroup.queuesAndFlags =
      [⟨7, 64, 4⟩, ⟨2, 64, 1⟩].map QueueGroup.queuesAndFlags ∧
    s.note (queueAttributes (fillingVendor 16) "ze0" ⟨2⟩).value = s ∧
    s.note (queueAttributes (fillingVendor 16) "ze0" ⟨3⟩).value = s := by
  intro s noted
  obtain ⟨-, -, hlisted⟩ := noted_queue_groups_recoverable (fillingVendor 16) "ze0" ⟨1⟩ s
  obtain ⟨-, hempty, -⟩ := noted_queue_groups_recoverable (fillingVendor 16) "ze0" ⟨2⟩ s
  obtain ⟨hfailed, -⟩ := noted_queue_groups_recoverable (fillingVendor 16) "ze0" ⟨3⟩ s
  obtain ⟨hnotes, halike⟩ := hlisted _ rfl
  have hnoted : noted = s.note (queueAttributes (fillingVendor 64) "ze1" ⟨1⟩).value := rfl
  exact ⟨rfl, rfl, hnoted, hnotes (List.cons_ne_nil _ _), halike _ _ _ _ rfl hnoted, hempty rfl,
    hfailed _ rfl⟩

end AcceleratorTopology
