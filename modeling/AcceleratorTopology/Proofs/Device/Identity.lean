import AcceleratorTopology.Proofs.Device.CallOrder
import AcceleratorTopology.Proofs.Device.Notes

/-!
# Who shows an identity

A device is identified where it is described as a whole, unless it says that it is part of another
one. It then shows the strings that are set, just as the vendor has them, and the management
interface is asked for them once. A subdevice never shows an identity, nor is any asked for.
-/

namespace AcceleratorTopology

open Vendor Settings

private theorem toNat_toLower (c : Char) : c.toLower.val.toNat =
    if 65 ≤ c.val.toNat ∧ c.val.toNat ≤ 90 then c.val.toNat + 32 else c.val.toNat := by
  have hdistance : ('a'.val - 'A'.val).toNat = 32 := by decide
  delta Char.toLower
  by_cases hcapital : 'A'.val ≤ c.val ∧ c.val ≤ 'Z'.val
  · have hrange : 65 ≤ c.val.toNat ∧ c.val.toNat ≤ 90 := hcapital
    rw [dif_pos hcapital, if_pos hrange, UInt32.toNat_add, hdistance]
    omega
  · have hrange : ¬(65 ≤ c.val.toNat ∧ c.val.toNat ≤ 90) := hcapital
    rw [dif_neg hcapital, if_neg hrange]

private theorem toNat_toUpper {letter : Char}
    (h : 97 ≤ letter.val.toNat ∧ letter.val.toNat ≤ 122) :
    letter.toUpper.val.toNat = letter.val.toNat - 32 := by
  have hsmall : 'a'.val ≤ letter.val ∧ letter.val ≤ 'z'.val := h
  -- The distance between the cases is negative, so it wraps around.
  have hdistance : ('A'.val - 'a'.val).toNat = 4294967264 := by decide
  delta Char.toUpper
  rw [dif_pos hsmall, UInt32.toNat_add, hdistance]
  omega

private theorem isLower_iff {letter : Char} :
    letter.isLower = true ↔ 97 ≤ letter.val.toNat ∧ letter.val.toNat ≤ 122 := by
  have hsmall : letter.isLower = (decide (97 ≤ letter.val) && decide (letter.val ≤ 122)) := rfl
  rw [hsmall, Bool.and_eq_true, decide_eq_true_iff, decide_eq_true_iff]
  exact Iff.rfl

private theorem toLower_eq_iff {c letter : Char} (h : letter.isLower = true) :
    c.toLower = letter ↔ c = letter ∨ c = letter.toUpper := by
  have hsmall := isLower_iff.mp h
  simp only [Char.ext_iff, ← UInt32.toNat_inj, toNat_toLower, toNat_toUpper hsmall]
  split <;> omega

/-- A text reads as the word for an unset string, each letter small or capital. -/
def ReadsUnknown (s : String) : Prop :=
  List.Forall₂ (fun c letter ↦ c = letter ∨ c = letter.toUpper) s.toList "unknown".toList

instance (s : String) : Decidable (ReadsUnknown s) :=
  inferInstanceAs (Decidable (List.Forall₂ _ _ _))

/-- A string counts as unset exactly if it reads so. -/
theorem isUnsetIdentity_iff (s : String) : isUnsetIdentity s = true ↔ ReadsUnknown s := by
  have hsmall : ∀ letter ∈ "unknown".toList, letter.isLower = true := List.all_eq_true.mp rfl
  rw [isUnsetIdentity, beq_iff_eq, ReadsUnknown]
  generalize s.toList = text
  generalize "unknown".toList = letters at hsmall
  induction letters generalizing text with
  | nil => rw [List.map_eq_nil_iff, List.forall₂_nil_right_iff]
  | cons letter letters ih =>
    cases text with
    | nil => simp
    | cons c text =>
      rw [List.map_cons, List.cons.injEq, List.forall₂_cons]
      apply and_congr (toLower_eq_iff (hsmall letter List.mem_cons_self))
      exact ih text fun l hl ↦ hsmall l (List.mem_cons_of_mem letter hl)

/-- The strings of an identity under their keys, set or not. -/
def Vendor.IdentityStrings.fields (s : IdentityStrings) : List Attribute :=
  [⟨"LevelZeroVendor", s.vendor⟩, ⟨"LevelZeroModel", s.model⟩, ⟨"LevelZeroBrand", s.brand⟩,
    ⟨"LevelZeroSerialNumber", s.serialNumber⟩, ⟨"LevelZeroBoardNumber", s.boardNumber⟩]

/-- The strings that are set are noted. -/
theorem attributes_identity (s : IdentityStrings) :
    s.attributes = s.fields.filter fun a ↦ ¬ReadsUnknown a.value := by
  refine List.filter_congr fun a _ ↦ ?_
  rw [Bool.eq_iff_iff, Bool.not_eq_true', decide_eq_true_iff, ← isUnsetIdentity_iff,
    Bool.not_eq_true]

/-- What some attributes tell about an identity. -/
def identityAmong (attributes : List Attribute) : List Attribute :=
  attributes.filter fun a ↦ a.key ∈ identityKeys

section Among

variable {attributes : List Attribute}

private theorem identityAmong_append (first second : List Attribute) :
    identityAmong (first ++ second) = identityAmong first ++ identityAmong second :=
  List.filter_append first second

private theorem identityAmong_eq_nil (form : String → Prop) (h : ∀ a ∈ attributes, form a.key)
    (hform : ∀ key ∈ identityKeys, ¬form key) : identityAmong attributes = [] := by
  apply List.filter_eq_nil_iff.mpr
  intro a ha hkey
  exact hform a.key (of_decide_eq_true hkey) (h a ha)

private theorem identityAmong_eq_self (h : ∀ a ∈ attributes, a.key ∈ identityKeys) :
    identityAmong attributes = attributes :=
  List.filter_eq_self.mpr fun a ha ↦ decide_eq_true (h a ha)

end Among

section Notes

variable (vendor : Answers)

private theorem identityAmong_shapeNotes (device : DeviceHandle) :
    identityAmong (shapeNotes vendor device) = [] := by
  apply identityAmong_eq_nil (· ∈ shapeKeys) _ (by decide)
  intro a ha
  exact (keys_shapeNotes vendor device).subset (List.mem_map_of_mem ha)

private theorem identityAmong_identityNotes (device : DeviceHandle) :
    identityAmong (identityNotes vendor device) = identityNotes vendor device := by
  apply identityAmong_eq_self
  intro a ha
  exact (keys_identityNotes vendor device).subset (List.mem_map_of_mem ha)

private theorem identityAmong_queueNotes (device : DeviceHandle) :
    identityAmong (queueNotes vendor device) = [] :=
  identityAmong_eq_nil IsQueueKey (fun _ ↦ isQueueKey_of_mem) (by decide)

private theorem identityAmong_subdeviceCount (handles : List DeviceHandle) :
    identityAmong (subdeviceCount handles) = [] := by
  apply identityAmong_eq_nil (· ∈ ["LevelZeroSubdevices"]) _ (by decide)
  intro a ha
  exact (keys_subdeviceCount handles).subset (List.mem_map_of_mem ha)

private theorem identityAmong_wholeNotes (driver position : Nat) (device : DeviceHandle) :
    identityAmong (wholeNotes vendor driver position device) = identityNotes vendor device := by
  have hstart : identityAmong [backendAttribute, .number "LevelZeroDriverIndex" driver,
      .number "LevelZeroDriverDeviceIndex" position] = [] := rfl
  simp only [wholeNotes, identityAmong_append, hstart, identityAmong_shapeNotes,
    identityAmong_identityNotes, identityAmong_queueNotes, identityAmong_subdeviceCount,
    List.nil_append, List.append_nil]

private theorem identityAmong_partNotes (k : Nat) (device : DeviceHandle) :
    identityAmong (partNotes vendor k device) = [] := by
  have hstart : identityAmong [backendAttribute, .number "LevelZeroSubdeviceID" k] = [] := rfl
  simp only [partNotes, identityAmong_append, hstart, identityAmong_shapeNotes,
    identityAmong_queueNotes, List.append_nil]

end Notes

private theorem KeptApart.identityAmong_eq {attributes notes sizes : List Attribute}
    (h : KeptApart attributes notes sizes) (hsizes : ∀ b ∈ sizes, IsSizeKey b.key) :
    identityAmong attributes = identityAmong notes := by
  have hnone : identityAmong sizes = [] :=
    identityAmong_eq_nil IsSizeKey hsizes (by decide)
  rw [h.attributes_eq, identityAmong_append, hnone, List.append_nil]

/-- What a whole device shows of its identity: nothing if it says that it is a subdevice or cannot
be identified, and otherwise every string that is set, once and in order. -/
structure ShowsIdentity (vendor : Answers) (device : DeviceHandle) (attributes : List Attribute) :
    Prop where
  part : saysPart vendor device = true → identityAmong attributes = []
  failed : ∀ fault, vendor (.identity device) = .error fault → identityAmong attributes = []
  identified : saysPart vendor device = false → ∀ strings,
    vendor (.identity device) = .ok strings →
    identityAmong attributes = strings.fields.filter fun a ↦ ¬ReadsUnknown a.value

private theorem showsIdentity_of_eq {vendor : Answers} {device : DeviceHandle}
    {attributes : List Attribute} (h : identityAmong attributes = identityNotes vendor device) :
    ShowsIdentity vendor device attributes := by
  rw [identityNotes] at h
  constructor
  case part =>
    intro hpart
    rw [h, if_pos hpart]
  case failed =>
    intro fault hfault
    rw [h, hfault, ite_self]
  case identified =>
    intro hwhole strings hstrings
    rw [h, hwhole, hstrings, ← attributes_identity]
    rfl

section Describe

variable (vendor : Answers) (config : Configuration) (switch : SysmanState)
  (choice : MemoryChoice) (listing : Listing)

/-- A whole device shows its identity. -/
theorem showsIdentity_describe :
    ShowsIdentity vendor listing.device
      (describe vendor config switch choice listing).value.2.whole.attributes := by
  apply showsIdentity_of_eq
  rw [(keptApart_describe_whole vendor config switch choice listing).identityAmong_eq
    fun _ ↦ isSizeKey_of_memoryEntries vendor config switch choice listing]
  exact identityAmong_wholeNotes vendor _ _ _

/-- A subdevice shows no identity. -/
theorem identityAmong_describe_part {part : Sheet}
    (h : part ∈ (describe vendor config switch choice listing).value.2.parts) :
    identityAmong part.attributes = [] := by
  obtain ⟨k, hk⟩ := List.mem_iff_getElem?.mp h
  have hthere : k < (subdeviceHandles vendor listing.device).length := by
    rw [← length_describe_parts vendor config switch choice listing]
    exact (List.getElem?_eq_some_iff.mp hk).1
  have hhandle := List.getElem?_eq_getElem hthere
  rw [(keptApart_describe_part vendor config switch choice listing hk hhandle).identityAmong_eq
    fun _ ↦ isSizeKey_of_memoryEntries vendor config switch choice listing]
  exact identityAmong_partNotes vendor k _

end Describe

/-- Whether a query is about the nature of a device: its properties, its identity or its queue
groups. -/
def Vendor.Query.isAboutNature : Query → Bool
  | properties _ | identity _ | queueGroups _ => true
  | _ => false

/-- A device as it is described: as a whole, or as a part of another one. -/
structure Member where
  standing : DeviceStanding
  device : DeviceHandle
  deriving DecidableEq, Repr

/-- A device and its subdevices, in the order in which they are described. -/
def membersOf (vendor : Answers) (device : DeviceHandle) : List Member :=
  ⟨.whole, device⟩ :: (subdeviceHandles vendor device).map (Member.mk .part)

/-- The queries by which a member is described: for its properties, then for its identity if it is a
whole device that does not say that it is a subdevice, then for its queue groups. -/
def Member.queries (vendor : Answers) (member : Member) : List Query :=
  .properties member.device ::
    ((if member.standing = .whole ∧ saysPart vendor member.device = false then
      [.identity member.device] else []) ++ [.queueGroups member.device])

section Queries

variable (vendor : Answers) (name : String) (device : DeviceHandle) (switch : SysmanState)

private theorem asked_coreProperties :
    asked Query.isAboutNature (coreProperties vendor name device) = [.properties device] := by
  have hask : asked Query.isAboutNature (ask vendor (.properties device)) = [.properties device] :=
    rfl
  rw [coreProperties, asked_bind, hask, value_ask]
  cases vendor (.properties device) with
  | error fault => rfl
  | ok p =>
    dsimp only
    cases p.deviceType <;> rfl

private theorem asked_identityAttributes :
    asked Query.isAboutNature (identityAttributes vendor device switch) = [.identity device] := by
  have hask : asked Query.isAboutNature (ask vendor (.identity device)) = [.identity device] := rfl
  rw [identityAttributes, asked_bind, hask, value_ask]
  cases vendor (.identity device) <;> rfl

private theorem asked_queueAttributes :
    asked Query.isAboutNature (queueAttributes vendor name device) = [.queueGroups device] := by
  have hask : asked Query.isAboutNature (ask vendor (.queueGroups device)) =
      [.queueGroups device] := rfl
  rw [queueAttributes, asked_bind, hask, value_ask]
  cases vendor (.queueGroups device) <;> rfl

private theorem asked_deviceProfile (standing : DeviceStanding) :
    asked Query.isAboutNature (deviceProfile vendor name device standing switch) ++
      [.queueGroups device] = Member.queries vendor ⟨standing, device⟩ := by
  rw [deviceProfile, asked_bind, asked_coreProperties]
  dsimp only
  rw [any_isSubdevice_coreProperties, Member.queries]
  cases standing with
  | part => rfl
  | whole =>
    cases saysPart vendor device with
    | true => rfl
    | false =>
      dsimp only
      rw [if_neg (by simp), asked_bind, asked_identityAttributes]
      rfl

private theorem asked_describePart (k : Nat) :
    asked Query.isAboutNature (describePart vendor switch name k device) =
      Member.queries vendor ⟨.part, device⟩ := by
  rw [describePart, ← asked_deviceProfile vendor (partSheet name k).name device switch, asked_bind,
    asked_bind, asked_queueAttributes, asked_pure, List.append_nil]

private theorem asked_surveyDevice (config : Configuration) (listing : Listing) :
    asked Query.isAboutNature (surveyDevice vendor config switch listing) =
      (membersOf vendor listing.device).flatMap (Member.queries vendor) := by
  have hsubdevices : asked Query.isAboutNature
      (subdevicesOf vendor (wholeSheet config listing).name listing.device) = [] :=
    ((asks_subdevicesOf _ _ _).mono fun _ hq ↦ hq ▸ rfl).asked_eq_nil
  have hparts : (subdeviceHandles vendor listing.device).zipIdx.flatMap (fun numbered ↦
      asked Query.isAboutNature (describePart vendor switch (wholeSheet config listing).name
        numbered.2 numbered.1)) =
      ((subdeviceHandles vendor listing.device).map (Member.mk .part)).flatMap
        (Member.queries vendor) := by
    rw [List.flatMap_map]
    refine Eq.trans (List.flatMap_congr fun numbered _ ↦ ?_) (flatMap_zipIdx_fst _ _)
    exact asked_describePart vendor _ numbered.1 switch numbered.2
  rw [membersOf, List.flatMap_cons, ← hparts, surveyDevice,
    ← asked_deviceProfile vendor (wholeSheet config listing).name listing.device switch,
    asked_bind, asked_bind, asked_bind, asked_bind, asked_collect, asked_queueAttributes,
    hsubdevices, value_subdevicesOf, asked_pure, List.append_nil, List.nil_append,
    List.append_assoc]

end Queries

/-- A device is described by its queries and then by those of its subdevices. -/
theorem asked_describe (vendor : Answers) (config : Configuration) (switch : SysmanState)
    (choice : MemoryChoice) (listing : Listing) :
    asked Query.isAboutNature (describe vendor config switch choice listing) =
      (membersOf vendor listing.device).flatMap (Member.queries vendor) := by
  have hmemory (family : DeviceFamily) :
      asked Query.isAboutNature (memorySizes vendor family choice) = [] := by
    refine ((asks_memorySizes vendor family choice).mono fun q hq ↦ ?_).asked_eq_nil
    cases q <;> first | rfl | cases hq
  rw [describe, asked_bind, asked_bind, hmemory, asked_surveyDevice, asked_pure, List.append_nil,
    List.append_nil]

end AcceleratorTopology
