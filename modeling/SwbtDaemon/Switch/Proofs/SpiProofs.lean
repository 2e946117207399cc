import SwbtDaemon.Lib.Patches
import SwbtDaemon.Switch.Spi

/-!
# Reading and seeding the SPI flash

A read inside the address space returns the content of the flash, and the seeding is all or
nothing: what `validate_profile` accepts is what the writes after it can do, and then the order of
the extra entries does not matter.
-/

namespace Swbt.Spi

open Patches

/-- The byte at an address: stored, or the default value beyond the storage. -/
def Flash.content (spi : Flash) (address : Nat) : UInt8 :=
  if h : address < storageSize then spi.data ⟨address, h⟩ else spi.defaultValue

theorem Flash.eq_of_content {spi spi' : Flash} (hcontent : spi.content = spi'.content)
    (hdefault : spi.defaultValue = spi'.defaultValue) : spi = spi' := by
  have hdata : spi.data = spi'.data := by
    funext i
    have hi := congrFun hcontent i.val
    rwa [Flash.content, Flash.content, dif_pos i.isLt, dif_pos i.isLt] at hi
  obtain ⟨data, defaultValue⟩ := spi
  obtain rfl : data = spi'.data := hdata
  obtain rfl : defaultValue = spi'.defaultValue := hdefault
  rfl

/-! ## Reads -/

/-- The bytes at consecutive addresses. -/
def Flash.bytesAt (spi : Flash) (address size : Nat) : List UInt8 :=
  (List.range size).map fun index => spi.content (address + index)

@[simp] theorem Flash.length_bytesAt (spi : Flash) (address size : Nat) :
    (spi.bytesAt address size).length = size := by
  rw [Flash.bytesAt, List.length_map, List.length_range]

theorem readByte_eq (spi : Flash) (absoluteAddress : UInt32) :
    readByte spi absoluteAddress = spi.content absoluteAddress.toNat := rfl

/-- The limit of a read of any size is computed without a borrow. -/
theorem toNat_addressLimit_sub (size : UInt8) :
    (addressLimit - size.toUInt32).toNat = addressLimit.toNat - size.toNat := by
  have hsize := size.toNat_lt
  have hlimit : addressLimit.toNat = 0x80000 := rfl
  have hle : size.toUInt32 ≤ addressLimit := by
    rw [UInt32.le_iff_toNat_le, UInt8.toNat_toUInt32, hlimit]
    omega
  rw [UInt32.toNat_sub_of_le _ _ hle, UInt8.toNat_toUInt32]

/-- No address of a read in range wraps. -/
theorem toNat_readAddress {address : UInt32} {size : UInt8}
    (h : address.toNat + size.toNat ≤ addressLimit.toNat) {index : Nat}
    (hindex : index < size.toNat) :
    (address + index.toUInt32).toNat = address.toNat + index := by
  have hlimit : addressLimit.toNat = 0x80000 := rfl
  have hsize := size.toNat_lt
  rw [UInt32.toNat_add, Nat.toUInt32_eq, UInt32.toNat_ofNat', Nat.mod_eq_of_lt (by omega),
    Nat.mod_eq_of_lt (by omega)]

/-- A read succeeds exactly when its size and its range are in bounds, and then returns the
content of the flash. -/
theorem read_eq (spi : Flash) (address : UInt32) (size : UInt8) :
    (size ≤ maxReadSize ∧ address.toNat + size.toNat ≤ addressLimit.toNat →
      read spi address size maxReadSize.toNat = .ok (spi.bytesAt address.toNat size.toNat)) ∧
    (¬ (size ≤ maxReadSize ∧ address.toNat + size.toNat ≤ addressLimit.toNat) →
      ∃ error, read spi address size maxReadSize.toNat = .error error) := by
  have hlimit := toNat_addressLimit_sub size
  have hsize := size.toNat_lt
  have hvalue : addressLimit.toNat = 0x80000 := rfl
  unfold read
  constructor
  · rintro ⟨hmax, hrange⟩
    have haddress : ¬ address > addressLimit - size.toUInt32 := by
      rw [gt_iff_lt, UInt32.lt_iff_toNat_lt, hlimit]
      omega
    rw [if_neg (UInt8.not_lt.2 hmax), if_neg haddress,
      if_neg (Nat.not_lt.2 (UInt8.le_iff_toNat_le.1 hmax)), Flash.bytesAt]
    refine congrArg _ (List.map_congr_left fun index hindex => ?_)
    rw [readByte_eq, toNat_readAddress hrange (List.mem_range.1 hindex)]
  · intro hout
    by_cases hmax : size ≤ maxReadSize
    · have haddress : address > addressLimit - size.toUInt32 := by
        rw [gt_iff_lt, UInt32.lt_iff_toNat_lt, hlimit]
        have := not_and.1 hout hmax
        omega
      exact ⟨_, by rw [if_neg (UInt8.not_lt.2 hmax), if_pos haddress]⟩
    · exact ⟨_, if_pos (UInt8.not_le.1 hmax)⟩

/-! ## Writes -/

/-- What an entry writes, in unbounded addresses. -/
def SeedEntry.patch (e : SeedEntry) : Patch UInt8 := ⟨e.address.toNat, e.data⟩

/-- An entry within the storage. -/
def SeedEntry.InStorage (e : SeedEntry) : Prop := e.address.toNat + e.data.length ≤ storageSize

theorem write_spec (spi : Flash) {e : SeedEntry} (h : e.InStorage) :
    ∃ spi', write spi e.address e.data = .ok spi' ∧
      spi'.content = e.patch.write spi.content ∧ spi'.defaultValue = spi.defaultValue := by
  unfold SeedEntry.InStorage at h
  unfold write
  rw [if_neg (by omega), if_neg (by omega)]
  refine ⟨_, rfl, ?_, rfl⟩
  funext address
  by_cases haddress : address < storageSize
  · rw [Flash.content, dif_pos haddress, Patch.write, Flash.content, dif_pos haddress]
    rfl
  · have hout : ¬ e.patch.Covers address := by
      unfold Patch.Covers Covers SeedEntry.patch
      dsimp only
      omega
    rw [write_of_not_covers _ hout, Flash.content, Flash.content, dif_neg haddress,
      dif_neg haddress]

/-- Entries within the storage are all written. -/
theorem writeEntriesInPlace_spec {entries : List SeedEntry} :
    ∀ spi : Flash, (∀ e ∈ entries, e.InStorage) →
      ∃ spi', writeEntriesInPlace spi entries = (.ok (), spi') ∧
        spi'.content = writeAll spi.content (entries.map SeedEntry.patch) ∧
        spi'.defaultValue = spi.defaultValue := by
  induction entries with
  | nil => exact fun spi _ => ⟨spi, rfl, rfl, rfl⟩
  | cons e entries ih =>
    intro spi h
    obtain ⟨middle, hwrite, hcontent, hdefault⟩ := write_spec spi (h e List.mem_cons_self)
    obtain ⟨spi', hrest, hcontent', hdefault'⟩ :=
      ih middle fun e' he' => h e' (List.mem_cons_of_mem _ he')
    refine ⟨spi', ?_, ?_, hdefault'.trans hdefault⟩
    · rw [writeEntriesInPlace, hwrite]
      exact hrest
    · rw [hcontent', hcontent, List.map_cons, writeAll_cons]

/-! ## Validation -/

/-- Two ranges without a common address, in unbounded arithmetic. -/
def SeedRange.Disjoint (r r' : SeedRange) : Prop :=
  Patches.Disjoint r.address.toNat r.dataLen r'.address.toNat r'.dataLen

theorem SeedRange.Disjoint.symm {r r' : SeedRange} (h : r.Disjoint r') : r'.Disjoint r :=
  Patches.Disjoint.symm h

/-- A range with an address, all of it within the storage. -/
structure SeedRange.Valid (r : SeedRange) : Prop where
  nonempty : 0 < r.dataLen
  inStorage : r.address.toNat + r.dataLen ≤ storageSize

theorem SeedRange.Valid.toNat_end {r : SeedRange} (h : r.Valid) :
    (r.address + r.dataLen.toUInt32).toNat = r.address.toNat + r.dataLen := by
  have hend : r.address.toNat + r.dataLen ≤ 0x10000 := h.inStorage
  rw [UInt32.toNat_add, Nat.toUInt32_eq, UInt32.toNat_ofNat', Nat.mod_eq_of_lt (by omega),
    Nat.mod_eq_of_lt (by omega)]

/-- Within the storage, the 32-bit comparison of the range ends is the comparison of the ranges. -/
theorem rangesOverlap_eq_false {r r' : SeedRange} (h : r.Valid) (h' : r'.Valid) :
    rangesOverlap r r' = false ↔ r.Disjoint r' := by
  rw [SeedRange.Disjoint, disjoint_iff h.nonempty h'.nonempty, rangesOverlap,
    Bool.and_eq_false_iff, decide_eq_false_iff_not, decide_eq_false_iff_not, UInt32.not_lt,
    UInt32.not_lt, UInt32.le_iff_toNat_le, UInt32.le_iff_toNat_le, h.toNat_end, h'.toNat_end]
  exact or_comm

theorem any_rangesOverlap_eq_false {r : SeedRange} (h : r.Valid) {rs : List SeedRange}
    (hrs : ∀ r' ∈ rs, r'.Valid) :
    rs.any (rangesOverlap r) = false ↔ ∀ r' ∈ rs, r.Disjoint r' := by
  rw [List.any_eq_false]
  exact forall₂_congr fun r' hr' => by
    rw [Bool.not_eq_true, rangesOverlap_eq_false h (hrs r' hr')]

theorem fixedRanges_valid : ∀ r ∈ fixedRanges, r.Valid := by
  intro r hr
  have hall : ∀ r ∈ fixedRanges, 0 < r.dataLen ∧ r.address.toNat + r.dataLen ≤ storageSize := by
    simp [fixedRanges, storageSize]
  exact ⟨(hall r hr).1, (hall r hr).2⟩

theorem fixedRanges_disjoint : fixedRanges.Pairwise SeedRange.Disjoint := by
  have hapart : fixedRanges.Pairwise fun r r' =>
      r.address.toNat + r.dataLen ≤ r'.address.toNat ∨
        r'.address.toNat + r'.dataLen ≤ r.address.toNat := by
    decide
  refine hapart.imp_of_mem fun hr hr' h => ?_
  exact (disjoint_iff (fixedRanges_valid _ hr).nonempty (fixedRanges_valid _ hr').nonempty).2 h

theorem validateEntryBoundary_ok (entry : SeedEntry) :
    validateEntryBoundary entry = .ok () ↔ entry.range.Valid := by
  unfold validateEntryBoundary
  split_ifs with hempty hlarge hstart
  · refine iff_of_false (nomatch ·) fun h => ?_
    have hlength : 0 < entry.data.length := h.nonempty
    omega
  · refine iff_of_false (nomatch ·) fun h => ?_
    have hend : entry.address.toNat + entry.data.length ≤ storageSize := h.inStorage
    omega
  · refine iff_of_false (nomatch ·) fun h => ?_
    have hend : entry.address.toNat + entry.data.length ≤ storageSize := h.inStorage
    omega
  · exact iff_of_true rfl ⟨Nat.pos_of_ne_zero hempty, by simp only [SeedEntry.range]; omega⟩

/-- What the extra entries of a profile have to meet. -/
structure ExtraEntriesOk (entries : List SeedEntry) : Prop where
  valid : ∀ e ∈ entries, e.range.Valid
  fixed : ∀ e ∈ entries, ∀ r ∈ fixedRanges, e.range.Disjoint r
  apart : entries.Pairwise fun e e' => e.range.Disjoint e'.range

/-- One round of the loop over the extra entries. -/
theorem validateExtraEntries_cons {previous : List SeedEntry} (e : SeedEntry)
    (entries : List SeedEntry) (hprevious : ∀ p ∈ previous, p.range.Valid) :
    validateExtraEntries previous (e :: entries) = .ok () ↔
      e.range.Valid ∧ (∀ r ∈ fixedRanges, e.range.Disjoint r) ∧
        (∀ p ∈ previous, e.range.Disjoint p.range) ∧
        validateExtraEntries (previous ++ [e]) entries = .ok () := by
  have hvalid := validateEntryBoundary_ok e
  cases hboundary : validateEntryBoundary e with
  | error error =>
    rw [hboundary] at hvalid
    simp only [validateExtraEntries, hboundary, bind, Except.bind]
    exact iff_of_false (nomatch ·) fun h => nomatch hvalid.2 h.1
  | ok =>
    have he : e.range.Valid := hvalid.1 hboundary
    have hfixed := any_rangesOverlap_eq_false he fixedRanges_valid
    have hearlier : previous.any (fun p => rangesOverlap e.range p.range) = false ↔
        ∀ p ∈ previous, e.range.Disjoint p.range := by
      have hranges := any_rangesOverlap_eq_false he (List.forall_mem_map.2 hprevious)
      rwa [List.any_map, List.forall_mem_map] at hranges
    rw [← hfixed, ← hearlier]
    simp only [validateExtraEntries, hboundary, bind, Except.bind, he, true_and]
    cases fixedRanges.any (rangesOverlap e.range) with
    | true => exact iff_of_false (nomatch ·) fun h => nomatch h.1
    | false =>
      cases previous.any fun p => rangesOverlap e.range p.range with
      | true => exact iff_of_false (nomatch ·) fun h => nomatch h.2.1
      | false => exact ⟨fun h => ⟨rfl, rfl, h⟩, fun h => h.2.2⟩

/-- The check of the extra entries, after valid entries that passed it. -/
theorem validateExtraEntries_ok {entries : List SeedEntry} :
    ∀ previous : List SeedEntry, (∀ p ∈ previous, p.range.Valid) →
      (validateExtraEntries previous entries = .ok () ↔
        ExtraEntriesOk entries ∧ ∀ e ∈ entries, ∀ p ∈ previous, e.range.Disjoint p.range) := by
  induction entries with
  | nil =>
    intro previous _
    exact iff_of_true rfl ⟨⟨by simp, by simp, List.Pairwise.nil⟩, by simp⟩
  | cons e entries ih =>
    intro previous hprevious
    rw [validateExtraEntries_cons e entries hprevious]
    constructor
    · rintro ⟨he, hfixed, hearlier, hrest⟩
      have hmore : ∀ p ∈ previous ++ [e], p.range.Valid := by
        simpa [or_imp, forall_and] using ⟨hprevious, he⟩
      obtain ⟨hok, hapart⟩ := (ih (previous ++ [e]) hmore).1 hrest
      refine ⟨⟨?_, ?_, List.pairwise_cons.2 ⟨fun e' he' => ?_, hok.apart⟩⟩, ?_⟩
      · exact List.forall_mem_cons.2 ⟨he, hok.valid⟩
      · exact List.forall_mem_cons.2 ⟨hfixed, hok.fixed⟩
      · exact (hapart e' he' e (by simp)).symm
      · exact List.forall_mem_cons.2
          ⟨hearlier, fun e' he' p hp => hapart e' he' p (List.mem_append_left _ hp)⟩
    · rintro ⟨hok, hapart⟩
      obtain ⟨he, hvalid⟩ := List.forall_mem_cons.1 hok.valid
      obtain ⟨hfixed, hfixed'⟩ := List.forall_mem_cons.1 hok.fixed
      obtain ⟨hearlier, hearlier'⟩ := List.forall_mem_cons.1 hapart
      obtain ⟨hfirst, hpairwise⟩ := List.pairwise_cons.1 hok.apart
      have hmore : ∀ p ∈ previous ++ [e], p.range.Valid := by
        simpa [or_imp, forall_and] using ⟨hprevious, he⟩
      refine ⟨he, hfixed, hearlier,
        (ih (previous ++ [e]) hmore).2 ⟨⟨hvalid, hfixed', hpairwise⟩, ?_⟩⟩
      intro e' he' p hp
      rcases List.mem_append.1 hp with hp | hp
      · exact hearlier' e' he' p hp
      · rw [List.mem_singleton.1 hp]
        exact (hfirst e' he').symm

/-- A profile that can be written: every field has its length, and the extra entries are valid,
disjoint from the fields and from each other. -/
structure SeedProfile.Acceptable (p : SeedProfile) : Prop where
  lengths : ∀ f ∈ p.requiredFields, f.1.data.length = f.2
  extra : ExtraEntriesOk p.extraEntries

theorem validateProfile_ok (profile : SeedProfile) :
    validateProfile profile = .ok () ↔ profile.Acceptable := by
  have hextra : validateExtraEntries [] profile.extraEntries = .ok () ↔
      ExtraEntriesOk profile.extraEntries := by
    rw [validateExtraEntries_ok [] (by simp)]
    exact and_iff_left (by simp)
  have hlengths : (profile.requiredFields.any fun f => f.1.data.length ≠ f.2) = true ↔
      ¬ ∀ f ∈ profile.requiredFields, f.1.data.length = f.2 := by
    simp only [List.any_eq_true, decide_eq_true_eq, not_forall, exists_prop]
  unfold validateProfile
  split_ifs with hwrong
  · exact iff_of_false (nomatch ·) fun h => hlengths.1 hwrong h.lengths
  · rw [hextra]
    exact ⟨fun h => ⟨not_not.1 (hlengths.not.1 hwrong), h⟩, fun h => h.extra⟩

/-! ## Seeding -/

/-- The entries that the seeding writes, in their order. -/
def SeedProfile.entries (p : SeedProfile) : List SeedEntry :=
  p.requiredFields.map Prod.fst ++ p.extraEntries

/-- The address `address` is one that the entry writes. -/
def SeedEntry.Covers (e : SeedEntry) (address : Nat) : Prop :=
  Patches.Covers e.address.toNat e.data.length address

/-- The required fields cover the fixed ranges. -/
theorem SeedProfile.Acceptable.field_ranges {p : SeedProfile} (h : p.Acceptable) :
    (p.requiredFields.map Prod.fst).map SeedEntry.range = fixedRanges := by
  have hfields : p.requiredFields.map (fun f => SeedRange.mk f.1.address f.2) = fixedRanges := rfl
  rw [← hfields, List.map_map]
  refine List.map_congr_left fun f hf => ?_
  rw [Function.comp_apply, SeedEntry.range, h.lengths f hf]

theorem SeedProfile.Acceptable.inStorage {p : SeedProfile} (h : p.Acceptable) :
    ∀ e ∈ p.entries, e.InStorage := by
  intro e he
  rcases List.mem_append.1 he with hfield | hextra
  · have hrange : e.range ∈ fixedRanges := h.field_ranges ▸ List.mem_map_of_mem hfield
    exact (fixedRanges_valid _ hrange).inStorage
  · exact (h.extra.valid e hextra).inStorage

theorem SeedProfile.Acceptable.disjoint {p : SeedProfile} (h : p.Acceptable) :
    (p.entries.map SeedEntry.patch).Pairwise Patch.Disjoint := by
  have hfields : (p.requiredFields.map Prod.fst).Pairwise fun e e' => e.range.Disjoint e'.range :=
    List.pairwise_map.1 (h.field_ranges ▸ fixedRanges_disjoint)
  refine List.pairwise_map.2 (List.pairwise_append.2 ⟨hfields, h.extra.apart, ?_⟩)
  intro e hfield e' hextra
  have hrange : e.range ∈ fixedRanges := h.field_ranges ▸ List.mem_map_of_mem hfield
  exact (h.extra.fixed e' hextra e.range hrange).symm

theorem SeedProfile.Acceptable.perm {p : SeedProfile} (h : p.Acceptable) {extra : List SeedEntry}
    (hperm : extra.Perm p.extraEntries) : { p with extraEntries := extra }.Acceptable where
  lengths := h.lengths
  extra :=
    { valid := fun e he => h.extra.valid e (hperm.subset he)
      fixed := fun e he => h.extra.fixed e (hperm.subset he)
      apart := (hperm.pairwise_iff SeedRange.Disjoint.symm).2 h.extra.apart }

/-- The seeding with an acceptable profile. -/
theorem seedApplyInPlace_of_acceptable (spi : Flash) {profile : SeedProfile}
    (h : profile.Acceptable) :
    ∃ spi', seedApplyInPlace spi profile = (.ok (), spi') ∧
      spi'.content = writeAll spi.content (profile.entries.map SeedEntry.patch) ∧
      spi'.defaultValue = spi.defaultValue := by
  obtain ⟨spi', hwrites, hcontent, hdefault⟩ := writeEntriesInPlace_spec spi h.inStorage
  refine ⟨spi', ?_, hcontent, hdefault⟩
  rw [seedApplyInPlace, (validateProfile_ok profile).2 h]
  exact hwrites

/-- The seeding with any other profile. -/
theorem seedApplyInPlace_of_not_acceptable (spi : Flash) {profile : SeedProfile}
    (h : ¬ profile.Acceptable) : ∃ error, seedApplyInPlace spi profile = (.error error, spi) := by
  unfold seedApplyInPlace
  cases hvalidate : validateProfile profile with
  | error error => exact ⟨error, rfl⟩
  | ok => exact absurd ((validateProfile_ok profile).1 hvalidate) h

/-- The two forms of the seeding agree. -/
theorem seedApply_eq (spi : Flash) (profile : SeedProfile) :
    seedApply spi profile = (seedApplyInPlace spi profile).1.map
      fun _ => (seedApplyInPlace spi profile).2 := by
  have hwrites : ∀ (entries : List SeedEntry) (spi : Flash), writeEntries spi entries =
      (writeEntriesInPlace spi entries).1.map fun _ => (writeEntriesInPlace spi entries).2 := by
    intro entries
    induction entries with
    | nil => exact fun _ => rfl
    | cons e entries ih =>
      intro spi
      simp only [writeEntries, writeEntriesInPlace, bind, Except.bind]
      cases write spi e.address e.data with
      | error error => rfl
      | ok middle => exact ih middle
  simp only [seedApply, seedApplyInPlace, bind, Except.bind]
  cases validateProfile profile with
  | error error => rfl
  | ok => exact hwrites _ spi

/-- **Seeding**: it succeeds exactly for the acceptable profiles, which the write pass never
refuses; it leaves the content as it was when it fails, and otherwise holds exactly the bytes of
the entries, whatever the order of the extra entries. -/
theorem seedApplyInPlace_spec (spi : Flash) (profile : SeedProfile) :
    ((seedApplyInPlace spi profile).1 = .ok () ↔ profile.Acceptable) ∧
      (validateProfile profile = .ok () → (seedApplyInPlace spi profile).1 = .ok ()) ∧
      ((seedApplyInPlace spi profile).1 ≠ .ok () → (seedApplyInPlace spi profile).2 = spi) ∧
      ((seedApplyInPlace spi profile).1 = .ok () →
        (∀ e ∈ profile.entries, ∀ (i : Nat) (hi : i < e.data.length),
          (seedApplyInPlace spi profile).2.content (e.address.toNat + i) = e.data[i]) ∧
        (∀ address, (∀ e ∈ profile.entries, ¬ e.Covers address) →
          (seedApplyInPlace spi profile).2.content address = spi.content address) ∧
        (seedApplyInPlace spi profile).2.defaultValue = spi.defaultValue ∧
        ∀ extra : List SeedEntry, extra.Perm profile.extraEntries →
          seedApplyInPlace spi { profile with extraEntries := extra } =
            seedApplyInPlace spi profile) := by
  by_cases hok : profile.Acceptable
  · obtain ⟨spi', happly, hcontent, hdefault⟩ := seedApplyInPlace_of_acceptable spi hok
    rw [happly]
    refine ⟨iff_of_true rfl hok, fun _ => rfl, fun h => absurd rfl h,
      fun _ => ⟨?_, ?_, hdefault, ?_⟩⟩
    · intro e he i hi
      have hcovers : e.patch.Covers (e.address.toNat + i) :=
        ⟨Nat.le_add_right _ _, Nat.add_lt_add_left hi _⟩
      have hwritten := writeAll_of_covers spi.content hok.disjoint e.patch
        (List.mem_map_of_mem he) _ hcovers
      rw [← hcontent, SeedEntry.patch, Nat.add_sub_cancel_left, List.getElem?_eq_getElem hi]
        at hwritten
      exact (Option.some.inj hwritten).symm
    · intro address houtside
      rw [hcontent]
      exact writeAll_of_not_covers _ (List.forall_mem_map.2 houtside)
    · intro extra hperm
      obtain ⟨spi'', happly', hcontent', hdefault'⟩ :=
        seedApplyInPlace_of_acceptable spi (hok.perm hperm)
      have hpatches : ({ profile with extraEntries := extra }.entries.map SeedEntry.patch).Perm
          (profile.entries.map SeedEntry.patch) := (hperm.append_left _).map _
      have hsame : spi'' = spi' := by
        apply Flash.eq_of_content
        · rw [hcontent, hcontent']
          exact writeAll_perm _ hpatches (hok.perm hperm).disjoint
        · exact hdefault'.trans hdefault.symm
      rw [happly', hsame]
  · obtain ⟨error, happly⟩ := seedApplyInPlace_of_not_acceptable spi hok
    have hvalidate : validateProfile profile ≠ .ok () := mt (validateProfile_ok profile).1 hok
    rw [happly]
    exact ⟨iff_of_false (nomatch ·) hok, fun h => absurd h hvalidate, fun _ => rfl, (nomatch ·)⟩

end Swbt.Spi
