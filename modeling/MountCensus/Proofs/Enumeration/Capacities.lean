import MountCensus.Proofs.Enumeration.Filtering

/-!
What stores say about space. A store repeats the answer for its path (`Store.space_of_assemble`),
and of that answer it is only checked that the path can be reached and that the total is not
negative. So whether all stores have as much space as they say they have free is up to the host:
they do exactly if its answers for the eligible mounts do (`space_of_emitted`).
-/

set_option autoImplicit false

namespace MountCensus

/-! ### Space -/

/-- The sizes told of a file system, in bytes. -/
structure Space where
  total : Int
  free : Int
  usable : Int
deriving DecidableEq, Repr

/-- What is usable and what is free are parts of the total. -/
structure Space.IsSound (space : Space) : Prop where
  usable_nonneg : 0 ≤ space.usable
  usable_le : space.usable ≤ space.total
  free_nonneg : 0 ≤ space.free
  free_le : space.free ≤ space.total

theorem Space.isSound_iff (space : Space) :
    space.IsSound ↔ (0 ≤ space.usable ∧ space.usable ≤ space.total) ∧
      0 ≤ space.free ∧ space.free ≤ space.total :=
  ⟨fun h ↦ ⟨⟨h.usable_nonneg, h.usable_le⟩, h.free_nonneg, h.free_le⟩,
    fun h ↦ ⟨h.1.1, h.1.2, h.2.1, h.2.2⟩⟩

instance (space : Space) : Decidable space.IsSound :=
  decidable_of_iff' _ space.isSound_iff

def Capacity.space (capacity : Capacity) : Space :=
  ⟨capacity.total, capacity.free, capacity.usable⟩

def Store.space (store : Store) : Space :=
  ⟨store.totalSpace, store.freeSpace, store.usableSpace⟩

/-- Whether a mount with this answer for its path gives a store. -/
def Capacity.IsKept (capacity : Capacity) : Prop :=
  capacity.reachable = true ∧ 0 ≤ capacity.total

/-- Space counted in blocks is sound if the counts are. -/
theorem Capacity.isSound_ofBlocks {blocks free available size : Int} (hsize : 0 ≤ size)
    (havailable : 0 ≤ available ∧ available ≤ blocks) (hfree : 0 ≤ free ∧ free ≤ blocks) :
    (Capacity.ofBlocks blocks free available size).space.IsSound where
  usable_nonneg := Int.mul_nonneg havailable.1 hsize
  usable_le := Int.mul_le_mul_of_nonneg_right havailable.2 hsize
  free_nonneg := Int.mul_nonneg hfree.1 hsize
  free_le := Int.mul_le_mul_of_nonneg_right hfree.2 hsize

theorem Store.space_of_assemble {networkTypes : List String} {usage : Usage.Table}
    {probe : String → Capacity} {mount : Mount} {store : Store}
    (h : assemble networkTypes usage probe mount = some store) :
    (probe mount.path).IsKept ∧ store.mount = mount.path ∧
      store.space = (probe mount.path).space := by
  simp only [assemble, Option.ite_none_left_eq_some, Option.some.injEq, Bool.or_eq_true,
    Bool.not_eq_true', decide_eq_true_eq, not_or, Bool.not_eq_false, Int.not_lt] at h
  obtain ⟨hkept, rfl⟩ := h
  exact ⟨hkept, rfl, rfl⟩

namespace Enumeration

variable {host : Host} {policy : Policy} {name : Option String} {localOnly : Bool}
  {found : List Store} {store : Store}

/-! ### The stores that are given out -/

/-- A store that a host's listings, listings for one name, or refreshed stores hold. -/
inductive IsEmitted (host : Host) (policy : Policy) : Store → Prop where
  | listed {localOnly : Bool} {found : List Store} {store : Store} :
      (stores host policy localOnly).result = .ok found → store ∈ found →
      IsEmitted host policy store
  | named {name : String} {localOnly : Bool} {found : List Store} {store : Store} :
      (storesNamed host policy name localOnly).result = .ok found → store ∈ found →
      IsEmitted host policy store
  | refreshed {former store : Store} :
      (refresh host policy former).result = .ok (some store) → IsEmitted host policy store

/-- A listed store is that of an eligible row which can be probed. -/
theorem exists_row_of_listing (hfound : (listing host policy name localOnly).result = .ok found)
    (hstore : store ∈ found) :
    ∃ mount ∈ eligibleRows host policy localOnly, (host.probe mount.path).IsKept ∧
      store.mount = mount.path ∧ store.space = (host.probe mount.path).space := by
  cases husage : host.run (Usage.reportCommand localOnly) with
  | error failure => simp [listing, husage] at hfound
  | ok usageLines =>
    cases hmounts : host.run Mount.tableCommand with
    | error failure => simp [listing, husage, hmounts] at hfound
    | ok mountLines =>
      rw [listing_of_reports husage hmounts] at hfound
      obtain rfl := Except.ok.inj hfound
      obtain ⟨mount, hmount, hassembled⟩ := List.mem_filterMap.mp hstore
      obtain ⟨hrow, hselects⟩ := List.mem_filter.mp hmount
      rw [selects, Bool.and_eq_true] at hselects
      refine ⟨mount, List.mem_filter.mpr ⟨?_, hselects.1⟩, Store.space_of_assemble hassembled⟩
      simpa only [seenRows, husage, hmounts] using hrow

theorem IsEmitted.exists_row (h : IsEmitted host policy store) :
    ∃ localOnly, ∃ mount ∈ eligibleRows host policy localOnly, (host.probe mount.path).IsKept ∧
      store.mount = mount.path ∧ store.space = (host.probe mount.path).space := by
  cases h with
  | listed hfound hstore => exact ⟨_, exists_row_of_listing hfound hstore⟩
  | named hfound hstore => exact ⟨_, exists_row_of_listing hfound hstore⟩
  | @refreshed former _ hresult =>
    rw [refresh, Answer.map] at hresult
    cases hfound : (storesNamed host policy former.name false).result with
    | error failure => simp [hfound, Except.map] at hresult
    | ok found =>
      simp only [hfound, Except.map, Except.ok.injEq] at hresult
      exact ⟨_, exists_row_of_listing hfound (List.mem_of_find?_eq_some hresult)⟩

/-- An eligible row that can be probed has its store in the full listing. -/
theorem exists_emitted_of_row {mount : Mount} (hmount : mount ∈ eligibleRows host policy localOnly)
    (hkept : (host.probe mount.path).IsKept) :
    ∃ store, IsEmitted host policy store ∧ store.space = (host.probe mount.path).space := by
  obtain ⟨hseen, heligible⟩ := List.mem_filter.mp hmount
  cases husage : host.run (Usage.reportCommand localOnly) with
  | error failure => simp [seenRows, husage] at hseen
  | ok usageLines =>
    cases hmounts : host.run Mount.tableCommand with
    | error failure => simp [seenRows, husage, hmounts] at hseen
    | ok mountLines =>
      simp only [seenRows, husage, hmounts] at hseen
      rw [← selects_none] at heligible
      obtain ⟨store, hstore, hassembled⟩ :=
        exists_store_of_selected policy hseen heligible hkept.1 hkept.2 usageLines
      have hlisted : (stores host policy localOnly).result = .ok _ :=
        congrArg Answer.result (listing_of_reports husage hmounts policy none)
      exact ⟨store, .listed hlisted hstore, (Store.space_of_assemble hassembled).2.2⟩

/-- The space of a store is what the host answers for its path, and its total is never negative. The
space of all stores is sound exactly if it is in each answer for an eligible mount that is kept. -/
theorem space_of_emitted (host : Host) (policy : Policy) :
    (∀ store, IsEmitted host policy store →
      store.space = (host.probe store.mount).space ∧ 0 ≤ store.totalSpace) ∧
    ((∀ store, IsEmitted host policy store → store.space.IsSound) ↔
      ∀ (localOnly : Bool), ∀ mount ∈ eligibleRows host policy localOnly,
        (host.probe mount.path).IsKept → (host.probe mount.path).space.IsSound) := by
  refine ⟨fun store hstore ↦ ?_, fun hall localOnly mount hmount hkept ↦ ?_,
    fun hall store hstore ↦ ?_⟩
  · obtain ⟨localOnly, mount, -, hkept, hpath, hspace⟩ := hstore.exists_row
    have htotal : store.totalSpace = (host.probe mount.path).total :=
      congrArg Space.total hspace
    exact ⟨hpath ▸ hspace, htotal ▸ hkept.2⟩
  · obtain ⟨store, hstore, hspace⟩ := exists_emitted_of_row hmount hkept
    exact hspace ▸ hall store hstore
  · obtain ⟨localOnly, mount, hmount, hkept, -, hspace⟩ := hstore.exists_row
    exact hspace ▸ hall localOnly mount hmount hkept

/-! ### A host with one mount and any answer for it -/

def hostAnswering (capacity : Capacity) : Host :=
  .ofReports ["/dev/hd4 1441792 18137 58071"] ["  /dev/hd4 / jfs2 Jun 16 09:12 rw"] fun _ ↦ capacity

theorem space_of_emitted_of_blocks :
    (∃ store, IsEmitted (hostAnswering (.ofBlocks 8 4 2 512)) {} store ∧
      store.space = ⟨4096, 2048, 1024⟩) ∧
    ∀ store, IsEmitted (hostAnswering (.ofBlocks 8 4 2 512)) {} store → store.space.IsSound := by
  have hsound : (Capacity.ofBlocks 8 4 2 512).space.IsSound :=
    Capacity.isSound_ofBlocks (by decide) (by decide) (by decide)
  obtain ⟨-, hiff⟩ := space_of_emitted (hostAnswering (.ofBlocks 8 4 2 512)) {}
  refine ⟨?_, hiff.mpr fun _ _ _ _ ↦ hsound⟩
  have hmount : (⟨"/dev/hd4", "/", "jfs2", "rw"⟩ : Mount) ∈
      eligibleRows (hostAnswering (.ofBlocks 8 4 2 512)) {} false := by
    decide +kernel
  obtain ⟨store, hstore, hspace⟩ := exists_emitted_of_row hmount ⟨rfl, by decide⟩
  exact ⟨store, hstore, hspace⟩

/-- An answer with more free space than there is, and less than nothing usable. -/
def overfull : Capacity :=
  { reachable := true, total := 4, free := 5, usable := -1 }

/-- Each of the three operations gives out what the host has answered. -/
theorem emitted_space_unsound :
    ∃ store, (stores (hostAnswering overfull) {} false).result = .ok [store] ∧
      (storesNamed (hostAnswering overfull) {} "hd4" false).result = .ok [store] ∧
      (refresh (hostAnswering overfull) {} store).result = .ok (some store) ∧
      ¬ store.space.IsSound := by
  refine ⟨⟨"hd4", "/dev/hd4", "hd4", "/", "rw", "Local Disk", "jfs2", 5, -1, 4, 58071, 76208⟩,
    ?_, ?_, ?_, ?_⟩ <;> decide +kernel

end Enumeration

end MountCensus
