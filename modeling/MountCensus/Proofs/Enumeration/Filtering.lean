import Mathlib.Data.List.Basic
import MountCensus.Proofs.Enumeration.Selection

/-!
How listings of one host under different policies compare. A policy with more excludes and pseudo
types and fewer includes makes fewer mounts eligible (`Policy.Stricter.isEligible`), except that no
pattern and no pseudo type keeps the root out. So its listing is a sublist of the other one, and a
listing depends on the patterns of its policy as sets (`stores_monotone`).
-/

set_option autoImplicit false

namespace MountCensus

/-! ### Policies by what they let pass -/

namespace Policy

theorem isIncluded_iff {policy : Policy} {path volume : String} :
    policy.isIncluded path volume = true ↔
      (∃ m ∈ policy.pathIncludes, m.accepts path = true) ∨
        ∃ m ∈ policy.volumeIncludes, m.accepts volume = true := by
  rw [isIncluded, Bool.or_eq_true, Pattern.matchesAny_eq_true_iff, Pattern.matchesAny_eq_true_iff]

theorem isExcluded_iff {policy : Policy} {path volume : String} :
    policy.isExcluded path volume = true ↔
      ¬ policy.isIncluded path volume = true ∧
        ((∃ m ∈ policy.pathExcludes, m.accepts path = true) ∨
          ∃ m ∈ policy.volumeExcludes, m.accepts volume = true) := by
  rw [isExcluded, Bool.and_eq_true, Bool.or_eq_true, Pattern.matchesAny_eq_true_iff,
    Pattern.matchesAny_eq_true_iff, Bool.not_eq_true', Bool.not_eq_true]

theorem isEligible_iff {policy : Policy} {path volume type : String} {localOnly : Bool} :
    policy.isEligible path volume type localOnly = true ↔
      ¬ (localOnly = true ∧ type ∈ policy.networkTypes) ∧
        (path = rootPath ∨
          (type ∉ policy.pseudoTypes ∧ ¬ policy.isExcluded path volume = true)) := by
  simp only [isEligible, isNetwork, Bool.and_eq_true, Bool.or_eq_true, Bool.not_eq_true',
    beq_iff_eq, ← Bool.not_eq_true, List.contains_iff_mem, not_and, not_or]

/-- A policy that excludes whatever another one excludes and includes nothing more than it does.
Both have the same network types. -/
structure Stricter (strict loose : Policy) : Prop where
  pathExcludes : loose.pathExcludes ⊆ strict.pathExcludes
  volumeExcludes : loose.volumeExcludes ⊆ strict.volumeExcludes
  pseudoTypes : loose.pseudoTypes ⊆ strict.pseudoTypes
  pathIncludes : strict.pathIncludes ⊆ loose.pathIncludes
  volumeIncludes : strict.volumeIncludes ⊆ loose.volumeIncludes
  networkTypes : ∀ type, type ∈ strict.networkTypes ↔ type ∈ loose.networkTypes

/-- Policies that have the same patterns and types, in whatever order and however often. -/
def SameSets (policy other : Policy) : Prop :=
  policy.Stricter other ∧ other.Stricter policy

namespace Stricter

variable {strict loose : Policy}

theorem isIncluded (h : strict.Stricter loose) {path volume : String}
    (hincluded : strict.isIncluded path volume = true) : loose.isIncluded path volume = true := by
  rcases isIncluded_iff.mp hincluded with ⟨m, hm, haccepts⟩ | ⟨m, hm, haccepts⟩
  · exact isIncluded_iff.mpr (.inl ⟨m, h.pathIncludes hm, haccepts⟩)
  · exact isIncluded_iff.mpr (.inr ⟨m, h.volumeIncludes hm, haccepts⟩)

theorem isExcluded (h : strict.Stricter loose) {path volume : String}
    (hexcluded : loose.isExcluded path volume = true) : strict.isExcluded path volume = true := by
  obtain ⟨hnot, hmatch⟩ := isExcluded_iff.mp hexcluded
  refine isExcluded_iff.mpr ⟨fun hincluded ↦ hnot (h.isIncluded hincluded), ?_⟩
  rcases hmatch with ⟨m, hm, haccepts⟩ | ⟨m, hm, haccepts⟩
  · exact .inl ⟨m, h.pathExcludes hm, haccepts⟩
  · exact .inr ⟨m, h.volumeExcludes hm, haccepts⟩

theorem isEligible (h : strict.Stricter loose) {path volume type : String} {localOnly : Bool}
    (heligible : strict.isEligible path volume type localOnly = true) :
    loose.isEligible path volume type localOnly = true := by
  obtain ⟨hlocal, hpasses⟩ := isEligible_iff.mp heligible
  refine isEligible_iff.mpr ⟨by rwa [← h.networkTypes type], hpasses.imp_right ?_⟩
  rintro ⟨htype, hkept⟩
  exact ⟨fun hpseudo ↦ htype (h.pseudoTypes hpseudo),
    fun hexcluded ↦ hkept (h.isExcluded hexcluded)⟩

theorem assemble_eq (h : strict.Stricter loose) (usage : Usage.Table)
    (probe : String → Capacity) :
    Store.assemble strict.networkTypes usage probe =
      Store.assemble loose.networkTypes usage probe := by
  have hcontains (type : String) :
      strict.networkTypes.contains type = loose.networkTypes.contains type := by
    rw [Bool.eq_iff_iff, List.contains_iff_mem, List.contains_iff_mem]
    exact h.networkTypes type
  funext mount
  simp only [Store.assemble, Store.describe, hcontains]

end Stricter

end Policy

/-! ### Listings under two policies -/

namespace Enumeration

variable {host : Host} {strict loose policy other : Policy}

theorem storesOf_congr (h : strict.Stricter loose) (host : Host) (usageLines : List String)
    (mounts : List Mount) :
    storesOf host strict usageLines mounts = storesOf host loose usageLines mounts := by
  rw [storesOf, h.assemble_eq]
  rfl

theorem filter_sublist_filter (h : strict.Stricter loose) (localOnly : Bool)
    (mounts : List Mount) :
    (mounts.filter (selects strict none localOnly)).Sublist
      (mounts.filter (selects loose none localOnly)) := by
  refine List.monotone_filter_right mounts fun mount hstrict ↦ ?_
  rw [selects_none] at hstrict ⊢
  exact h.isEligible hstrict

theorem storesOf_sublist (h : strict.Stricter loose) (host : Host) (localOnly : Bool)
    (usageLines : List String) (mounts : List Mount) :
    (storesOf host strict usageLines (mounts.filter (selects strict none localOnly))).Sublist
      (storesOf host loose usageLines (mounts.filter (selects loose none localOnly))) := by
  rw [storesOf_congr h]
  exact (filter_sublist_filter h localOnly mounts).filterMap _

theorem stores_congr (h : policy.SameSets other) (host : Host) (localOnly : Bool) :
    stores host policy localOnly = stores host other localOnly := by
  have hselects : selects policy none localOnly = selects other none localOnly := by
    funext mount
    rw [selects_none, selects_none, Bool.eq_iff_iff]
    exact ⟨h.1.isEligible, h.2.isEligible⟩
  have hstores : storesOf host policy = storesOf host other := by
    funext usageLines mounts
    exact storesOf_congr h.1 host usageLines mounts
  rw [stores, stores, listing, listing, hselects, hstores]

/-! ### The root, and listings of local file systems only -/

theorem selects_root (policy : Policy) {localOnly : Bool} {root : Mount}
    (hpath : root.path = rootPath)
    (hlocal : ¬ (localOnly = true ∧ root.type ∈ policy.networkTypes)) :
    selects policy none localOnly root = true := by
  rw [selects_none]
  exact Policy.isEligible_iff.mpr ⟨hlocal, .inl hpath⟩

/-- A selected mount that can be probed has its store in the listing. -/
theorem exists_store_of_selected (policy : Policy) {localOnly : Bool} {mounts : List Mount}
    {mount : Mount} (hmem : mount ∈ mounts)
    (hselects : selects policy none localOnly mount = true)
    (hreachable : (host.probe mount.path).reachable = true)
    (htotal : 0 ≤ (host.probe mount.path).total) (usageLines : List String) :
    ∃ store ∈ storesOf host policy usageLines (mounts.filter (selects policy none localOnly)),
      Store.assemble policy.networkTypes (Usage.ofReport usageLines) host.probe mount =
        some store := by
  have hstore : Store.assemble policy.networkTypes (Usage.ofReport usageLines) host.probe mount ≠
      none := by
    rw [Ne, Store.assemble_eq_none_iff, hreachable]
    simp [Int.not_lt.mpr htotal]
  obtain ⟨store, hstore⟩ := Option.ne_none_iff_exists'.mp hstore
  refine ⟨store, List.mem_filterMap.mpr ⟨mount, ?_, hstore⟩, hstore⟩
  exact List.mem_filter.mpr ⟨hmem, hselects⟩

/-- Where a store comes from. -/
def place (store : Store) : String × String :=
  (store.volume, store.mount)

theorem map_place_assemble (networkTypes : List String) (probe : String → Capacity)
    (usage other : Usage.Table) (mount : Mount) :
    (Store.assemble networkTypes usage probe mount).map place =
      (Store.assemble networkTypes other probe mount).map place := by
  unfold Store.assemble
  dsimp only
  split <;> rfl

/-- The places in a listing do not depend on the usage report. -/
theorem map_place_storesOf (host : Host) (policy : Policy) (usageLines otherLines : List String)
    (mounts : List Mount) :
    (storesOf host policy usageLines mounts).map place =
      (storesOf host policy otherLines mounts).map place := by
  rw [storesOf, storesOf, List.map_filterMap, List.map_filterMap]
  exact List.filterMap_congr fun mount _ ↦ map_place_assemble _ _ _ _ mount

theorem filter_local_sublist (policy : Policy) (mounts : List Mount) :
    (mounts.filter (selects policy none true)).Sublist
      (mounts.filter (selects policy none false)) := by
  refine List.monotone_filter_right mounts fun mount hlocal ↦ ?_
  rw [selects_none] at hlocal ⊢
  exact Policy.isEligible_of_local hlocal

/-- Of two policies with the same network types, the stricter one lists a part of what the other one
lists, in the same order, and both list a root that can be probed and is not left out for being
remote. A policy lists the same in whatever order its patterns are and however often each is there,
and the places that are listed of local file systems only are a part of all places listed. -/
theorem stores_monotone {host : Host} {mountLines : List String}
    (hmounts : host.run Mount.tableCommand = .ok mountLines) :
    (∀ {localOnly : Bool} {usageLines : List String},
      host.run (Usage.reportCommand localOnly) = .ok usageLines →
      ∀ strict loose : Policy, strict.Stricter loose →
        ∃ few many : List Store,
          (stores host strict localOnly).result = .ok few ∧
          (stores host loose localOnly).result = .ok many ∧
          few.Sublist many ∧
          ∀ root ∈ Mount.ofTable mountLines, root.path = rootPath →
            (host.probe rootPath).reachable = true → 0 ≤ (host.probe rootPath).total →
            ¬ (localOnly = true ∧ loose.isNetwork root.type = true) →
              ∃ store ∈ few, store ∈ many ∧
                Store.assemble loose.networkTypes (Usage.ofReport usageLines) host.probe root =
                  some store) ∧
    (∀ (policy other : Policy) (localOnly : Bool), policy.SameSets other →
      stores host policy localOnly = stores host other localOnly) ∧
    ∀ {localLines usageLines : List String},
      host.run (Usage.reportCommand true) = .ok localLines →
      host.run (Usage.reportCommand false) = .ok usageLines →
      ∀ policy : Policy, ∃ few many : List Store,
        (stores host policy true).result = .ok few ∧
        (stores host policy false).result = .ok many ∧
        (few.map place).Sublist (many.map place) := by
  refine ⟨?_, fun policy other localOnly h ↦ stores_congr h host localOnly, ?_⟩
  · intro localOnly usageLines husage strict loose h
    have hsublist := storesOf_sublist h host localOnly usageLines (Mount.ofTable mountLines)
    rw [stores, stores, listing_of_reports husage hmounts, listing_of_reports husage hmounts]
    refine ⟨_, _, rfl, rfl, hsublist, ?_⟩
    intro root hroot hpath hreachable htotal hlocal
    rw [Policy.isNetwork, List.contains_iff_mem] at hlocal
    have hselects : selects strict none localOnly root = true :=
      selects_root strict hpath (by rwa [h.networkTypes root.type])
    rw [← hpath] at hreachable htotal
    obtain ⟨store, hmem, hstore⟩ :=
      exists_store_of_selected strict hroot hselects hreachable htotal usageLines
    exact ⟨store, hmem, hsublist.subset hmem, by rw [← h.assemble_eq, hstore]⟩
  · intro localLines usageLines hlocal husage policy
    rw [stores, stores, listing_of_reports hlocal hmounts, listing_of_reports husage hmounts]
    refine ⟨_, _, rfl, rfl, ?_⟩
    rw [map_place_storesOf host policy localLines usageLines]
    exact ((filter_local_sublist policy (Mount.ofTable mountLines)).filterMap _).map place

/-! ### A host with a remote mount -/

def mixedHost : Host :=
  .ofReports ["/dev/hd4 1441792 18137 58071"]
    ["  /dev/hd4 / jfs2 Jun 16 09:12 rw", "  /dev/hd3 /tmp jfs2 Jun 16 09:12 rw",
      "foo /export /mnt nfs Jun 16 09:13 rw"]
    fun _ ↦ { reachable := true, total := 4, free := 2, usable := 1 }

/-- The policy that leaves out what is mounted at one path. -/
def without (path : String) : Policy where
  pathExcludes := [⟨path, .sequence (path.toList.map fun c ↦ .literal c.toNat), {}⟩]

/-- The same policy, with its pattern given twice. -/
def withoutTwice (path : String) : Policy :=
  { without path with pathExcludes := (without path).pathExcludes ++ (without path).pathExcludes }

theorem stores_monotone_of_tmp :
    (∃ few many : List Store,
      (stores mixedHost (without "/tmp") false).result = .ok few ∧
      (stores mixedHost {} false).result = .ok many ∧ few.Sublist many ∧
      few.map (·.mount) = ["/", "/mnt"] ∧ many.map (·.mount) = ["/", "/tmp", "/mnt"] ∧
      ∃ store ∈ few, store ∈ many ∧ store.mount = rootPath) ∧
    stores mixedHost (without "/tmp") true = stores mixedHost (withoutTwice "/tmp") true ∧
    ∃ few many : List Store,
      (stores mixedHost {} true).result = .ok few ∧ (stores mixedHost {} false).result = .ok many ∧
      (few.map place).Sublist (many.map place) ∧ few.length = 2 ∧ many.length = 3 := by
  have hmounts : mixedHost.run Mount.tableCommand = .ok _ := Host.run_mountTable _ _ _
  have husage (localOnly : Bool) : mixedHost.run (Usage.reportCommand localOnly) = .ok _ :=
    Host.run_usageReport _ _ _ localOnly
  have hstricter : (without "/tmp").Stricter {} := by
    constructor <;> simp [without]
  have hsame : (without "/tmp").SameSets (withoutTwice "/tmp") := by
    constructor <;> constructor <;> simp [withoutTwice]
  obtain ⟨hpolicies, hsets, hlocal⟩ := stores_monotone hmounts
  refine ⟨?_, hsets _ _ true hsame, ?_⟩
  · obtain ⟨few, many, hfew, hmany, hsublist, hroot⟩ := hpolicies (husage false) _ _ hstricter
    have hfew' : (stores mixedHost (without "/tmp") false).result.map (List.map (·.mount)) =
        .ok ["/", "/mnt"] := by decide +kernel
    have hmany' : (stores mixedHost {} false).result.map (List.map (·.mount)) =
        .ok ["/", "/tmp", "/mnt"] := by decide +kernel
    rw [hfew] at hfew'
    rw [hmany] at hmany'
    obtain ⟨store, hmem, hmem', hstore⟩ := hroot ⟨"/dev/hd4", "/", "jfs2", "rw"⟩
      (by decide +kernel) rfl rfl (by decide) (by decide)
    exact ⟨few, many, hfew, hmany, hsublist, Except.ok.inj hfew', Except.ok.inj hmany', store, hmem,
      hmem', (Store.columns_of_assemble hstore).2.2⟩
  · obtain ⟨few, many, hfew, hmany, hsublist⟩ := hlocal (husage true) (husage false) {}
    have hfew' : (stores mixedHost {} true).result.map List.length = .ok 2 := by decide +kernel
    have hmany' : (stores mixedHost {} false).result.map List.length = .ok 3 := by decide +kernel
    rw [hfew] at hfew'
    rw [hmany] at hmany'
    exact ⟨few, many, hfew, hmany, hsublist, Except.ok.inj hfew', Except.ok.inj hmany'⟩

end Enumeration

end MountCensus
