import Mathlib.Data.List.Find
import MountCensus.Proofs.Enumeration.Selection

/-!
Refreshing a store. The stores of its name are listed anew, and the first of them at its place is
the fresh one. A listed store is named after its place (`name_of_storesOf`), so the name rules out
no store at the place unless the store to be refreshed is named otherwise (`result_refresh`). Hence
a listed store is always found again, and a fresh store refreshes to itself (`refresh_finds_place`).
-/

set_option autoImplicit false

namespace MountCensus.Enumeration

variable {host : Host} {policy : Policy} {usageLines mountLines : List String}
  {listed : List Store} {store fresh : Store}

/-- Whether two stores are of the same volume, mounted at the same path. -/
def AtSamePlace (store other : Store) : Prop :=
  store.volume = other.volume ∧ store.mount = other.mount

instance (store other : Store) : Decidable (AtSamePlace store other) :=
  inferInstanceAs (Decidable (_ ∧ _))

theorem AtSamePlace.congr {store fresh : Store} (h : AtSamePlace fresh store) (other : Store) :
    AtSamePlace other fresh ↔ AtSamePlace other store := by
  rw [AtSamePlace, h.1, h.2, AtSamePlace]

theorem name_of_storesOf {mounts : List Mount}
    (h : store ∈ storesOf host policy usageLines mounts) :
    store.name = Store.displayName store.mount store.volume := by
  obtain ⟨mount, -, hassembled⟩ := List.mem_filterMap.mp h
  exact Store.name_of_assemble hassembled

/-- Among stores that are named after their places, the name of a store and its place are looked for
at once: if the name is that of the place it adds nothing, otherwise nothing is found. -/
theorem find?_filter_name
    (hlisted : ∀ other ∈ listed, other.name = Store.displayName other.mount other.volume)
    (store : Store) :
    (listed.filter (·.name == store.name)).find? (AtSamePlace · store) =
      if store.name = Store.displayName store.mount store.volume then
        listed.find? (AtSamePlace · store)
      else none := by
  have hname {other : Store} (hother : other ∈ listed) (hplace : AtSamePlace other store) :
      other.name = Store.displayName store.mount store.volume := by
    rw [hlisted other hother, hplace.1, hplace.2]
  rw [List.find?_filter]
  split_ifs with hstore
  · refine List.find?_congr fun other hother ↦ ?_
    simp only [beq_iff_eq, decide_eq_true_eq, decide_eq_decide, and_iff_right_iff_imp]
    exact fun hplace ↦ (hname hother hplace).trans hstore.symm
  · rw [List.find?_eq_none]
    intro other hother hfound
    simp only [beq_iff_eq, decide_eq_true_eq] at hfound
    exact hstore (hfound.1.symm.trans (hname hother hfound.2))

theorem refresh_eq (host : Host) (policy : Policy) (store : Store) :
    refresh host policy store =
      (storesNamed host policy store.name false).map (List.find? (AtSamePlace · store)) := by
  have hplace (other : Store) :
      (other.volume == store.volume && other.mount == store.mount) =
        decide (AtSamePlace other store) := by
    rw [Bool.beq_eq_decide_eq, Bool.beq_eq_decide_eq, ← Bool.decide_and]
    rfl
  rw [refresh]
  simp only [hplace]

section Reports

variable (husage : host.run (Usage.reportCommand false) = .ok usageLines)
  (hmounts : host.run Mount.tableCommand = .ok mountLines)

include husage hmounts

/-- Refreshing looks a store up in the full listing, by its place and only if that is its name. -/
theorem result_refresh (policy : Policy) :
    ∃ listed, (stores host policy false).result = .ok listed ∧
      (∀ store ∈ listed, store.name = Store.displayName store.mount store.volume) ∧
      ∀ store, (refresh host policy store).result =
        .ok (if store.name = Store.displayName store.mount store.volume then
          listed.find? (AtSamePlace · store) else none) := by
  refine ⟨_, congrArg Answer.result (listing_of_reports husage hmounts policy none),
    fun store ↦ name_of_storesOf, fun store ↦ ?_⟩
  rw [refresh_eq, storesNamed, listing_of_reports husage hmounts, filter_selects,
    storesOf_filter_name]
  exact congrArg Except.ok (find?_filter_name (fun other ↦ name_of_storesOf) store)

/-- A store is refreshed to the first listed store at its place if it is named after its place, and
to none if it is not or there is no such store. So a listed store is always found again. What a
store is refreshed to has its name and its place and is refreshed to itself. -/
theorem refresh_finds_place (policy : Policy) :
    ∃ listed, (stores host policy false).result = .ok listed ∧
      (∀ store, (refresh host policy store).result =
        .ok (if store.name = Store.displayName store.mount store.volume then
          listed.find? (AtSamePlace · store) else none)) ∧
      (∀ store ∈ listed, ∃ fresh, (refresh host policy store).result = .ok (some fresh)) ∧
      ∀ store fresh, (refresh host policy store).result = .ok (some fresh) →
        fresh ∈ listed ∧ fresh.name = store.name ∧ AtSamePlace fresh store ∧
          (refresh host policy fresh).result = .ok (some fresh) := by
  obtain ⟨listed, hresult, hnames, hrefresh⟩ := result_refresh husage hmounts policy
  refine ⟨listed, hresult, hrefresh, fun store hstore ↦ ?_, fun store fresh hfresh ↦ ?_⟩
  · have hfound : (listed.find? (AtSamePlace · store)).isSome = true :=
      List.find?_isSome.mpr ⟨store, hstore, by simp [AtSamePlace]⟩
    obtain ⟨fresh, hfresh⟩ := Option.isSome_iff_exists.mp hfound
    exact ⟨fresh, by rw [hrefresh, if_pos (hnames store hstore), hfresh]⟩
  · rw [hrefresh, Except.ok.injEq, Option.ite_none_right_eq_some] at hfresh
    obtain ⟨hname, hfound⟩ := hfresh
    have hlisted := List.mem_of_find?_eq_some hfound
    have hplace : AtSamePlace fresh store := by simpa using List.find?_some hfound
    have hsame : listed.find? (AtSamePlace · fresh) = listed.find? (AtSamePlace · store) :=
      List.find?_congr fun other _ ↦ decide_eq_decide.mpr (hplace.congr other)
    refine ⟨hlisted, ?_, hplace, ?_⟩
    · rw [hnames fresh hlisted, hplace.1, hplace.2, hname]
    · rw [hrefresh, if_pos (hnames fresh hlisted), hsame, hfound]

end Reports

/-! ### A host with two rows for one place -/

/-- The second and the third row are of one place, the last one has their name only. -/
def doubledHost : Host :=
  .ofReports [] ["  /dev/hd4 / jfs2 Jun 16 09:12 rw", "  /dev/hd1 /data jfs2 Jun 16 09:12 rw",
      "  /dev/hd1 /data jfs2 Jun 16 09:13 ro", "  /dev/hd2 /old/data jfs2 Jun 16 09:13 log"]
    fun _ ↦ { reachable := true, total := 4, free := 2, usable := 1 }

def doubledStore (name volume path options : String) : Store where
  name
  volume
  label := name
  mount := path
  options
  description := "Local Disk"
  type := "jfs2"
  freeSpace := 2
  usableSpace := 1
  totalSpace := 4
  freeInodes := 0
  totalInodes := 0

/-- The stores of the four rows. -/
def doubledStores : List Store := [
  doubledStore "hd4" "/dev/hd4" "/" "rw", doubledStore "data" "/dev/hd1" "/data" "rw",
  doubledStore "data" "/dev/hd1" "/data" "ro", doubledStore "data" "/dev/hd2" "/old/data" "log"]

/-- The third store is refreshed to the second one, and a store of another name to none. -/
theorem refresh_finds_place_of_doubled :
    (stores doubledHost {} false).result = .ok doubledStores ∧
    (refresh doubledHost {} (doubledStore "data" "/dev/hd1" "/data" "ro")).result =
      .ok (some (doubledStore "data" "/dev/hd1" "/data" "rw")) ∧
    (refresh doubledHost {} (doubledStore "data" "/dev/hd1" "/data" "rw")).result =
      .ok (some (doubledStore "data" "/dev/hd1" "/data" "rw")) ∧
    (refresh doubledHost {} (doubledStore "disk" "/dev/hd1" "/data" "rw")).result = .ok none := by
  have husage : doubledHost.run (Usage.reportCommand false) = .ok _ :=
    Host.run_usageReport _ _ _ false
  have hmounts : doubledHost.run Mount.tableCommand = .ok _ := Host.run_mountTable _ _ _
  have hlisted : (stores doubledHost {} false).result = .ok doubledStores := by decide +kernel
  obtain ⟨listed, hresult, hrefresh, -, hfresh⟩ := refresh_finds_place husage hmounts {}
  obtain rfl := Except.ok.inj (hlisted.symm.trans hresult)
  have hthird : (refresh doubledHost {} (doubledStore "data" "/dev/hd1" "/data" "ro")).result =
      .ok (some (doubledStore "data" "/dev/hd1" "/data" "rw")) := by
    rw [hrefresh]
    decide +kernel
  refine ⟨hlisted, hthird, (hfresh _ _ hthird).2.2.2, ?_⟩
  rw [hrefresh]
  decide +kernel

end MountCensus.Enumeration
