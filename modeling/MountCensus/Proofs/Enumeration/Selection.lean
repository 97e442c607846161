import Mathlib.Data.List.Basic
import MountCensus.Enumeration

/-!
What a listing asks and answers, row by row. Its calls are the two commands and one probe for each
selected row that it gets to see (`calls_listing`); its stores carry the columns of their rows
(`columns_of_assemble`). So the stores of one name are found without looking at any other row
(`storesNamed_eq_filter`).
-/

set_option autoImplicit false

namespace MountCensus

namespace Store

variable {networkTypes : List String} {usage : Usage.Table} {probe : String → Capacity}
variable {mount : Mount} {store : Store}

/-- A store tells of its mount. -/
theorem columns_of_assemble (h : assemble networkTypes usage probe mount = some store) :
    store.name = displayName mount.path mount.volume ∧ store.volume = mount.volume ∧
      store.mount = mount.path := by
  simp only [assemble, Option.ite_none_left_eq_some, Option.some.injEq] at h
  obtain ⟨-, rfl⟩ := h
  simp only [and_self]

end Store

/-- A host whose commands print the given reports, whatever the listing. -/
def Host.ofReports (usageLines mountLines : List String) (probe : String → Capacity) : Host where
  run words := .ok (if words = Mount.tableCommand then mountLines else usageLines)
  firstLine _ := .ok ""
  readLines _ := .ok []
  probe

theorem Host.run_usageReport (usageLines mountLines : List String) (probe : String → Capacity)
    (localOnly : Bool) :
    (ofReports usageLines mountLines probe).run (Usage.reportCommand localOnly) =
      .ok usageLines := by
  have hne : Usage.reportCommand localOnly ≠ Mount.tableCommand := by cases localOnly <;> decide
  simp only [ofReports, if_neg hne]

theorem Host.run_mountTable (usageLines mountLines : List String) (probe : String → Capacity) :
    (ofReports usageLines mountLines probe).run Mount.tableCommand = .ok mountLines := by
  simp only [ofReports, if_pos]

/-- The paths that were probed to find an answer. -/
def Answer.probes {α : Type} (answer : Answer α) : List String :=
  answer.calls.filterMap fun
    | .probe path => some path
    | _ => none

namespace Enumeration

/-! ### The calls of a listing -/

/-- The commands of a listing. The mount table is asked for only when there is a usage report. -/
def commandCalls (host : Host) (localOnly : Bool) : List HostCall :=
  .command (Usage.reportCommand localOnly) ::
    match host.run (Usage.reportCommand localOnly) with
    | .error _ => []
    | .ok _ => [.command Mount.tableCommand]

/-- The rows of the mount table that a listing gets to see. -/
def seenRows (host : Host) (localOnly : Bool) : List Mount :=
  match host.run (Usage.reportCommand localOnly), host.run Mount.tableCommand with
  | .ok _, .ok mountLines => Mount.ofTable mountLines
  | _, _ => []

/-- The rows that the full listing selects. -/
def eligibleRows (host : Host) (policy : Policy) (localOnly : Bool) : List Mount :=
  (seenRows host localOnly).filter fun mount ↦
    policy.isEligible mount.path mount.volume mount.type localOnly

theorem listing_of_reports {host : Host} {localOnly : Bool} {usageLines mountLines : List String}
    (husage : host.run (Usage.reportCommand localOnly) = .ok usageLines)
    (hmounts : host.run Mount.tableCommand = .ok mountLines) (policy : Policy)
    (name : Option String) :
    listing host policy name localOnly =
      ⟨.command (Usage.reportCommand localOnly) :: .command Mount.tableCommand ::
          ((Mount.ofTable mountLines).filter (selects policy name localOnly)).map (.probe ·.path),
        .ok (storesOf host policy usageLines
          ((Mount.ofTable mountLines).filter (selects policy name localOnly)))⟩ := by
  simp only [listing, husage, hmounts]

theorem calls_listing (host : Host) (policy : Policy) (name : Option String) (localOnly : Bool) :
    (listing host policy name localOnly).calls =
      commandCalls host localOnly ++
        ((seenRows host localOnly).filter (selects policy name localOnly)).map (.probe ·.path) := by
  cases husage : host.run (Usage.reportCommand localOnly) with
  | error failure => simp [listing, commandCalls, seenRows, husage]
  | ok usageLines =>
    cases hmounts : host.run Mount.tableCommand with
    | error failure => simp [listing, commandCalls, seenRows, husage, hmounts]
    | ok mountLines =>
      rw [listing_of_reports husage hmounts]
      simp [commandCalls, seenRows, husage, hmounts]

/-! ### The stores of one name -/

theorem filter_selects (policy : Policy) (name : String) (localOnly : Bool) (mounts : List Mount) :
    mounts.filter (selects policy (some name) localOnly) =
      (mounts.filter (selects policy none localOnly)).filter fun mount ↦
        Store.displayName mount.path mount.volume == name := by
  rw [List.filter_filter]
  refine List.filter_congr fun mount _ ↦ ?_
  rw [selects_none, selects, Option.all_some, Bool.and_comm, Bool.beq_comm]

/-- The name of a store is known before it is assembled. -/
theorem storesOf_filter_name (host : Host) (policy : Policy) (usageLines : List String)
    (name : String) (mounts : List Mount) :
    storesOf host policy usageLines
        (mounts.filter fun mount ↦ Store.displayName mount.path mount.volume == name) =
      (storesOf host policy usageLines mounts).filter (·.name == name) := by
  unfold storesOf
  rw [List.filterMap_filter, List.filter_filterMap]
  refine List.filterMap_congr fun mount _ ↦ ?_
  cases hstore :
    Store.assemble policy.networkTypes (Usage.ofReport usageLines) host.probe mount with
  | none => simp
  | some store =>
    rw [← (Store.columns_of_assemble hstore).1]
    simp [Option.filter_some]

theorem eligibleRows_eq (host : Host) (policy : Policy) (localOnly : Bool) :
    eligibleRows host policy localOnly =
      (seenRows host localOnly).filter (selects policy none localOnly) := by
  refine List.filter_congr fun mount _ ↦ ?_
  rw [selects_none]

/-- A listing for one name answers with the stores of the full listing that have it, and fails as
the full listing does. The two run the same commands; the full listing probes the eligible rows,
the other one those among them that have the name. -/
theorem storesNamed_eq_filter (host : Host) (policy : Policy) (name : String) (localOnly : Bool) :
    (storesNamed host policy name localOnly).result =
      (stores host policy localOnly).result.map (List.filter (·.name == name)) ∧
    (stores host policy localOnly).calls =
      commandCalls host localOnly ++ (eligibleRows host policy localOnly).map (.probe ·.path) ∧
    (storesNamed host policy name localOnly).calls =
      commandCalls host localOnly ++
        ((eligibleRows host policy localOnly).filter fun mount ↦
          Store.displayName mount.path mount.volume == name).map (.probe ·.path) := by
  refine ⟨?_, ?_, ?_⟩
  · cases husage : host.run (Usage.reportCommand localOnly) with
    | error failure => simp only [storesNamed, stores, listing, husage, Except.map]
    | ok usageLines =>
      cases hmounts : host.run Mount.tableCommand with
      | error failure => simp only [storesNamed, stores, listing, husage, hmounts, Except.map]
      | ok mountLines =>
        rw [storesNamed, stores, listing_of_reports husage hmounts,
          listing_of_reports husage hmounts, filter_selects, storesOf_filter_name]
        rfl
  · rw [stores, calls_listing, eligibleRows_eq]
  · rw [storesNamed, calls_listing, filter_selects, eligibleRows_eq]

end Enumeration

end MountCensus
