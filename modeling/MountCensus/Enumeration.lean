import MountCensus.Descriptors
import MountCensus.Host

/-!
Listing the file stores of a host: the usage report and the mount table are fetched anew every time,
and each selected mount is probed once, in the order of the table. The same host also answers for
the counts of open files.
-/

set_option autoImplicit false

namespace MountCensus.Enumeration

/-- Whether a mount is listed at all, under a policy and perhaps for one name only. -/
def selects (policy : Policy) (name : Option String) (localOnly : Bool) (mount : Mount) : Bool :=
  policy.isEligible mount.path mount.volume mount.type localOnly &&
    name.all (· == Store.displayName mount.path mount.volume)

/-- The stores of the given rows. -/
def storesOf (host : Host) (policy : Policy) (usageLines : List String) (mounts : List Mount) :
    List Store :=
  mounts.filterMap (Store.assemble policy.networkTypes (Usage.ofReport usageLines) host.probe)

def listing (host : Host) (policy : Policy) (name : Option String) (localOnly : Bool) :
    Answer (List Store) :=
  let report := Usage.reportCommand localOnly
  match host.run report with
  | .error failure => ⟨[.command report], .error failure⟩
  | .ok usageLines =>
    match host.run Mount.tableCommand with
    | .error failure => ⟨[.command report, .command Mount.tableCommand], .error failure⟩
    | .ok mountLines =>
      let mounts := (Mount.ofTable mountLines).filter (selects policy name localOnly)
      ⟨.command report :: .command Mount.tableCommand :: mounts.map (.probe ·.path),
        .ok (storesOf host policy usageLines mounts)⟩

def stores (host : Host) (policy : Policy) (localOnly : Bool) : Answer (List Store) :=
  listing host policy none localOnly

def storesNamed (host : Host) (policy : Policy) (name : String) (localOnly : Bool) :
    Answer (List Store) :=
  listing host policy (some name) localOnly

/-- The store as it is now, or none if it is gone. -/
def refresh (host : Host) (policy : Policy) (store : Store) : Answer (Option Store) :=
  (storesNamed host policy store.name false).map fun candidates =>
    candidates.find? fun candidate =>
      candidate.volume == store.volume && candidate.mount == store.mount

def openDescriptors (host : Host) : Answer Int :=
  ⟨[.command Descriptors.listCommand],
    (host.run Descriptors.listCommand).map fun lines => (Descriptors.countOpen lines : Int)⟩

def descriptorLimit (host : Host) : Answer Int :=
  ⟨[.firstLine Descriptors.limitCommand],
    (host.firstLine Descriptors.limitCommand).map Descriptors.limit⟩

def descriptorLimitPerProcess (host : Host) : Answer Int :=
  ⟨[.readLines Descriptors.limitsPath],
    (host.readLines Descriptors.limitsPath).map Descriptors.limitPerProcess⟩

/-- Both answers, the second one asked for only if the first one did not fail. -/
def both {α β : Type} (first : Answer α) (second : Answer β) : Answer (α × β) :=
  match first.result with
  | .error failure => ⟨first.calls, .error failure⟩
  | .ok a => ⟨first.calls ++ second.calls, second.result.map (a, ·)⟩

/-- The number of open files, the limit, and the limit for one process. -/
def descriptors (host : Host) : Answer (Int × Int × Int) :=
  both (openDescriptors host) (both (descriptorLimit host) (descriptorLimitPerProcess host))

theorem selects_none (policy : Policy) (localOnly : Bool) (mount : Mount) :
    selects policy none localOnly mount =
      policy.isEligible mount.path mount.volume mount.type localOnly := by
  simp [selects]

theorem storesOf_append (host : Host) (policy : Policy) (usageLines : List String)
    (xs ys : List Mount) :
    storesOf host policy usageLines (xs ++ ys) =
      storesOf host policy usageLines xs ++ storesOf host policy usageLines ys := by
  simp [storesOf]

end MountCensus.Enumeration
