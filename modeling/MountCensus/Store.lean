import MountCensus.Mount
import MountCensus.Policy
import MountCensus.Text.Search
import MountCensus.Usage

/-!
File stores: a mount joined with the inode usage of its volume and the capacity found at its path. A
mount whose path cannot be probed gives no store.
-/

set_option autoImplicit false

namespace MountCensus

/-- Sizes in bytes; a path that could not be probed is not reachable. -/
structure Capacity where
  reachable : Bool
  total : Int := 0
  free : Int := 0
  usable : Int := 0
deriving DecidableEq, Repr

/-- What cannot be probed. -/
def Capacity.unreachable : Capacity :=
  { reachable := false }

/-- A capacity given as numbers of blocks of a size. -/
def Capacity.ofBlocks (blocks free available size : Int) : Capacity where
  reachable := true
  total := blocks * size
  free := free * size
  usable := available * size

structure Store where
  name : String
  volume : String
  label : String
  mount : String
  options : String
  description : String
  type : String
  freeSpace : Int
  usableSpace : Int
  totalSpace : Int
  freeInodes : Int
  totalInodes : Int
deriving DecidableEq, Repr

namespace Store

def lastComponent (path : String) : String :=
  String.ofList (Text.afterLast '/' path.toList)

/-- The last component of the path, or that of the volume if the path ends in a slash. -/
def displayName (path volume : String) : String :=
  let name := lastComponent path
  if name.isEmpty then lastComponent volume else name

def deviceMark : List Char := "/dev".toList

def memoryVolume : String := "tmpfs"

def describe (networkTypes : List String) (path volume type : String) : String :=
  if deviceMark.isPrefixOf volume.toList || path == rootPath then "Local Disk"
  else if volume == memoryVolume then "Ram Disk"
  else if networkTypes.contains type then "Network Disk"
  else "Mount Point"

/-- The store of a mount, unless its path could not be probed. -/
def assemble (networkTypes : List String) (usage : Usage.Table) (probe : String → Capacity)
    (mount : Mount) : Option Store :=
  let capacity := probe mount.path
  if !capacity.reachable || capacity.total < 0 then none
  else
    let name := displayName mount.path mount.volume
    let inodes := usage.usageOf mount.volume
    some {
      name
      volume := mount.volume
      label := name
      mount := mount.path
      options := mount.options
      description := describe networkTypes mount.path mount.volume mount.type
      type := mount.type
      freeSpace := capacity.free
      usableSpace := capacity.usable
      totalSpace := capacity.total
      freeInodes := inodes.freeInodes
      totalInodes := inodes.totalInodes }

theorem assemble_eq_none_iff {networkTypes : List String} {usage : Usage.Table}
    {probe : String → Capacity} {mount : Mount} :
    assemble networkTypes usage probe mount = none ↔
      (probe mount.path).reachable = false ∨ (probe mount.path).total < 0 := by
  cases h : (probe mount.path).reachable <;> simp [assemble, h]

theorem name_of_assemble {networkTypes : List String} {usage : Usage.Table}
    {probe : String → Capacity} {mount : Mount} {store : Store}
    (h : assemble networkTypes usage probe mount = some store) :
    store.name = displayName store.mount store.volume := by
  simp only [assemble, Option.ite_none_left_eq_some, Option.some.injEq] at h
  rw [← h.2]

end Store

end MountCensus
