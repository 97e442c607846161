import MountCensus.Failure
import MountCensus.Pattern.Matcher

/-!
Which mounts are reported. An include outweighs every exclude, and the root is reported whatever the
patterns and its type say; only a listing restricted to local file systems leaves it out.
-/

set_option autoImplicit false

namespace MountCensus

/-- Types of file systems with no storage behind them. -/
def pseudoTypes : List String := [
  "anon_inodefs", "autofs", "bdev", "binfmt_misc", "bpf", "cgroup", "cgroup2", "configfs", "cpuset",
  "dax", "debugfs", "devpts", "devtmpfs", "drvfs", "efivarfs", "fd", "fusectl", "fuse.gvfsd-fuse",
  "hugetlbfs", "mqueue", "namefs", "nsfs", "overlay", "proc", "procfs", "pstore", "rpc_pipefs",
  "securityfs", "selinuxfs", "sunrpc", "sysfs", "systemd-1", "tracefs", "usbfs"]

/-- Types of file systems that are reached over a network. -/
def networkTypes : List String := [
  "afs", "cifs", "gfs", "gfs2", "glusterfs", "ncp", "ncpfs", "nfs", "nfs3", "nfs4", "smbfs",
  "sshfs", "stnfs"]

def rootPath : String := "/"

structure Policy where
  pathIncludes : List Pattern.Matcher := []
  pathExcludes : List Pattern.Matcher := []
  volumeIncludes : List Pattern.Matcher := []
  volumeExcludes : List Pattern.Matcher := []
  pseudoTypes : List String := MountCensus.pseudoTypes
  networkTypes : List String := MountCensus.networkTypes
deriving DecidableEq, Repr

namespace Policy

/-- The policy of configured patterns, with the usual types. -/
def ofPatterns (pathIncludes pathExcludes volumeIncludes volumeExcludes : List String) :
    Except Pattern.Fault Policy := do
  let pathIncludes ← Pattern.compileAll pathIncludes
  let pathExcludes ← Pattern.compileAll pathExcludes
  let volumeIncludes ← Pattern.compileAll volumeIncludes
  let volumeExcludes ← Pattern.compileAll volumeExcludes
  return { pathIncludes, pathExcludes, volumeIncludes, volumeExcludes }

/-- How a pattern that cannot be used is told to the one who configured it. -/
def failureOf (fault : Pattern.Fault) : Failure :=
  match fault.cause with
  | .defect .. =>
    ⟨.badParameter, "Invalid value: Invalid file store pattern: " ++ fault.message⟩
  | .repetitionTooLarge => ⟨.overflow, fault.message⟩
  | .tooManyDigits _ | .conflictingAlphabets => ⟨.value, fault.message⟩

/-- The policy of patterns as the program is given them. -/
def ofSettings (pathIncludes pathExcludes volumeIncludes volumeExcludes : List String) :
    Except Failure Policy :=
  (ofPatterns pathIncludes pathExcludes volumeIncludes volumeExcludes).mapError failureOf

def isIncluded (policy : Policy) (path volume : String) : Bool :=
  Pattern.matchesAny path policy.pathIncludes || Pattern.matchesAny volume policy.volumeIncludes

def isExcluded (policy : Policy) (path volume : String) : Bool :=
  !policy.isIncluded path volume &&
    (Pattern.matchesAny path policy.pathExcludes || Pattern.matchesAny volume policy.volumeExcludes)

def isNetwork (policy : Policy) (type : String) : Bool :=
  policy.networkTypes.contains type

def isEligible (policy : Policy) (path volume type : String) (localOnly : Bool) : Bool :=
  !(localOnly && policy.isNetwork type) &&
    (path == rootPath || !(policy.pseudoTypes.contains type || policy.isExcluded path volume))

theorem isExcluded_of_included {policy : Policy} {path volume : String}
    (h : policy.isIncluded path volume) : policy.isExcluded path volume = false := by
  simp [isExcluded, h]

theorem isEligible_root {policy : Policy} (volume type : String) :
    policy.isEligible rootPath volume type false = true := by
  simp [isEligible]

theorem isEligible_of_local {policy : Policy} {path volume type : String}
    (h : policy.isEligible path volume type true) :
    policy.isEligible path volume type false = true := by
  simp_all [isEligible]

end Policy

end MountCensus
