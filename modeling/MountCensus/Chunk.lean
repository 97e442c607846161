import MountCensus.Failure

/-!
Items put into chunks whose written lists stay within a number of bytes: brackets around the items
and a comma between them count too. An item that does not fit ends the chunks; what was pending is
then not handed out.
-/

set_option autoImplicit false

namespace MountCensus

/-- The chunks handed out, and the failure that ended them, if any. -/
structure Chunked (α : Type) where
  chunks : List (List α)
  failure : Option Failure
deriving Repr

namespace Chunked

/-- The brackets around a list. -/
def bracketSize : Nat := 2

def badLimit (limit : Int) : Failure :=
  ⟨.value, "Size hint must be a positive integer, but got " ++ toString limit⟩

def tooLarge (size limit : Nat) : Failure :=
  ⟨.value, "Got item of size " ++ toString size ++ " which is not less than " ++ toString limit ++
    " - " ++ toString bracketSize ++ " bytes"⟩

variable {α : Type}

/-- The chunks of the items that are left, where a chunk of the given size is pending. -/
def chunksFrom (size : α → Except Failure Nat) (limit : Nat) (pending : List α)
    (pendingSize : Nat) : List α → Chunked α
  | [] => ⟨if pending.isEmpty then [] else [pending], none⟩
  | item :: rest =>
    match size item with
    | .error failure => ⟨[], some failure⟩
    | .ok itemSize =>
      if limit < itemSize + bracketSize then ⟨[], some (tooLarge itemSize limit)⟩
      else
        let added := itemSize + if pending.isEmpty then 0 else 1
        if pendingSize + added ≤ limit then
          chunksFrom size limit (pending ++ [item]) (pendingSize + added) rest
        else
          let further := chunksFrom size limit [item] (itemSize + bracketSize) rest
          { further with chunks := pending :: further.chunks }

/-- The items in as few chunks as possible, given the size of each as written. -/
def ofItems (size : α → Except Failure Nat) (limit : Int) (items : List α) : Chunked α :=
  if limit ≤ 0 then ⟨[], some (badLimit limit)⟩
  else chunksFrom size limit.toNat [] bracketSize items

theorem ofItems_nil (size : α → Except Failure Nat) {limit : Int} (h : 0 < limit) :
    ofItems size limit [] = ⟨[], none⟩ := by
  simp [ofItems, chunksFrom, Int.not_le.mpr h]

theorem ofItems_of_nonpos (size : α → Except Failure Nat) {limit : Int} (h : limit ≤ 0)
    (items : List α) : ofItems size limit items = ⟨[], some (badLimit limit)⟩ := by
  simp [ofItems, h]

end Chunked

end MountCensus
