import Mathlib.Tactic.SplitIfs
import MountCensus.Chunk

/-!
When items can be put into chunks: no failure ends the chunks exactly if each item fits into a chunk
of its own (`failure_ofItems_eq_none_iff`). Then the chunks hold the items in order
(`flatten_chunks_ofItems`).
-/

set_option autoImplicit false

namespace MountCensus.Chunked

variable {α : Type} {size : α → Except Failure Nat}

/-- An item that can be written and leaves room for the brackets around it. -/
def Fits (size : α → Except Failure Nat) (limit : Int) (item : α) : Prop :=
  ∃ itemSize, size item = .ok itemSize ∧ (itemSize + bracketSize : Nat) ≤ limit

theorem failure_chunksFrom_of_fits {limit : Nat} (items : List α)
    (hfits : ∀ item ∈ items, Fits size limit item) :
    ∀ (pending : List α) (pendingSize : Nat),
      (chunksFrom size limit pending pendingSize items).failure = none := by
  induction items with
  | nil => exact fun _ _ ↦ rfl
  | cons item items ih =>
    intro pending pendingSize
    obtain ⟨⟨itemSize, hsize, hroom⟩, hmore⟩ := List.forall_mem_cons.mp hfits
    have hsmall : ¬ limit < itemSize + bracketSize := by omega
    rw [chunksFrom, hsize]
    simp only [if_neg hsmall]
    generalize (itemSize + if pending.isEmpty = true then 0 else 1) = added
    split_ifs
    · exact ih hmore _ _
    · exact ih hmore _ _

theorem failure_ofItems_of_fits {limit : Int} (hlimit : 0 < limit) {items : List α}
    (hfits : ∀ item ∈ items, Fits size limit item) : (ofItems size limit items).failure = none := by
  rw [ofItems, if_neg (Int.not_le.mpr hlimit)]
  refine failure_chunksFrom_of_fits items (fun item hitem ↦ ?_) [] bracketSize
  rw [Int.toNat_of_nonneg (Int.le_of_lt hlimit)]
  exact hfits item hitem

theorem fits_of_failure_chunksFrom {limit : Nat} (items : List α) :
    ∀ (pending : List α) (pendingSize : Nat),
      (chunksFrom size limit pending pendingSize items).failure = none →
        ∀ item ∈ items, Fits size limit item := by
  induction items with
  | nil => exact fun _ _ _ item hitem ↦ absurd hitem List.not_mem_nil
  | cons item items ih =>
    intro pending pendingSize hnone
    rw [chunksFrom] at hnone
    cases hsize : size item with
    | error failure => simp [hsize] at hnone
    | ok itemSize =>
      simp only [hsize] at hnone
      generalize (itemSize + if pending.isEmpty = true then 0 else 1) = added at hnone
      split_ifs at hnone with hlarge
      · exact List.forall_mem_cons.mpr ⟨⟨itemSize, hsize, by omega⟩, ih _ _ hnone⟩
      · exact List.forall_mem_cons.mpr ⟨⟨itemSize, hsize, by omega⟩, ih _ _ hnone⟩

/-- No failure ends the chunks exactly if every item fits into a chunk. -/
theorem failure_ofItems_eq_none_iff {limit : Int} (hlimit : 0 < limit) {items : List α} :
    (ofItems size limit items).failure = none ↔ ∀ item ∈ items, Fits size limit item := by
  refine ⟨fun hnone item hitem ↦ ?_, failure_ofItems_of_fits hlimit⟩
  rw [ofItems, if_neg (Int.not_le.mpr hlimit)] at hnone
  have hfits := fits_of_failure_chunksFrom items [] bracketSize hnone item hitem
  rwa [Int.toNat_of_nonneg (Int.le_of_lt hlimit)] at hfits

/-- What ends the chunks is the failure of an item to be written, or its size. -/
theorem failure_chunksFrom_cases {limit : Nat} {failure : Failure} (items : List α) :
    ∀ (pending : List α) (pendingSize : Nat),
      (chunksFrom size limit pending pendingSize items).failure = some failure →
        (∃ item ∈ items, size item = .error failure) ∨
          ∃ itemSize, failure = tooLarge itemSize limit := by
  induction items with
  | nil => exact fun _ _ hsome ↦ by simp [chunksFrom] at hsome
  | cons item items ih =>
    intro pending pendingSize hsome
    rw [chunksFrom] at hsome
    cases hsize : size item with
    | error cause =>
      simp only [hsize, Option.some.injEq] at hsome
      exact .inl ⟨item, List.mem_cons_self, hsome ▸ hsize⟩
    | ok itemSize =>
      simp only [hsize] at hsome
      generalize (itemSize + if pending.isEmpty = true then 0 else 1) = added at hsome
      have hmore (pending : List α) (pendingSize : Nat)
          (h : (chunksFrom size limit pending pendingSize items).failure = some failure) :
          (∃ other ∈ item :: items, size other = .error failure) ∨
            ∃ itemSize, failure = tooLarge itemSize limit := by
        obtain ⟨other, hother, herror⟩ | hlarge := ih pending pendingSize h
        · exact .inl ⟨other, List.mem_cons_of_mem item hother, herror⟩
        · exact .inr hlarge
      split_ifs at hsome
      · exact .inr ⟨itemSize, (Option.some.inj hsome).symm⟩
      · exact hmore _ _ hsome
      · exact hmore _ _ hsome

theorem flatten_chunksFrom {limit : Nat} (items : List α) :
    ∀ (pending : List α) (pendingSize : Nat),
      (chunksFrom size limit pending pendingSize items).failure = none →
        (chunksFrom size limit pending pendingSize items).chunks.flatten = pending ++ items := by
  induction items with
  | nil =>
    intro pending _ _
    cases pending <;> simp [chunksFrom]
  | cons item items ih =>
    intro pending pendingSize hnone
    rw [chunksFrom] at hnone ⊢
    cases hsize : size item with
    | error failure => simp [hsize] at hnone
    | ok itemSize =>
      simp only [hsize] at hnone ⊢
      generalize (itemSize + if pending.isEmpty = true then 0 else 1) = added at hnone ⊢
      split_ifs at hnone ⊢
      · rw [ih _ _ hnone, List.append_assoc, List.singleton_append]
      · rw [List.flatten_cons, ih _ _ hnone, List.singleton_append]

/-- No item is lost, repeated or moved. -/
theorem flatten_chunks_ofItems {limit : Int} {items : List α}
    (hnone : (ofItems size limit items).failure = none) :
    (ofItems size limit items).chunks.flatten = items := by
  unfold ofItems at hnone ⊢
  split_ifs at hnone ⊢
  exact flatten_chunksFrom items [] bracketSize hnone

end MountCensus.Chunked
