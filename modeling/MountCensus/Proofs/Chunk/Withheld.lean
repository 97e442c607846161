import MountCensus.Proofs.Chunk.Fewest

/-!
What has been handed out when an item turns out to fit into no chunk. Up to that item everything is
packed as if the items ended there, but the chunk that is pending then is never handed out
(`Packs.chunksFrom_append_unfit`). So the last chunk of the items in front is withheld, and nothing
else of them is (`ofItems_withholds_last`).
-/

set_option autoImplicit false

namespace MountCensus.Chunked

variable {α : Type} {dump : α → String} {size : α → Except Failure Nat}
variable {pending items before after : List α} {item : α} {chunks : List (List α)}

section Packed

variable {limit : Nat}

/-- What is pending is in one of the chunks. -/
theorem Packs.chunks_ne_nil (h : Packs dump limit pending items chunks) (hpending : pending ≠ []) :
    chunks ≠ [] := by
  induction h with
  | nothing => exact absurd rfl hpending
  | last _ => exact List.cons_ne_nil _ _
  | fill _ _ ih => exact ih (List.append_ne_nil_of_right_ne_nil _ (List.cons_ne_nil _ _))
  | next _ _ _ _ => exact List.cons_ne_nil _ _

/-- An item without room for itself ends the chunks, and the last one is not handed out. -/
theorem Packs.chunksFrom_append_unfit (h : Packs dump limit pending before chunks)
    (hsize : ∀ other ∈ before, size other = .ok (dump other).utf8ByteSize)
    (hitem : size item = .ok (dump item).utf8ByteSize) (hlarge : limit < writtenSize dump [item])
    (after : List α) :
    chunksFrom size limit pending (writtenSize dump pending) (before ++ item :: after) =
      ⟨chunks.dropLast, some (tooLarge (dump item).utf8ByteSize limit)⟩ := by
  induction h with
  | nothing => exact chunksFrom_unfit hitem hlarge after _
  | last _ => exact chunksFrom_unfit hitem hlarge after _
  | fill hroom _ ih =>
    obtain ⟨hfirst, hrest⟩ := List.forall_mem_cons.mp hsize
    rw [List.cons_append, chunksFrom_fill hfirst hroom, ih hrest]
  | next hfull hroom hpacks ih =>
    obtain ⟨hfirst, hrest⟩ := List.forall_mem_cons.mp hsize
    rw [List.cons_append, chunksFrom_next hfirst hfull hroom, ih hrest,
      List.dropLast_cons_of_ne_nil (hpacks.chunks_ne_nil (List.cons_ne_nil _ _))]

end Packed

section Limit

variable {limit : Int}

/-- An item leaves room for brackets exactly if a chunk of it alone stays within the limit. -/
theorem writtenSize_singleton_le_iff :
    (writtenSize dump [item] : Int) ≤ limit ↔ ((dump item).utf8ByteSize : Int) ≤ limit - 2 := by
  rw [writtenSize_singleton, bracketSize]
  omega

theorem ofItems_append_unfit (hlimit : 0 < limit)
    (hsize : ∀ other ∈ before ++ item :: after, size other = .ok (dump other).utf8ByteSize)
    (hfits : ∀ other ∈ before, ((dump other).utf8ByteSize : Int) ≤ limit - 2)
    (hlarge : limit - 2 < (dump item).utf8ByteSize) :
    ∃ chunks, ofItems size limit before = ⟨chunks, none⟩ ∧
      Packs dump limit.toNat [] before chunks ∧
      ofItems size limit (before ++ item :: after) =
        ⟨chunks.dropLast, some (tooLarge (dump item).utf8ByteSize limit.toNat)⟩ := by
  obtain ⟨hbefore, hbehind⟩ := List.forall_mem_append.mp hsize
  obtain ⟨chunks, hchunks, hpacks⟩ := packs_ofItems hlimit hbefore fun other hother ↦
    writtenSize_singleton_le_iff.mpr (hfits other hother)
  have halone : limit.toNat < writtenSize dump [item] := by
    rw [← Int.not_le, ← writtenSize_singleton_le_iff] at hlarge
    omega
  refine ⟨chunks, hchunks, hpacks, ?_⟩
  rw [ofItems, if_neg (Int.not_le.mpr hlimit), ← writtenSize_nil dump]
  exact hpacks.chunksFrom_append_unfit hbefore (hbehind item List.mem_cons_self) halone after

/-- Items that do not all fit have a first one that does not. -/
theorem all_fit_or_first_unfit (dump : α → String) (limit : Int) (items : List α) :
    (∀ item ∈ items, ((dump item).utf8ByteSize : Int) ≤ limit - 2) ∨
      ∃ before item after, items = before ++ item :: after ∧
        (∀ other ∈ before, ((dump other).utf8ByteSize : Int) ≤ limit - 2) ∧
        limit - 2 < (dump item).utf8ByteSize := by
  cases hfind : items.find? fun item ↦ decide (limit - 2 < (dump item).utf8ByteSize) with
  | none =>
    rw [List.find?_eq_none] at hfind
    exact .inl (by simpa using hfind)
  | some item =>
    obtain ⟨hlarge, before, after, hitems, hbefore⟩ := List.find?_eq_some_iff_append.mp hfind
    exact .inr ⟨before, item, after, hitems, by simpa using hbefore, by simpa using hlarge⟩

theorem exists_failure_ofItems_iff
    (hsize : ∀ item ∈ items, size item = .ok (dump item).utf8ByteSize) :
    (∃ failure, (ofItems size limit items).failure = some failure) ↔
      limit ≤ 0 ∨ ∃ item ∈ items, limit - 2 < (dump item).utf8ByteSize := by
  rcases Int.lt_or_le 0 limit with hlimit | hlimit
  · rcases all_fit_or_first_unfit dump limit items with
      hfits | ⟨before, item, after, rfl, hbefore, hlarge⟩
    · obtain ⟨chunks, hchunks, -⟩ := packs_ofItems hlimit hsize fun item hitem ↦
        writtenSize_singleton_le_iff.mpr (hfits item hitem)
      rw [hchunks]
      simpa [Int.not_le.mpr hlimit] using hfits
    · obtain ⟨chunks, -, -, hunfit⟩ := ofItems_append_unfit hlimit hsize hbefore hlarge
      rw [hunfit]
      exact ⟨fun _ ↦ .inr ⟨item, by simp, hlarge⟩, fun _ ↦ ⟨_, rfl⟩⟩
  · rw [ofItems_of_nonpos size hlimit]
    exact ⟨fun _ ↦ .inl hlimit, fun _ ↦ ⟨_, rfl⟩⟩

theorem kind_of_failure_ofItems {failure : Failure}
    (hsize : ∀ item ∈ items, size item = .ok (dump item).utf8ByteSize)
    (hfailure : (ofItems size limit items).failure = some failure) : failure.kind = .value := by
  unfold ofItems at hfailure
  split at hfailure
  · cases hfailure
    rfl
  · rcases failure_chunksFrom_cases items [] _ hfailure with ⟨item, hitem, herror⟩ | ⟨_, rfl⟩
    · nomatch (hsize item hitem).symm.trans herror
    · rfl

/-- Whatever is handed out stays within the limit, also in front of a failure. -/
theorem within_ofItems (hsize : ∀ item ∈ items, size item = .ok (dump item).utf8ByteSize) :
    ∀ chunk ∈ (ofItems size limit items).chunks, (writtenSize dump chunk : Int) ≤ limit := by
  rcases Int.lt_or_le 0 limit with hlimit | hlimit
  · have hwithin {items : List α} {chunks : List (List α)}
        (h : Packs dump limit.toNat [] items chunks) :
        ∀ chunk ∈ chunks, (writtenSize dump chunk : Int) ≤ limit := fun chunk hchunk ↦
      (Int.le_toNat (Int.le_of_lt hlimit)).mp (h.within (fun hne ↦ absurd rfl hne) chunk hchunk)
    rcases all_fit_or_first_unfit dump limit items with
      hfits | ⟨before, item, after, rfl, hbefore, hlarge⟩
    · obtain ⟨chunks, hchunks, hpacks⟩ := packs_ofItems hlimit hsize fun item hitem ↦
        writtenSize_singleton_le_iff.mpr (hfits item hitem)
      rw [hchunks]
      exact hwithin hpacks
    · obtain ⟨chunks, -, hpacks, hunfit⟩ := ofItems_append_unfit hlimit hsize hbefore hlarge
      rw [hunfit]
      exact fun chunk hchunk ↦ hwithin hpacks chunk (List.dropLast_subset _ hchunk)
  · rw [ofItems_of_nonpos size hlimit]
    exact List.forall_mem_nil _

/-- Chunks end with a failure exactly if they may hold nothing or some item does not fit into one,
and then it is about a value. What has been handed out by then stays within the limit. If the chunks
may hold nothing, it is nothing; otherwise it is what is handed out of the items in front of the
first one that does not fit, without the last chunk of them. -/
theorem ofItems_withholds_last
    (hsize : ∀ item ∈ items, size item = .ok (dump item).utf8ByteSize) :
    ((∃ failure, (ofItems size limit items).failure = some failure) ↔
      limit ≤ 0 ∨ ∃ item ∈ items, limit - 2 < (dump item).utf8ByteSize) ∧
    (∀ failure, (ofItems size limit items).failure = some failure → failure.kind = .value) ∧
    (∀ chunk ∈ (ofItems size limit items).chunks, (writtenSize dump chunk : Int) ≤ limit) ∧
    (limit ≤ 0 → (ofItems size limit items).chunks = []) ∧
    ∀ before item after, items = before ++ item :: after → 0 < limit →
      (∀ other ∈ before, ((dump other).utf8ByteSize : Int) ≤ limit - 2) →
      limit - 2 < (dump item).utf8ByteSize →
      (ofItems size limit before).failure = none ∧
      (ofItems size limit items).chunks = (ofItems size limit before).chunks.dropLast ∧
      (before = [] → (ofItems size limit items).chunks = []) ∧
      (before ≠ [] → ∃ withheld, withheld ≠ [] ∧
        (ofItems size limit before).chunks = (ofItems size limit items).chunks ++ [withheld] ∧
        (ofItems size limit items).chunks.flatten ++ withheld = before) := by
  refine ⟨exists_failure_ofItems_iff hsize, fun failure ↦ kind_of_failure_ofItems hsize,
    within_ofItems hsize, fun hlimit ↦ by rw [ofItems_of_nonpos size hlimit], ?_⟩
  rintro before item after rfl hlimit hbefore hlarge
  obtain ⟨chunks, hchunks, hpacks, hunfit⟩ := ofItems_append_unfit hlimit hsize hbefore hlarge
  have hflatten := flatten_chunks_ofItems (congrArg Chunked.failure hchunks)
  rw [hchunks] at hflatten
  rw [hchunks, hunfit]
  refine ⟨rfl, rfl, ?_, fun hne ↦ ?_⟩
  · rintro rfl
    rw [ofItems_nil size hlimit] at hchunks
    cases hchunks
    rfl
  · have hsome : chunks ≠ [] := by
      rintro rfl
      exact hne hflatten.symm
    have hlast := List.dropLast_concat_getLast hsome
    refine ⟨chunks.getLast hsome, hpacks.ne_nil _ (List.getLast_mem hsome), hlast.symm, ?_⟩
    rw [← List.flatten_concat, hlast]
    exact hflatten

/-- Of four items the third one does not fit. The chunk of the second one is withheld. -/
theorem ofItems_withholds_last_of_long :
    ofItems (fun text ↦ .ok text.utf8ByteSize) 7 ["éé", "bb", "cccccc", "d"] =
      ⟨[["éé"]], some (tooLarge 6 7)⟩ ∧
    ∃ withheld, withheld ≠ [] ∧
      (ofItems (fun text : String ↦ .ok text.utf8ByteSize) 7 ["éé", "bb"]).chunks =
        [["éé"]] ++ [withheld] ∧
      [["éé"]].flatten ++ withheld = ["éé", "bb"] := by
  have hsize : ∀ text ∈ ["éé", "bb", "cccccc", "d"],
      (Except.ok text.utf8ByteSize : Except Failure Nat) = .ok (id text).utf8ByteSize :=
    fun _ _ ↦ rfl
  have hbefore : ∀ text ∈ ["éé", "bb"], ((id text).utf8ByteSize : Int) ≤ 7 - 2 := by
    decide +kernel
  have hlarge : (7 : Int) - 2 < (id "cccccc").utf8ByteSize := by decide +kernel
  have hlong : ofItems (fun text : String ↦ .ok text.utf8ByteSize) 7
      ["éé", "bb", "cccccc", "d"] = ⟨[["éé"]], some (tooLarge 6 7)⟩ := rfl
  obtain ⟨-, -, -, -, hfirst⟩ := @ofItems_withholds_last _ _ _ _ 7 hsize
  obtain ⟨-, -, -, hwithheld⟩ :=
    hfirst ["éé", "bb"] "cccccc" ["d"] rfl (by decide) hbefore hlarge
  rw [hlong] at hwithheld
  exact ⟨hlong, hwithheld (List.cons_ne_nil _ _)⟩

end Limit

end MountCensus.Chunked
