import MountCensus.Proofs.Chunk

/-!
No division of a list into consecutive chunks has fewer of them than the chunks handed out. The
chunks are packed from left to right, and a chunk ends only before an item for which it has no room
(`packs_ofItems`). So a chunk of any other division that begins no later also ends no later, and the
other division cannot get ahead (`Packs.length_le`).
-/

set_option autoImplicit false

namespace MountCensus.Chunked

variable {α : Type}

/-! ### The size of a written chunk -/

/-- The size in bytes of a chunk written as a list, with nothing but a comma between two items. -/
def writtenSize (dump : α → String) (chunk : List α) : Nat :=
  ("[" ++ ",".intercalate (chunk.map dump) ++ "]").utf8ByteSize

variable {dump : α → String} {chunk pending items : List α} {item : α}

theorem utf8ByteSize_intercalate_comma (texts : List String) :
    (",".intercalate texts).utf8ByteSize =
      (String.join texts).utf8ByteSize + (texts.length - 1) := by
  induction texts with
  | nil => rfl
  | cons text texts ih =>
    cases texts with
    | nil => simp
    | cons second texts =>
      have hcomma : ",".utf8ByteSize = 1 := rfl
      rw [String.intercalate_cons_cons, String.utf8ByteSize_append, String.utf8ByteSize_append, ih,
        hcomma]
      simp only [String.join_cons, String.utf8ByteSize_append, List.length_cons]
      omega

theorem writtenSize_eq (dump : α → String) (chunk : List α) :
    writtenSize dump chunk =
      bracketSize + (String.join (chunk.map dump)).utf8ByteSize + (chunk.length - 1) := by
  have hbrackets : "[".utf8ByteSize = 1 ∧ "]".utf8ByteSize = 1 := ⟨rfl, rfl⟩
  rw [writtenSize, String.utf8ByteSize_append, String.utf8ByteSize_append, hbrackets.1,
    hbrackets.2, utf8ByteSize_intercalate_comma, List.length_map, bracketSize]
  omega

theorem writtenSize_nil (dump : α → String) : writtenSize dump [] = bracketSize := by
  simp [writtenSize_eq]

theorem writtenSize_singleton (dump : α → String) (item : α) :
    writtenSize dump [item] = (dump item).utf8ByteSize + bracketSize := by
  simp [writtenSize_eq, Nat.add_comm]

/-- An item takes its own size, and a comma unless it is the first. -/
theorem writtenSize_concat (dump : α → String) (chunk : List α) (item : α) :
    writtenSize dump (chunk ++ [item]) =
      writtenSize dump chunk + ((dump item).utf8ByteSize + if chunk.isEmpty then 0 else 1) := by
  cases chunk with
  | nil => rw [List.nil_append, writtenSize_singleton, writtenSize_nil]; exact Nat.add_comm _ _
  | cons first chunk =>
    simp only [writtenSize_eq, List.map_append, String.join_append, String.utf8ByteSize_append,
      List.length_append, List.length_cons, List.map_cons, List.map_nil, String.join_cons,
      String.join_nil, String.append_empty, List.length_nil, List.isEmpty_cons,
      Bool.false_eq_true, if_false]
    omega

/-- A part of a chunk takes no more room than the chunk. -/
theorem writtenSize_le_of_isInfix {part : List α} (h : part <:+: chunk) :
    writtenSize dump part ≤ writtenSize dump chunk := by
  obtain ⟨before, after, rfl⟩ := h
  simp only [writtenSize_eq, List.map_append, String.join_append, String.utf8ByteSize_append,
    List.length_append]
  omega

/-! ### Chunks packed from left to right -/

/-- The chunks of some items, packed into what is pending as long as there is room for the next
item and into a new chunk when there is none. -/
inductive Packs (dump : α → String) (limit : Nat) :
    List α → List α → List (List α) → Prop where
  | nothing : Packs dump limit [] [] []
  | last {pending : List α} : pending ≠ [] → Packs dump limit pending [] [pending]
  | fill {pending : List α} {item : α} {rest : List α} {chunks : List (List α)} :
      writtenSize dump (pending ++ [item]) ≤ limit →
      Packs dump limit (pending ++ [item]) rest chunks →
      Packs dump limit pending (item :: rest) chunks
  | next {pending : List α} {item : α} {rest : List α} {chunks : List (List α)} :
      limit < writtenSize dump (pending ++ [item]) → writtenSize dump [item] ≤ limit →
      Packs dump limit [item] rest chunks →
      Packs dump limit pending (item :: rest) (pending :: chunks)

variable {limit : Nat} {chunks : List (List α)} {size : α → Except Failure Nat}

/-! An item either goes into the chunk that is pending, or begins the next one, or fits nowhere. -/

section Step

variable (hsize : size item = .ok (dump item).utf8ByteSize)

include hsize

theorem chunksFrom_fill (hroom : writtenSize dump (pending ++ [item]) ≤ limit) (rest : List α) :
    chunksFrom size limit pending (writtenSize dump pending) (item :: rest) =
      chunksFrom size limit (pending ++ [item]) (writtenSize dump (pending ++ [item])) rest := by
  have halone : writtenSize dump [item] ≤ writtenSize dump (pending ++ [item]) :=
    writtenSize_le_of_isInfix ⟨pending, [], by simp⟩
  rw [chunksFrom, hsize]
  simp only [← writtenSize_concat, ← writtenSize_singleton, if_pos hroom,
    if_neg (Nat.not_lt.mpr (Nat.le_trans halone hroom))]

theorem chunksFrom_next (hfull : limit < writtenSize dump (pending ++ [item]))
    (hroom : writtenSize dump [item] ≤ limit) (rest : List α) :
    chunksFrom size limit pending (writtenSize dump pending) (item :: rest) =
      { chunksFrom size limit [item] (writtenSize dump [item]) rest with
        chunks :=
          pending :: (chunksFrom size limit [item] (writtenSize dump [item]) rest).chunks } := by
  rw [chunksFrom, hsize]
  simp only [← writtenSize_concat, ← writtenSize_singleton, if_neg (Nat.not_le.mpr hfull),
    if_neg (Nat.not_lt.mpr hroom)]

theorem chunksFrom_unfit (hlarge : limit < writtenSize dump [item]) (rest : List α)
    (pendingSize : Nat) :
    chunksFrom size limit pending pendingSize (item :: rest) =
      ⟨[], some (tooLarge (dump item).utf8ByteSize limit)⟩ := by
  rw [chunksFrom, hsize]
  simp only [← writtenSize_singleton, if_pos hlarge]

end Step

theorem packs_chunksFrom
    (hsize : ∀ item ∈ items, size item = .ok (dump item).utf8ByteSize)
    (hfits : ∀ item ∈ items, writtenSize dump [item] ≤ limit) (pending : List α) :
    ∃ chunks, chunksFrom size limit pending (writtenSize dump pending) items = ⟨chunks, none⟩ ∧
      Packs dump limit pending items chunks := by
  induction items generalizing pending with
  | nil =>
    cases pending with
    | nil => exact ⟨[], rfl, .nothing⟩
    | cons first pending => exact ⟨[first :: pending], rfl, .last (List.cons_ne_nil _ _)⟩
  | cons item rest ih =>
    obtain ⟨hitem, hrest⟩ := List.forall_mem_cons.mp hsize
    obtain ⟨hroom, hmore⟩ := List.forall_mem_cons.mp hfits
    by_cases hfull : writtenSize dump (pending ++ [item]) ≤ limit
    · obtain ⟨chunks, hchunks, hpacks⟩ := ih hrest hmore (pending ++ [item])
      exact ⟨chunks, by rw [chunksFrom_fill hitem hfull, hchunks], .fill hfull hpacks⟩
    · rw [Nat.not_le] at hfull
      obtain ⟨chunks, hchunks, hpacks⟩ := ih hrest hmore [item]
      exact ⟨pending :: chunks, by rw [chunksFrom_next hitem hfull hroom, hchunks],
        .next hfull hroom hpacks⟩

theorem packs_ofItems {limit : Int} (hlimit : 0 < limit)
    (hsize : ∀ item ∈ items, size item = .ok (dump item).utf8ByteSize)
    (hfits : ∀ item ∈ items, (writtenSize dump [item] : Int) ≤ limit) :
    ∃ chunks, ofItems size limit items = ⟨chunks, none⟩ ∧
      Packs dump limit.toNat [] items chunks := by
  rw [ofItems, if_neg (Int.not_le.mpr hlimit), ← writtenSize_nil dump]
  refine packs_chunksFrom hsize (fun item hitem ↦ ?_) []
  exact (Int.le_toNat (Int.le_of_lt hlimit)).mpr (hfits item hitem)

/-- What is pending is only handed out when something is. -/
theorem Packs.ne_nil (h : Packs dump limit pending items chunks) :
    ∀ chunk ∈ chunks, chunk ≠ [] := by
  induction h with
  | nothing => exact List.forall_mem_nil _
  | last hpending => exact List.forall_mem_singleton.mpr hpending
  | fill _ _ ih => exact ih
  | next hfull hroom _ ih =>
    refine List.forall_mem_cons.mpr ⟨?_, ih⟩
    rintro rfl
    exact absurd hroom (Nat.not_le.mpr hfull)

theorem Packs.within (h : Packs dump limit pending items chunks)
    (hpending : pending ≠ [] → writtenSize dump pending ≤ limit) :
    ∀ chunk ∈ chunks, writtenSize dump chunk ≤ limit := by
  induction h with
  | nothing => exact List.forall_mem_nil _
  | last hsome => exact List.forall_mem_singleton.mpr (hpending hsome)
  | fill hroom _ ih => exact ih fun _ ↦ hroom
  | next hfull hroom _ ih =>
    refine List.forall_mem_cons.mpr ⟨hpending ?_, ih fun _ ↦ hroom⟩
    rintro rfl
    exact absurd hroom (Nat.not_le.mpr hfull)

/-! ### No division has fewer chunks -/

/-- A chunk that may not hold a whole beginning of the items ends within that beginning. -/
theorem exists_rest_of_writtenSize_lt {begun rest after : List α}
    (hitems : chunk ++ after = begun ++ item :: rest)
    (hsize : writtenSize dump chunk < writtenSize dump (begun ++ [item])) :
    ∃ later, after = later ++ item :: rest := by
  rcases List.append_eq_append_iff.mp hitems with ⟨later, -, hafter⟩ | ⟨more, hchunk, hmore⟩
  · exact ⟨later, hafter⟩
  · cases more with
    | nil => exact ⟨[], hmore.symm⟩
    | cons first more =>
      obtain ⟨rfl, -⟩ := List.cons.inj hmore
      have hinfix : begun ++ [item] <:+: chunk := ⟨[], more, by simp [hchunk]⟩
      exact absurd (writtenSize_le_of_isInfix hinfix) (Nat.not_le.mpr hsize)

/-- The other division may have begun earlier. -/
theorem Packs.length_le (h : Packs dump limit pending items chunks) {others : List (List α)}
    {before : List α} (hflatten : others.flatten = before ++ pending ++ items)
    (hwithin : ∀ chunk ∈ others, writtenSize dump chunk ≤ limit) :
    chunks.length ≤ others.length := by
  induction h generalizing others before with
  | nothing => exact Nat.zero_le _
  | last hpending =>
    have hne : others ≠ [] := by
      rintro rfl
      simp [hpending] at hflatten
    exact List.length_pos_iff.mpr hne
  | fill _ _ ih => exact ih (by simpa using hflatten) hwithin
  | @next pending item rest chunks hfull _ _ ih =>
    cases others with
    | nil => simp at hflatten
    | cons chunk others =>
      obtain ⟨hchunk, hothers⟩ := List.forall_mem_cons.mp hwithin
      have hwhole : writtenSize dump (pending ++ [item]) ≤
          writtenSize dump (before ++ pending ++ [item]) :=
        writtenSize_le_of_isInfix ⟨before, [], by simp⟩
      obtain ⟨later, hlater⟩ := exists_rest_of_writtenSize_lt hflatten
        (Nat.lt_of_le_of_lt hchunk (Nat.lt_of_lt_of_le hfull hwhole))
      have hmore : others.flatten = later ++ [item] ++ rest := by simpa using hlater
      exact Nat.succ_le_succ (ih hmore hothers)

/-- Items that fit are divided without loss into chunks that stay within the limit, none of them
empty, and no division that stays within the limit has fewer chunks. -/
theorem ofItems_fewest {limit : Int} (hlimit : 0 < limit)
    (hsize : ∀ item ∈ items, size item = .ok (dump item).utf8ByteSize)
    (hfits : ∀ item ∈ items, ((dump item).utf8ByteSize : Int) ≤ limit - 2) :
    ∃ chunks, ofItems size limit items = ⟨chunks, none⟩ ∧ chunks.flatten = items ∧
      (∀ chunk ∈ chunks, chunk ≠ []) ∧
      (∀ chunk ∈ chunks, (writtenSize dump chunk : Int) ≤ limit) ∧
      ∀ others : List (List α), others.flatten = items →
        (∀ chunk ∈ others, (writtenSize dump chunk : Int) ≤ limit) →
        chunks.length ≤ others.length := by
  have hroom : ∀ item ∈ items, (writtenSize dump [item] : Int) ≤ limit := by
    intro item hitem
    have hitem := hfits item hitem
    rw [writtenSize_singleton, bracketSize]
    omega
  have hbound (chunk : List α) :
      (writtenSize dump chunk : Int) ≤ limit ↔ writtenSize dump chunk ≤ limit.toNat :=
    (Int.le_toNat (Int.le_of_lt hlimit)).symm
  obtain ⟨chunks, hchunks, hpacks⟩ := packs_ofItems hlimit hsize hroom
  have hlossless := flatten_chunks_ofItems (congrArg Chunked.failure hchunks)
  rw [hchunks] at hlossless
  refine ⟨chunks, hchunks, hlossless, hpacks.ne_nil, fun chunk hchunk ↦ ?_,
    fun others hflatten hwithin ↦ ?_⟩
  · exact (hbound chunk).mpr (hpacks.within (fun hne ↦ absurd rfl hne) chunk hchunk)
  · have hwhole : others.flatten = [] ++ [] ++ items := hflatten
    exact hpacks.length_le hwhole fun chunk hchunk ↦ (hbound chunk).mp (hwithin chunk hchunk)

/-- Two items that fill a chunk to the last byte, and a third one. -/
theorem ofItems_fewest_of_full :
    ofItems (fun text ↦ .ok text.utf8ByteSize) 7 ["é", "bb", "c"] = ⟨[["é", "bb"], ["c"]], none⟩ ∧
      ∀ others : List (List String), others.flatten = ["é", "bb", "c"] →
        (∀ chunk ∈ others, (writtenSize id chunk : Int) ≤ 7) → 2 ≤ others.length := by
  have hsize : ∀ text ∈ ["é", "bb", "c"],
      (Except.ok text.utf8ByteSize : Except Failure Nat) = .ok (id text).utf8ByteSize :=
    fun _ _ ↦ rfl
  have hfits : ∀ text ∈ ["é", "bb", "c"], ((id text).utf8ByteSize : Int) ≤ 7 - 2 := by
    decide +kernel
  obtain ⟨chunks, hchunks, -, -, -, hfewest⟩ := ofItems_fewest (by decide) hsize hfits
  have htwo : ofItems (fun text : String ↦ .ok text.utf8ByteSize) 7 ["é", "bb", "c"] =
      ⟨[["é", "bb"], ["c"]], none⟩ := rfl
  obtain ⟨rfl, -⟩ := Chunked.mk.inj (hchunks.symm.trans htwo)
  exact ⟨htwo, hfewest⟩

end MountCensus.Chunked
