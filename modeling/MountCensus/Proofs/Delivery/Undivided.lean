import MountCensus.Proofs.Chunk.Fewest
import MountCensus.Proofs.Delivery.Blocks

/-!
Records that need not be divided. If some items written as one list stay within the limit, that list
is the only chunk of them (`ofItems_eq_singleton`). So records that stay within it are delivered as
if there were no limit (`deliver_undivided`), unless there are none: nothing is then put into no
chunk and never gets to the sink, while without a limit it makes one empty batch
(`deliver_nothing_ne`).
-/

set_option autoImplicit false

namespace MountCensus

namespace Chunked

variable {α : Type} {dump : α → String} {size : α → Except Failure Nat} {items : List α}

/-- As long as there is room for all that is left, nothing is handed out. -/
theorem chunksFrom_eq_singleton {limit : Nat}
    (hsize : ∀ item ∈ items, size item = .ok (dump item).utf8ByteSize) (pending : List α)
    (hroom : writtenSize dump (pending ++ items) ≤ limit) (hsome : pending ++ items ≠ []) :
    chunksFrom size limit pending (writtenSize dump pending) items =
      ⟨[pending ++ items], none⟩ := by
  induction items generalizing pending with
  | nil =>
    rw [List.append_nil] at hsome ⊢
    simp [chunksFrom, hsome]
  | cons item rest ih =>
    obtain ⟨hitem, hrest⟩ := List.forall_mem_cons.mp hsize
    have hnext : writtenSize dump (pending ++ [item]) ≤ limit := by
      refine Nat.le_trans (writtenSize_le_of_isInfix ?_) hroom
      exact ⟨[], rest, by simp⟩
    rw [List.append_cons] at hroom hsome ⊢
    rw [chunksFrom_fill hitem hnext, ih hrest _ hroom hsome]

theorem ofItems_eq_singleton {limit : Int}
    (hsize : ∀ item ∈ items, size item = .ok (dump item).utf8ByteSize)
    (hroom : (writtenSize dump items : Int) ≤ limit) (hsome : items ≠ []) :
    ofItems size limit items = ⟨[items], none⟩ := by
  have hlimit : 0 < limit := by
    rw [writtenSize_eq, bracketSize] at hroom
    omega
  rw [ofItems, if_neg (Int.not_le.mpr hlimit), ← writtenSize_nil dump]
  exact chunksFrom_eq_singleton hsize [] ((Int.le_toNat (Int.le_of_lt hlimit)).mpr hroom) hsome

end Chunked

namespace Delivery

open Chunked

variable {records : List Record} {text : String} {chunkSize : Int}

/-- A record as it is written in a batch. -/
def compactText (record : Record) : String :=
  record.json.write Json.compact

theorem recordSize_of_isWritable {record : Record} (h : record.isWritable = true) :
    recordSize record = .ok (compactText record).utf8ByteSize := by
  rw [recordSize, Record.write_of_isWritable h]
  rfl

/-- The size of records written as a list is the one by which they are put into chunks. -/
theorem size_of_writeList (htext : Record.writeList Json.compact records = .ok text) :
    (∀ record ∈ records, recordSize record = .ok (compactText record).utf8ByteSize) ∧
      text.utf8ByteSize = writtenSize compactText records := by
  rw [Record.writeList] at htext
  split_ifs at htext with hwritable
  refine ⟨fun record hrecord ↦ ?_, ?_⟩
  · exact recordSize_of_isWritable (List.all_eq_true.mp hwritable record hrecord)
  · rw [← Except.ok.inj htext, Json.write, Json.writeItems_eq_map, List.map_map]
    rfl

theorem batches_eq_whole (htext : Record.writeList Json.compact records = .ok text)
    (hsmall : (text.utf8ByteSize : Int) ≤ chunkSize) (hsome : records ≠ []) :
    batches chunkSize records = ⟨[records], none⟩ := by
  obtain ⟨hsize, hwritten⟩ := size_of_writeList htext
  rw [hwritten] at hsmall
  unfold batches
  split_ifs
  · exact ofItems_eq_singleton hsize hsmall hsome
  · rfl

variable {World : Type}

theorem deliver_of_no_batches {chunkSize : Int} (hlimit : 0 < chunkSize)
    (write : Batch → Act World Unit) (pauseFor : Int → Act World Unit) (sink : String)
    (retries time : Int) : deliver write pauseFor sink chunkSize retries time [] = pure () := by
  rw [deliver, batches, if_pos hlimit, ofItems_nil recordSize hlimit]
  rfl

theorem deliver_of_one_batch {records : List Record} {chunkSize : Int}
    (hbatches : batches chunkSize records = ⟨[records], none⟩) (write : Batch → Act World Unit)
    (pauseFor : Int → Act World Unit) (sink : String) (retries time : Int) :
    deliver write pauseFor sink chunkSize retries time records =
      (deliverBatch write pauseFor retries ⟨time, records⟩).onFailure fun failure ↦
        throw (explain sink retries failure) := by
  have hall : deliverAll write pauseFor retries time none [records] =
      deliverBatch write pauseFor retries ⟨time, records⟩ :=
    bind_pure_unit
  rw [deliver, hbatches, hall]

/-- Records whose written list stays within the limit are delivered as if there were none: whatever
the sink and its pauses do, and whatever the retries, it is the same action. Only an empty list is
not: within a limit nothing is done for it, and without one it is delivered as an empty batch. -/
theorem deliver_undivided (htext : Record.writeList Json.compact records = .ok text)
    (hsmall : (text.utf8ByteSize : Int) ≤ chunkSize) (write : Batch → Act World Unit)
    (pauseFor : Int → Act World Unit) (sink : String) (retries time : Int) :
    (records ≠ [] →
      deliver write pauseFor sink chunkSize retries time records =
        deliver write pauseFor sink 0 retries time records) ∧
    (records = [] →
      deliver write pauseFor sink chunkSize retries time records = pure () ∧
      deliver write pauseFor sink 0 retries time records =
        (deliverBatch write pauseFor retries ⟨time, []⟩).onFailure fun failure ↦
          throw (explain sink retries failure)) := by
  have hunlimited : batches 0 records = ⟨[records], none⟩ :=
    batches_of_nonpos (Int.le_refl 0) records
  constructor
  · intro hsome
    rw [deliver_of_one_batch (batches_eq_whole htext hsmall hsome),
      deliver_of_one_batch hunlimited]
  · rintro rfl
    have hlimit : 0 < chunkSize := by
      rw [(size_of_writeList htext).2, writtenSize_nil, bracketSize] at hsmall
      omega
    exact ⟨deliver_of_no_batches hlimit write pauseFor sink retries time,
      deliver_of_one_batch hunlimited write pauseFor sink retries time⟩

/-- Two records that fill the limit to the last byte, and none. -/
theorem deliver_undivided_of_full :
    (∃ text, Record.writeList Json.compact [.usage ⟨1, 10⟩, .usage ⟨2, 20⟩] = .ok text ∧
      text.utf8ByteSize = 73) ∧
    recordedDelivery scripted (fun _ answers ↦ answers) "memory" 73 2 7
        [.usage ⟨1, 10⟩, .usage ⟨2, 20⟩] =
      recordedDelivery scripted (fun _ answers ↦ answers) "memory" 0 2 7
        [.usage ⟨1, 10⟩, .usage ⟨2, 20⟩] ∧
    recordedDelivery scripted (fun _ answers ↦ answers) "memory" 2 2 7 [] = pure () := by
  have hwritable : [Record.usage ⟨1, 10⟩, .usage ⟨2, 20⟩].all Record.isWritable = true := by
    decide +kernel
  have hfull : Record.writeList Json.compact [.usage ⟨1, 10⟩, .usage ⟨2, 20⟩] =
      .ok ("[\x7b\"inodes_free\":1,\"inodes_total\":10\x7d," ++
        "\x7b\"inodes_free\":2,\"inodes_total\":20\x7d]") :=
    if_pos hwritable
  have hnothing : Record.writeList Json.compact [] = .ok "[]" := rfl
  refine ⟨⟨_, hfull, by decide +kernel⟩, ?_, ?_⟩
  · exact (deliver_undivided hfull (by decide +kernel) _ _ "memory" 2 7).1 (List.cons_ne_nil _ _)
  · exact ((deliver_undivided hnothing (by decide) _ _ "memory" 2 7).2 rfl).1

/-- Without records nothing is written within a limit, and an empty batch without one. -/
theorem deliver_nothing_ne :
    Record.writeList Json.compact [] = .ok "[]" ∧ ("[]".utf8ByteSize : Int) ≤ 2 ∧
    ((recordedDelivery scripted (fun _ answers ↦ answers) "memory" 2 0 7 []).outcome
        ⟨[], []⟩).2.events ≠
      ((recordedDelivery scripted (fun _ answers ↦ answers) "memory" 0 0 7 []).outcome
        ⟨[], []⟩).2.events := by
  have hwithin : ((recordedDelivery scripted (fun _ answers ↦ answers) "memory" 2 0 7 []).outcome
      ⟨[], []⟩).2.events = [] := rfl
  have hwithout : ((recordedDelivery scripted (fun _ answers ↦ answers) "memory" 0 0 7 []).outcome
      ⟨[], []⟩).2.events = [.call ⟨7, []⟩ (.ok ())] := rfl
  refine ⟨rfl, by decide, ?_⟩
  rw [hwithin, hwithout]
  exact (List.cons_ne_nil _ _).symm

end Delivery

end MountCensus
