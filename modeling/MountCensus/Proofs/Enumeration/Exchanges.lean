import Mathlib.Data.List.Forall2
import MountCensus.Proofs.Act
import MountCensus.Proofs.Enumeration.Filtering

/-!
What a client is asked, call after call. A client may answer the same question differently every
time; a listing put to it runs the two commands and then looks at the rows of the mount table one by
one (`ask`). Put to a host, whose answers stay what they are, it is the host's listing and makes the
calls that the listing tells of (`ask_ofHost`). Whatever the client answers, each request leaves one
block of calls behind: no row is probed but those of the table it has just read that it asks for,
each of these once and in order (`exchanges_of_session`).
-/

set_option autoImplicit false

namespace MountCensus

/-! ### Clients -/

/-- Who is asked about a host. Each answer may change what it answers next. -/
structure Client (State : Type) where
  run : List String → Act State (List String)
  probe : String → State → Capacity × State

/-- A call to a client, and what it answered. -/
inductive Exchange where
  | command (words : List String) (answer : Except Failure (List String))
  | probe (path : String) (answer : Capacity)

def Exchange.call : Exchange → HostCall
  | .command words _ => .command words
  | .probe path _ => .probe path

/-- The state of a client, and the exchanges with it so far. -/
structure Watched (State : Type) where
  state : State
  exchanges : List Exchange

namespace Client

variable {State : Type}

def command (client : Client State) (words : List String) : Act (Watched State) (List String) :=
  .ofOutcome fun world ↦
    let (answer, state) := (client.run words).outcome world.state
    (answer, ⟨state, world.exchanges ++ [.command words answer]⟩)

def look (client : Client State) (path : String) : Act (Watched State) Capacity :=
  .ofOutcome fun world ↦
    let (capacity, state) := client.probe path world.state
    (.ok capacity, ⟨state, world.exchanges ++ [.probe path capacity]⟩)

theorem outcome_command (client : Client State) (words : List String) (world : Watched State) :
    (client.command words).outcome world =
      (((client.run words).outcome world.state).1,
        ⟨((client.run words).outcome world.state).2,
          world.exchanges ++ [.command words ((client.run words).outcome world.state).1]⟩) := rfl

theorem outcome_look (client : Client State) (path : String) (world : Watched State) :
    (client.look path).outcome world =
      (.ok (client.probe path world.state).1, ⟨(client.probe path world.state).2,
        world.exchanges ++ [.probe path (client.probe path world.state).1]⟩) := rfl

/-- The client that answers as the host which is its state. -/
def ofHost : Client Host where
  run words := .ofOutcome fun host ↦ (host.run words, host)
  probe path host := (host.probe path, host)

end Client

namespace Enumeration

/-! ### Listings put to a client -/

section Asking

variable {State : Type} (client : Client State) (policy : Policy) (name : Option String)
  (localOnly : Bool)

/-- The stores of the rows of a mount table. A row that is not selected is passed over before its
path is looked at. -/
def walk (usage : Usage.Table) : List Mount → Act (Watched State) (List Store)
  | [] => pure []
  | mount :: rest =>
    if selects policy name localOnly mount then do
      let capacity ← client.look mount.path
      let stores ← walk usage rest
      return (Store.assemble policy.networkTypes usage (fun _ ↦ capacity) mount).toList ++ stores
    else walk usage rest

def ask : Act (Watched State) (List Store) := do
  let usageLines ← client.command (Usage.reportCommand localOnly)
  let mountLines ← client.command Mount.tableCommand
  walk client policy name localOnly (Usage.ofReport usageLines) (Mount.ofTable mountLines)

/-- One probe for each selected row, and nothing else. -/
theorem walk_exchanges (usage : Usage.Table) (mounts : List Mount) :
    ∀ world, ∃ stores state probes,
      (walk client policy name localOnly usage mounts).outcome world =
        (.ok stores, ⟨state, world.exchanges ++ probes⟩) ∧
      probes.map Exchange.call =
        (mounts.filter (selects policy name localOnly)).map (.probe ·.path) := by
  induction mounts with
  | nil => exact fun world ↦ ⟨[], world.state, [], by rw [List.append_nil]; rfl, rfl⟩
  | cons mount mounts ih =>
    intro world
    rw [walk, List.filter_cons]
    split_ifs with hselected
    · rcases hcapacity : client.probe mount.path world.state with ⟨capacity, later⟩
      have hlook : (client.look mount.path).outcome world =
          (.ok capacity, ⟨later, world.exchanges ++ [.probe mount.path capacity]⟩) := by
        rw [Client.outcome_look, hcapacity]
      obtain ⟨stores, state, probes, hmore, hprobes⟩ :=
        ih ⟨later, world.exchanges ++ [.probe mount.path capacity]⟩
      refine ⟨(Store.assemble policy.networkTypes usage (fun _ ↦ capacity) mount).toList ++ stores,
        state, .probe mount.path capacity :: probes, ?_, ?_⟩
      · rw [Act.outcome_bind_ok hlook, Act.outcome_bind_ok hmore, Act.outcome_pure,
          List.append_assoc, List.singleton_append]
      · rw [List.map_cons, List.map_cons, hprobes, Exchange.call]
    · exact ih world

theorem walk_ofHost (host : Host) (usageLines : List String) (mounts : List Mount) :
    ∀ exchanges,
      (walk .ofHost policy name localOnly (Usage.ofReport usageLines) mounts).outcome
          ⟨host, exchanges⟩ =
        (.ok (storesOf host policy usageLines (mounts.filter (selects policy name localOnly))),
          ⟨host, exchanges ++ (mounts.filter (selects policy name localOnly)).map fun mount ↦
            .probe mount.path (host.probe mount.path)⟩) := by
  induction mounts with
  | nil => exact fun exchanges ↦ by rw [List.filter_nil, List.map_nil, List.append_nil]; rfl
  | cons mount mounts ih =>
    intro exchanges
    rw [walk, List.filter_cons]
    split_ifs with hselected
    · have hlook : (Client.ofHost.look mount.path).outcome ⟨host, exchanges⟩ =
          (.ok (host.probe mount.path),
            ⟨host, exchanges ++ [.probe mount.path (host.probe mount.path)]⟩) := rfl
      have hstore : Store.assemble policy.networkTypes (Usage.ofReport usageLines)
          (fun _ ↦ host.probe mount.path) mount =
            Store.assemble policy.networkTypes (Usage.ofReport usageLines) host.probe mount := rfl
      have hstores (rows : List Mount) : storesOf host policy usageLines (mount :: rows) =
          (Store.assemble policy.networkTypes (Usage.ofReport usageLines) host.probe
            mount).toList ++ storesOf host policy usageLines rows := by
        rw [storesOf, List.filterMap_cons]
        cases Store.assemble policy.networkTypes (Usage.ofReport usageLines) host.probe mount <;>
          rfl
      rw [Act.outcome_bind_ok hlook, Act.outcome_bind_ok (ih _), Act.outcome_pure, hstore, hstores,
        List.map_cons, List.append_assoc, List.singleton_append]
    · exact ih exchanges

/-- Asked call after call, a host gives its listing, and is asked what the listing tells of. -/
theorem ask_ofHost (host : Host) (exchanges : List Exchange) :
    ∃ more,
      (ask .ofHost policy name localOnly).outcome ⟨host, exchanges⟩ =
        ((listing host policy name localOnly).result, ⟨host, exchanges ++ more⟩) ∧
      more.map Exchange.call = (listing host policy name localOnly).calls := by
  have hcommand (words : List String) (exchanges : List Exchange) :
      (Client.ofHost.command words).outcome ⟨host, exchanges⟩ =
        (host.run words, ⟨host, exchanges ++ [.command words (host.run words)]⟩) := rfl
  have husage := hcommand (Usage.reportCommand localOnly) exchanges
  have hmounts := hcommand Mount.tableCommand
    (exchanges ++ [.command (Usage.reportCommand localOnly)
      (host.run (Usage.reportCommand localOnly))])
  rw [List.append_assoc] at hmounts
  cases husageLines : host.run (Usage.reportCommand localOnly) with
  | error failure =>
    rw [husageLines] at husage
    refine ⟨[.command (Usage.reportCommand localOnly) (.error failure)], ?_, ?_⟩
    · rw [ask, Act.outcome_bind_error husage, listing, husageLines]
    · rw [listing, husageLines]
      rfl
  | ok usageLines =>
    rw [husageLines] at husage hmounts
    cases hmountLines : host.run Mount.tableCommand with
    | error failure =>
      rw [hmountLines] at hmounts
      refine ⟨[.command (Usage.reportCommand localOnly) (.ok usageLines),
        .command Mount.tableCommand (.error failure)], ?_, ?_⟩
      · rw [ask, Act.outcome_bind_ok husage, Act.outcome_bind_error hmounts, listing, husageLines,
          hmountLines]
        rfl
      · rw [listing, husageLines, hmountLines]
        rfl
    | ok mountLines =>
      rw [hmountLines] at hmounts
      rw [listing_of_reports husageLines hmountLines]
      refine ⟨.command (Usage.reportCommand localOnly) (.ok usageLines) ::
        .command Mount.tableCommand (.ok mountLines) ::
          ((Mount.ofTable mountLines).filter (selects policy name localOnly)).map fun mount ↦
            .probe mount.path (host.probe mount.path), ?_, ?_⟩
      · rw [ask, Act.outcome_bind_ok husage, Act.outcome_bind_ok hmounts, walk_ofHost,
          List.append_assoc]
        rfl
      · rw [List.map_cons, List.map_cons, List.map_map]
        rfl

/-- Whatever a client answers, the commands come first and a failure of theirs is the end; then the
selected rows of the table it has answered with are probed. -/
theorem ask_exchanges (world : Watched State) :
    ∃ result state more,
      (ask client policy name localOnly).outcome world =
        (result, ⟨state, world.exchanges ++ more⟩) ∧
      ((∃ failure, more = [.command (Usage.reportCommand localOnly) (.error failure)]) ∨
        (∃ usageLines failure, more = [.command (Usage.reportCommand localOnly) (.ok usageLines),
          .command Mount.tableCommand (.error failure)]) ∨
        ∃ usageLines mountLines probes,
          more = .command (Usage.reportCommand localOnly) (.ok usageLines) ::
            .command Mount.tableCommand (.ok mountLines) :: probes ∧
          probes.map Exchange.call =
            ((Mount.ofTable mountLines).filter (selects policy name localOnly)).map
              (.probe ·.path)) := by
  have husage := client.outcome_command (Usage.reportCommand localOnly) world
  rcases hanswer : (client.run (Usage.reportCommand localOnly)).outcome world.state with
    ⟨usage, middle⟩
  rw [hanswer] at husage
  cases usage with
  | error failure =>
    refine ⟨.error failure, middle,
      [.command (Usage.reportCommand localOnly) (.error failure)], ?_, .inl ⟨failure, rfl⟩⟩
    rw [ask, Act.outcome_bind_error husage]
  | ok usageLines =>
    have hmounts := client.outcome_command Mount.tableCommand
      ⟨middle, world.exchanges ++ [.command (Usage.reportCommand localOnly) (.ok usageLines)]⟩
    rw [List.append_assoc] at hmounts
    rcases htable : (client.run Mount.tableCommand).outcome middle with ⟨table, later⟩
    rw [htable] at hmounts
    cases table with
    | error failure =>
      refine ⟨.error failure, later, [.command (Usage.reportCommand localOnly) (.ok usageLines),
        .command Mount.tableCommand (.error failure)], ?_, .inr (.inl ⟨usageLines, failure, rfl⟩)⟩
      rw [ask, Act.outcome_bind_ok husage, Act.outcome_bind_error hmounts]
      rfl
    | ok mountLines =>
      obtain ⟨stores, state, probes, hwalk, hprobes⟩ := walk_exchanges client policy name localOnly
        (Usage.ofReport usageLines) (Mount.ofTable mountLines)
        ⟨later, world.exchanges ++ [.command (Usage.reportCommand localOnly) (.ok usageLines),
          .command Mount.tableCommand (.ok mountLines)]⟩
      refine ⟨.ok stores, state, _, ?_, .inr (.inr ⟨usageLines, mountLines, probes, rfl, hprobes⟩)⟩
      rw [ask, Act.outcome_bind_ok husage, Act.outcome_bind_ok hmounts]
      rw [List.append_assoc] at hwalk
      exact hwalk

end Asking

/-! ### Requests -/

/-- What an enumeration is asked for: all stores, those of one name, or one store anew. -/
inductive Request where
  | all (localOnly : Bool)
  | named (name : String) (localOnly : Bool)
  | renewal (store : Store)

namespace Request

def localOnly : Request → Bool
  | .all localOnly => localOnly
  | .named _ localOnly => localOnly
  | .renewal _ => false

def name? : Request → Option String
  | .all _ => none
  | .named name _ => some name
  | .renewal store => some store.name

/-- What of a listing answers the request. -/
def pick : Request → List Store → List Store
  | .renewal store, candidates =>
    (candidates.find? fun candidate ↦
      candidate.volume == store.volume && candidate.mount == store.mount).toList
  | _, candidates => candidates

/-- The answer for a host; a store that is gone is answered by none. -/
def answer (host : Host) (policy : Policy) : Request → Answer (List Store)
  | .all localOnly => stores host policy localOnly
  | .named name localOnly => storesNamed host policy name localOnly
  | .renewal store => (refresh host policy store).map Option.toList

/-- The request put to a client. -/
def put {State : Type} (client : Client State) (policy : Policy) (request : Request) :
    Act (Watched State) (List Store) :=
  request.pick <$> ask client policy request.name? request.localOnly

/-- A row of the mount table that the request is about. -/
def Wants (policy : Policy) (request : Request) (mount : Mount) : Prop :=
  policy.isEligible mount.path mount.volume mount.type request.localOnly = true ∧
    ∀ name ∈ request.name?, name = Store.displayName mount.path mount.volume

instance (policy : Policy) (request : Request) : DecidablePred (request.Wants policy) :=
  fun _ ↦ inferInstanceAs (Decidable (_ ∧ _))

/-- The exchanges that a request leaves behind. -/
inductive Leaves (policy : Policy) (request : Request) : List Exchange → Prop
  | unreported (failure : Failure) :
    Leaves policy request [.command (Usage.reportCommand request.localOnly) (.error failure)]
  | untabled (usageLines : List String) (failure : Failure) :
    Leaves policy request [.command (Usage.reportCommand request.localOnly) (.ok usageLines),
      .command Mount.tableCommand (.error failure)]
  | probed (usageLines mountLines : List String) {probes : List Exchange} :
    probes.map Exchange.call =
        ((Mount.ofTable mountLines).filter (request.Wants policy)).map (.probe ·.path) →
      Leaves policy request (.command (Usage.reportCommand request.localOnly) (.ok usageLines) ::
        .command Mount.tableCommand (.ok mountLines) :: probes)

theorem selects_eq_wants (policy : Policy) (request : Request) :
    selects policy request.name? request.localOnly =
      fun mount ↦ decide (request.Wants policy mount) := by
  funext mount
  rw [Bool.eq_iff_iff, decide_eq_true_eq, selects, Bool.and_eq_true, Option.all_eq_true]
  simp only [beq_iff_eq]
  rfl

theorem answer_eq (host : Host) (policy : Policy) (request : Request) :
    request.answer host policy =
      (listing host policy request.name? request.localOnly).map request.pick := by
  have hid (answer : Answer (List Store)) : answer.map (fun candidates ↦ candidates) = answer := by
    rcases answer with ⟨calls, _ | _⟩ <;> rfl
  cases request with
  | all localOnly => exact (hid _).symm
  | named name localOnly => exact (hid _).symm
  | renewal store =>
    have hlisting : listing host policy (renewal store).name? (renewal store).localOnly =
        listing host policy (some store.name) false := rfl
    rw [answer, refresh, storesNamed, hlisting]
    rcases listing host policy (some store.name) false with ⟨calls, _ | _⟩ <;> rfl

theorem put_ofHost (host : Host) (policy : Policy) (request : Request)
    (exchanges : List Exchange) :
    ∃ more,
      (request.put .ofHost policy).outcome ⟨host, exchanges⟩ =
        ((request.answer host policy).result, ⟨host, exchanges ++ more⟩) ∧
      more.map Exchange.call = (request.answer host policy).calls := by
  obtain ⟨more, hask, hcalls⟩ := ask_ofHost policy request.name? request.localOnly host exchanges
  rw [answer_eq]
  refine ⟨more, ?_, hcalls⟩
  rw [put, Act.outcome_map, hask, Answer.map]
  cases (listing host policy request.name? request.localOnly).result <;> rfl

theorem put_leaves {State : Type} (client : Client State) (policy : Policy) (request : Request)
    (world : Watched State) :
    ∃ block, ((request.put client policy).outcome world).2.exchanges = world.exchanges ++ block ∧
      request.Leaves policy block := by
  obtain ⟨result, state, block, hask, hblock⟩ :=
    ask_exchanges client policy request.name? request.localOnly world
  refine ⟨block, ?_, ?_⟩
  · rw [put, Act.outcome_map, hask]
    cases result <;> rfl
  · rw [selects_eq_wants] at hblock
    rcases hblock with ⟨failure, rfl⟩ | ⟨usageLines, failure, rfl⟩ |
      ⟨usageLines, mountLines, probes, rfl, hprobes⟩
    · exact .unreported failure
    · exact .untabled usageLines failure
    · exact .probed usageLines mountLines hprobes

/-- Every probe is about an eligible row of the table that was read just before. -/
theorem Leaves.eligible_of_probe {policy : Policy} {request : Request} {block : List Exchange}
    (h : request.Leaves policy block) {path : String} {capacity : Capacity}
    (hprobe : .probe path capacity ∈ block) :
    ∃ mountLines, .command Mount.tableCommand (.ok mountLines) ∈ block ∧
      ∃ mount ∈ Mount.ofTable mountLines, mount.path = path ∧
        policy.isEligible mount.path mount.volume mount.type request.localOnly = true ∧
        (request.localOnly = true → mount.type ∉ policy.networkTypes) := by
  cases h with
  | unreported failure => simp at hprobe
  | untabled usageLines failure => simp at hprobe
  | @probed usageLines mountLines probes hprobes =>
    have hmem : .probe path capacity ∈ probes := by simpa using hprobe
    have hcall : HostCall.probe path ∈ probes.map Exchange.call :=
      List.mem_map_of_mem (f := Exchange.call) hmem
    rw [hprobes] at hcall
    obtain ⟨mount, hmount, hpath⟩ := List.mem_map.mp hcall
    obtain ⟨hrow, hwants⟩ := List.mem_filter.mp hmount
    have heligible := (of_decide_eq_true hwants).1
    refine ⟨mountLines, by simp, mount, hrow, HostCall.probe.inj hpath, heligible, fun hlocal ↦ ?_⟩
    exact fun htype ↦ (Policy.isEligible_iff.mp heligible).1 ⟨hlocal, htype⟩

end Request

/-! ### Sessions -/

/-- One request after the other, each under a policy of its own and whatever becomes of those
before it. -/
def session {State : Type} (client : Client State) (requests : List (Policy × Request))
    (world : Watched State) : Watched State :=
  requests.foldl (fun world (policy, request) ↦ ((request.put client policy).outcome world).2) world

/-- A request put to a host is answered by its listing, and makes the calls that the listing tells
of. A client that answers what it will is asked by each request for the usage report and, if there
is one, for the mount table, and then once for each row of this table that the request is about, in
the order of the table. So no probe is made for a row that is not eligible, nor, where local file
systems only are asked for, for one of a network type. -/
theorem exchanges_of_session :
    (∀ (host : Host) (policy : Policy) (request : Request) (exchanges : List Exchange), ∃ more,
      (request.put .ofHost policy).outcome ⟨host, exchanges⟩ =
        ((request.answer host policy).result, ⟨host, exchanges ++ more⟩) ∧
      more.map Exchange.call = (request.answer host policy).calls) ∧
    ∀ {State : Type} (client : Client State) (requests : List (Policy × Request))
      (world : Watched State), ∃ blocks : List (List Exchange),
      (session client requests world).exchanges = world.exchanges ++ blocks.flatten ∧
      List.Forall₂ (fun (policy, request) block ↦
        request.Leaves policy block ∧
        ∀ path capacity, .probe path capacity ∈ block →
          ∃ mountLines, .command Mount.tableCommand (.ok mountLines) ∈ block ∧
            ∃ mount ∈ Mount.ofTable mountLines, mount.path = path ∧
              policy.isEligible mount.path mount.volume mount.type request.localOnly = true ∧
              (request.localOnly = true → mount.type ∉ policy.networkTypes))
        requests blocks := by
  refine ⟨fun host policy request ↦ request.put_ofHost host policy, ?_⟩
  intro State client requests
  induction requests with
  | nil => exact fun world ↦ ⟨[], by rw [List.flatten_nil, List.append_nil]; rfl, .nil⟩
  | cons visit requests ih =>
    obtain ⟨policy, request⟩ := visit
    intro world
    obtain ⟨block, hblock, hleaves⟩ := request.put_leaves client policy world
    obtain ⟨blocks, hblocks, hmore⟩ := ih ((request.put client policy).outcome world).2
    refine ⟨block :: blocks, ?_, .cons ⟨hleaves, fun _ _ ↦ hleaves.eligible_of_probe⟩ hmore⟩
    rw [session, List.foldl_cons]
    rw [session] at hblocks
    rw [hblocks, hblock, List.flatten_cons, List.append_assoc]

/-- A client that fails at its first and at its third command. -/
def unsteadyClient : Client Nat where
  run words := .ofOutcome fun asked ↦
    (if asked = 0 ∨ asked = 2 then .error ⟨.runtime, "not now"⟩ else mixedHost.run words, asked + 1)
  probe path asked := (mixedHost.probe path, asked)

example :
    (session unsteadyClient [({}, .all true), ({}, .named "tmp" false), ({}, .all true)]
        ⟨0, []⟩).exchanges.map Exchange.call = [
      .command (Usage.reportCommand true),
      .command (Usage.reportCommand false), .command Mount.tableCommand,
      .command (Usage.reportCommand true), .command Mount.tableCommand,
      .probe "/", .probe "/tmp"] := by
  decide +kernel

end Enumeration

end MountCensus
