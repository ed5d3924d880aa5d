/-
  RelayBroker.Proofs.Traffic.Delivery

  The instructions of a rescale and what becomes of them. Each goes to the old host of a
  client and names the client and its new host (`map_request_instructions`), and the proxy
  there reads this in it (`map_decode_instructions`). The wait for its receipt ends in one of
  three ways: the proxy complies, it replies with an error, or it has not replied in time
  (`Delivery`). The instructions are under way together, and which one ends next is open
  (`Settles`).

  Whatever the order, the rescale counts each instruction once, so what it answers and what
  it counts can be read off its loop and the receipts (`rescale_settled`). The receipts show
  in these counts, and nowhere else.

  Main statement: `receipts_decide_nothing`.
-/

import Mathlib.Data.List.Perm.Basic
import RelayBroker.Broker.Needs
import RelayBroker.Http.ProxyClient
import RelayBroker.Proofs.Address.ReadBack
import RelayBroker.Proofs.Traffic.Accounts
import RelayBroker.Proofs.Traffic.Retry
import RelayBroker.Proofs.Wire.TransferOrder

namespace RelayBroker

/-! ## Instructions -/

/-- An instruction to hand over a client. -/
structure Instruction where
  /-- Which migration of the rescale it is about. -/
  position : Nat
  /-- The host to which it is sent. -/
  host : Address
  request : Http.ProxyClient.Outgoing
  /-- After this time the wait for a receipt is given up. -/
  limit : Nat
deriving DecidableEq

/-- The instruction that a call needs to be sent. -/
def Need.instruction? : Need → Option Instruction
  | .order position m limit => some ⟨position, m.source, Http.ProxyClient.orderOf m, limit⟩
  | .offer .. | .expiry _ => none

/-- What a proxy does with an instruction. -/
inductive Reaction where
  | replies (delay : Nat) (receipt : Except BrokerError Unit)
  /-- It never replies. -/
  | hangs

/-- How the wait for a receipt ends. -/
inductive Delivery where
  | succeeded
  | failed (e : BrokerError)
  | timedOut
deriving DecidableEq

/-- What comes of a reaction within a time. -/
def Reaction.within (limit : Nat) : Reaction → Delivery
  | .replies delay receipt =>
    if limit < delay then .timedOut
    else match receipt with
      | .ok () => .succeeded
      | .error e => .failed e
  | .hangs => .timedOut

/-- What the proxies do with the instructions that reach them. -/
abbrev Channel := Instruction → Reaction

namespace Channel

/-- How the wait for the receipt of an instruction ends. -/
def delivery (channel : Channel) (i : Instruction) : Delivery :=
  (channel i).within i.limit

/-- How an instruction counts. -/
def fate (channel : Channel) (i : Instruction) : Nat × Bool :=
  (i.position, channel.delivery i = .succeeded)

/-- The instructions end one after the other; which one is next is open. -/
inductive Settles (channel : Channel) : List Instruction → List (Nat × Bool) → Prop
  | none : Settles channel [] []
  | next {sent fates} (i : Instruction) (here : i ∈ sent)
      (rest : Settles channel (sent.erase i) fates) :
      Settles channel sent (channel.fate i :: fates)

/-- Each instruction ends once. -/
theorem Settles.perm {channel : Channel} {sent : List Instruction} {fates : List (Nat × Bool)}
    (h : Settles channel sent fates) : fates.Perm (sent.map channel.fate) := by
  induction h with
  | none => exact .refl _
  | @next sent fates i here rest ih =>
    have hsent : (i :: sent.erase i).Perm sent := (List.perm_cons_erase here).symm
    exact (ih.cons (channel.fate i)).trans (hsent.map channel.fate)

/-- They may end in any order. -/
theorem settles_of_perm (channel : Channel) {sent order : List Instruction}
    (h : order.Perm sent) : channel.Settles sent (order.map channel.fate) := by
  induction order generalizing sent with
  | nil =>
    rw [List.nil_perm.mp h]
    exact .none
  | cons i order ih =>
    obtain ⟨here, hrest⟩ := List.cons_perm_iff_perm_erase.mp h
    exact .next i here (ih hrest)

theorem Settles.countP_eq {channel : Channel} {sent : List Instruction}
    {fates : List (Nat × Bool)} (h : Settles channel sent fates) (p : Bool → Bool) :
    fates.countP (fun fate => p fate.2) =
      sent.countP fun i => p (channel.delivery i = .succeeded) := by
  rw [h.perm.countP_eq, List.countP_map]
  rfl

end Channel

/-! ## Counting -/

namespace Broker

/-- Counts instructions that were settled. -/
def countTransfers (b : Broker) (fates : List (Nat × Bool)) : Broker :=
  fates.foldl (fun b fate => b.countTransfer fate.2) b

/-- Each instruction counts once, as one that was delivered or as one that was not. -/
theorem counters_countTransfers (fates : List (Nat × Bool)) (b : Broker) :
    (b.countTransfers fates).counters = { b.counters with
      transfersSent := b.counters.transfersSent + fates.countP (·.2)
      transfersFailed := b.counters.transfersFailed + fates.countP (!·.2) } := by
  induction fates generalizing b with
  | nil => rfl
  | cons fate fates ih =>
    rw [countTransfers, List.foldl_cons]
    refine (ih _).trans ?_
    rw [List.countP_cons, List.countP_cons, countTransfer, Counters.transfer]
    cases fate.2 <;> simp [Nat.add_assoc, Nat.add_comm 1]

/-- Which instructions were delivered is not counted again when the rescale ends. -/
theorem transfers_concludeRescale (b : Broker) (retired : Nat) (migrations : List Migration)
    (stranded failed : Nat) :
    let concluded := (b.concludeRescale retired migrations stranded failed).2.counters
    concluded.transfersSent = b.counters.transfersSent ∧
      concluded.transfersFailed = b.counters.transfersFailed := by
  rw [counters_concludeRescale, Counters.rescale]
  split <;> exact ⟨rfl, rfl⟩

end Broker

namespace History

section
variable {setup : Setup} {s : History} {n : Nat} {m : Moving}

/-- Once each instruction under way is settled, in whatever order, the rescale ends, and each
of them is counted. -/
theorem settleAll_of_perm (setup : Setup) {fates : List (Nat × Bool)} (hwaits : fates ≠ [])
    (hn : s.call? n = some (.moving m)) (hall : (fates.map Prod.fst).Perm m.underWay) :
    let concluded := (s.broker.countTransfers fates).concludeRescale m.retired m.migrations
      m.stranded (m.failed + fates.countP (!·.2))
    (settleAll setup n fates s).1 = some (.rescaled concluded.1) ∧
      (settleAll setup n fates s).2.broker = concluded.2 := by
  induction fates generalizing s m with
  | nil => exact absurd rfl hwaits
  | cons fate fates ih =>
    obtain ⟨position, delivered⟩ := fate
    rw [List.map_cons, List.cons_perm_iff_perm_erase] at hall
    obtain ⟨sent, hrest⟩ := hall
    -- What the rescale reports is what is counted so far and what is to come.
    have hfailed : m.failed + ((position, delivered) :: fates).countP (!·.2) =
        (settleOne m position delivered).failed + fates.countP (!·.2) := by
      rw [List.countP_cons, settleOne]
      cases delivered <;> simp [Nat.add_assoc, Nat.add_comm 1]
    rw [settleAll, step_settle_of_sent setup hn sent]
    by_cases hlast : m.underWay.erase position = []
    · rw [hlast, List.perm_nil, List.map_eq_nil_iff] at hrest
      subst hrest
      rw [hfailed]
      simp only [settleOne, hlast, if_true]
      exact ⟨rfl, rfl⟩
    · have hmore : fates ≠ [] := by
        rintro rfl
        exact hlast (List.nil_perm.mp hrest)
      have hnext : ((s.setBroker (s.broker.countTransfer delivered)).setCall n
          (.moving (settleOne m position delivered))).call? n =
            some (.moving (settleOne m position delivered)) := by
        rw [call?_setCall, if_pos rfl]
      rw [hfailed]
      simp only [settleOne, hlast, if_false]
      exact ih hmore hnext hrest

end

/-! ## The whole call -/

section
variable (setup : Setup) (s : History) (retiring incoming : List Address)

/-- The instructions that a rescale sends once its sessions are moved. -/
def instructions : List Instruction :=
  match s.traffic.startRescale retiring incoming with
  | (.done _, _) => []
  | (.waiting call, t) => (t.needs setup.settings call).filterMap (·.instruction?)

/-- There is one instruction for each migration, in order. -/
theorem instructions_eq : s.instructions setup retiring incoming =
    (s.broker.relocate retiring).1.zipIdx.map fun (m, position) =>
      ⟨position, m.source, Http.ProxyClient.orderOf m, setup.settings.transferTimeout⟩ := by
  rcases s.traffic.startRescale_cases retiring incoming with ⟨rfl, -, heq⟩ |
    ⟨stranded, b, relocated, heq⟩ | ⟨migrations, stranded, b, relocated, -, heq⟩
  · rw [instructions, heq]
    rfl
  · rw [instructions, heq, relocated]
    rfl
  · rw [instructions, heq, relocated]
    simp only [Traffic.wait, Traffic.needs, Table.get?_insert, if_true, List.filterMap_map]
    rw [← List.filterMap_eq_map]
    rfl

theorem map_position_instructions : (s.instructions setup retiring incoming).map (·.position) =
    List.range (s.broker.relocate retiring).1.length := by
  rw [instructions_eq, List.map_map, List.range_eq_range', ← List.zipIdx_map_snd]
  rfl

/-- Each instruction that was sent is settled once. -/
theorem positions_of_settles {channel : Channel} {fates : List (Nat × Bool)}
    (h : channel.Settles (s.instructions setup retiring incoming) fates) :
    (fates.map Prod.fst).Perm (List.range (s.broker.relocate retiring).1.length) := by
  rw [← map_position_instructions setup s retiring incoming]
  have hperm := h.perm.map Prod.fst
  rwa [List.map_map] at hperm

/-- An instruction goes to the old host of a client, and says which client it is and where
the client goes. -/
theorem map_request_instructions :
    (s.instructions setup retiring incoming).map (fun i => (i.host, i.request)) =
      (s.broker.relocate retiring).1.map fun m => (m.source, ⟨"/transfer",
        Json.writeObject [("Cid", .text m.cid), ("NewIp", .text m.target.text),
          ("TransferNow", .flag true)]⟩) := by
  conv_rhs => rw [← List.zipIdx_map_fst 0 (s.broker.relocate retiring).1]
  rw [instructions_eq, List.map_map, List.map_map]
  rfl

/-- What the proxy reads in an instruction. -/
theorem map_decode_instructions : (s.instructions setup retiring incoming).map
      (fun i => Json.decode Wire.TransferOrder.shape i.request.body) =
    (s.broker.relocate retiring).1.map fun m => .ok ⟨m.cid, m.target.text, true⟩ := by
  have hbodies := congrArg (List.map fun x => Json.decode Wire.TransferOrder.shape x.2.body)
    (map_request_instructions setup s retiring incoming)
  rw [List.map_map, List.map_map] at hbodies
  refine hbodies.trans (List.map_congr_left fun m _ => ?_)
  exact Wire.TransferOrder.decode_orderTransfer m.cid m.target.text true

/-- What a rescale answers and counts once each of its instructions is settled. -/
theorem rescale_settled {fates : List (Nat × Bool)}
    (hall : (fates.map Prod.fst).Perm (List.range (s.broker.relocate retiring).1.length)) :
    let moved := (s.broker.relocate retiring).1
    let stranded := (s.broker.relocate retiring).2.1
    let missed := fates.countP (!·.2)
    let rescaled := s.rescale setup retiring incoming fates
    rescaled.1 = some (.rescaled (if 0 < stranded then
      .error (.partialMigration moved.length stranded) else .ok ⟨retiring.length, moved, missed⟩)) ∧
    rescaled.2.broker.counters.transfersSent =
      s.broker.counters.transfersSent + fates.countP (·.2) ∧
    rescaled.2.broker.counters.transfersFailed = s.broker.counters.transfersFailed + missed := by
  have hc := step_change setup s (.rescale retiring incoming)
  simp only [rescale]
  generalize s.step setup (.rescale retiring incoming) = r at hc
  obtain ⟨o, s'⟩ := r
  rcases hc.rescale_cases with ⟨rfl, rfl, rfl⟩ | ⟨stranded, b, relocated, rfl, rfl⟩ |
    ⟨migrations, stranded, b, relocated, hmoved, rfl, rfl⟩
  · obtain rfl : fates = [] := List.map_eq_nil_iff.mp (List.perm_nil.mp hall)
    exact ⟨rfl, rfl, rfl⟩
  · rw [relocated] at hall ⊢
    obtain rfl : fates = [] := List.map_eq_nil_iff.mp (List.perm_nil.mp hall)
    refine ⟨congrArg some (congrArg Outcome.rescaled (Broker.concludeRescale_fst ..)), ?_⟩
    rw [← Broker.counters_of_relocate relocated]
    exact Broker.transfers_concludeRescale ..
  · rw [relocated] at hall ⊢
    have hwaits : fates ≠ [] := by
      rintro rfl
      exact hmoved (List.length_eq_zero_iff.mp (List.range_eq_nil.mp (List.nil_perm.mp hall)))
    have hwaiting := call?_wait_last s b
      (.moving ⟨retiring.length, migrations, stranded, List.range migrations.length, 0⟩)
    obtain ⟨houtcome, hbroker⟩ := settleAll_of_perm setup hwaits hwaiting hall
    rw [Nat.zero_add, Broker.concludeRescale_fst] at houtcome
    refine ⟨houtcome, ?_⟩
    obtain ⟨hsent, hfailed⟩ := Broker.transfers_concludeRescale (b.countTransfers fates)
      retiring.length migrations stranded (0 + fates.countP (!·.2))
    rw [Broker.counters_countTransfers, Broker.counters_of_relocate relocated] at hsent hfailed
    simp only [hbroker]
    exact ⟨hsent, hfailed⟩

end

/-- What a rescale decides: how many hosts it has retired and which clients it has moved, or
why it left clients behind. -/
def verdict (r : Except BrokerError RescaleReport) : Except BrokerError (Nat × List Migration) :=
  r.map fun report => (report.retired, report.migrations)

/-- **Instructions that are not delivered affect no decision of a rescale.** Whatever the
proxies do with the instructions of a rescale, and in whatever order these end, it leaves the
same pools, directory and sessions and comes to the same verdict. There is one instruction for
each migration, in order. It goes to the host that the client had and names the client and the
host that it has then, and the proxy reads both in it. Those that are reported and counted as
failed are those that did not succeed in time. -/
theorem receipts_decide_nothing (setup : Setup) (events : List Event)
    (retiring incoming : List Address) (channel channel' : Channel)
    (fates fates' : List (Nat × Bool)) :
    let s := run setup events
    let sent := s.instructions setup retiring incoming
    let one := s.rescale setup retiring incoming fates
    let other := s.rescale setup retiring incoming fates'
    let moved := (s.broker.relocate retiring).1
    let missed := sent.countP fun i => channel.delivery i ≠ .succeeded
    channel.Settles sent fates → channel'.Settles sent fates' →
    one.2.broker.SameStores other.2.broker ∧
    (∃ r r', one.1 = some (.rescaled r) ∧ other.1 = some (.rescaled r') ∧
      verdict r = verdict r' ∧
      (∀ report, r = .ok report → report.migrations = moved ∧ report.transfersFailed = missed) ∧
      ∀ e, r = .error e → ∃ stranded, 0 < stranded ∧
        e = .partialMigration moved.length stranded) ∧
    one.2.broker.counters.transfersFailed = s.broker.counters.transfersFailed + missed ∧
    one.2.broker.counters.transfersSent = s.broker.counters.transfersSent +
      sent.countP (fun i => channel.delivery i = .succeeded) ∧
    sent.map (fun i => (i.host, i.request)) = moved.map (fun m => (m.source, ⟨"/transfer",
      Json.writeObject [("Cid", .text m.cid), ("NewIp", .text m.target.text),
        ("TransferNow", .flag true)]⟩)) ∧
    sent.map (fun i => Json.decode Wire.TransferOrder.shape i.request.body) =
      moved.map (fun m => .ok ⟨m.cid, m.target.text, true⟩) ∧
    (∀ i ∈ sent, i.limit = setup.settings.transferTimeout) ∧
    ∀ m ∈ moved, moved.filter (fun x => x.cid = m.cid) = [m] ∧
      (s.broker.sessions.get? m.cid).map (·.host) = some m.source ∧
      (one.2.broker.sessions.get? m.cid).map (·.host) = some m.target ∧
      Address.parse? m.target.text = some m.target := by
  intro s sent one other moved missed hsettles hsettles'
  have hsound := run_sound setup events
  obtain ⟨hone, hcountSent, hcountFailed⟩ := rescale_settled setup s retiring incoming
    (positions_of_settles setup s retiring incoming hsettles)
  obtain ⟨hother, -, -⟩ := rescale_settled setup s retiring incoming
    (positions_of_settles setup s retiring incoming hsettles')
  have hstores := rescale_stores setup retiring incoming fates s
  have hmissed : fates.countP (!·.2) = missed := by
    rw [hsettles.countP_eq (!·)]
    simp [missed]
  have hdelivered : fates.countP (·.2) = sent.countP fun i => channel.delivery i = .succeeded :=
    hsettles.countP_eq id
  rw [hmissed] at hone hcountFailed
  rw [hdelivered] at hcountSent
  refine ⟨hstores.trans (rescale_stores setup retiring incoming fates' s).symm,
    ⟨_, _, hone, hother, ?_, ?_, ?_⟩, hcountFailed, hcountSent,
    map_request_instructions setup s retiring incoming,
    map_decode_instructions setup s retiring incoming, ?_, ?_⟩
  · split <;> rfl
  · intro report hreport
    split at hreport
    · cases hreport
    · cases hreport
      exact ⟨rfl, rfl⟩
  · intro e herror
    split at herror
    · next hleft =>
      cases herror
      exact ⟨_, hleft, rfl⟩
    · cases herror
  · intro i hi
    simp only [sent, instructions_eq, List.mem_map] at hi
    obtain ⟨x, -, rfl⟩ := hi
    rfl
  · intro m hm
    obtain ⟨honce, -, old, hold, hhost, hafter⟩ :=
      Broker.moved_of_mem hsound.order.agrees.sorted hsound.order.exact hm
    rw [hstores.sessions, hold, hafter, ← hhost]
    exact ⟨honce, rfl, rfl, Address.parse?_text m.target⟩

/-- A host carries two clients, and each of them can be placed elsewhere. -/
def twoPlaceable : List Event :=
  twoOnOneHost ++ [.register ⟨"new", "standalone", .unrestricted, .v4 10 0 0 3, 0, true⟩]

/-- Whether the host never replies to one of two instructions, or refuses both of them in the
other order, shows in the count alone. It is told in both cases where each of its clients
goes. -/
theorem silent_host_only_counted :
    let setup : Setup := ⟨Settings.standard, Catalog.builtin⟩
    let host : Address := .v4 10 0 0 1
    let s := run setup twoPlaceable
    let sent := s.instructions setup [host] []
    let silent : Channel := fun i => if i.position = 0 then .hangs else .replies 10 (.ok ())
    let refusing : Channel := fun _ => .replies 0 (.error (.signaling "transfer rejected"))
    let one := s.rescale setup [host] [] [(0, false), (1, true)]
    let other := s.rescale setup [host] [] [(1, false), (0, false)]
    silent.Settles sent [(0, false), (1, true)] ∧
      refusing.Settles sent [(1, false), (0, false)] ∧
      one.2.broker.SameStores other.2.broker ∧
      (∃ r r', one.1 = some (.rescaled r) ∧ other.1 = some (.rescaled r') ∧
        verdict r = verdict r') ∧
      s.broker.counters.transfersFailed = 0 ∧
      one.2.broker.counters.transfersFailed = 1 ∧ one.2.broker.counters.transfersSent = 1 ∧
      sent.map (fun i => (i.host, i.request.path)) = [(host, "/transfer"), (host, "/transfer")] ∧
      sent.map (fun i => Json.decode Wire.TransferOrder.shape i.request.body) =
        [.ok ⟨"easy", "10.0.0.2", true⟩, .ok ⟨"hard", "10.0.0.3", true⟩] := by
  intro setup host s sent silent refusing one other
  have hsilent : silent.Settles sent [(0, false), (1, true)] := by
    have hfates : sent.map silent.fate = [(0, false), (1, true)] := by decide +kernel
    rw [← hfates]
    exact silent.settles_of_perm (.refl sent)
  have hrefusing : refusing.Settles sent [(1, false), (0, false)] := by
    have hfates : sent.reverse.map refusing.fate = [(1, false), (0, false)] := by decide +kernel
    rw [← hfates]
    exact refusing.settles_of_perm sent.reverse_perm
  have hmissed : sent.countP (fun i => silent.delivery i ≠ .succeeded) = 1 := by decide +kernel
  have hdelivered : sent.countP (fun i => silent.delivery i = .succeeded) = 1 := by
    decide +kernel
  have hnone : s.broker.counters.transfersFailed = 0 := by decide +kernel
  have hsent : s.broker.counters.transfersSent = 0 := by decide +kernel
  have hmoved : (s.broker.relocate [host]).1 =
      [⟨"easy", host, .v4 10 0 0 2⟩, ⟨"hard", host, .v4 10 0 0 3⟩] := by decide +kernel
  have hspare : Address.text (.v4 10 0 0 2) = "10.0.0.2" := by decide +kernel
  have hnew : Address.text (.v4 10 0 0 3) = "10.0.0.3" := by decide +kernel
  have hnothing := receipts_decide_nothing setup twoPlaceable [host] [] silent refusing
    [(0, false), (1, true)] [(1, false), (0, false)]
  -- Left to itself, the unifier would compute the runs.
  with_reducible
    obtain ⟨hstores, ⟨r, r', hone, hother, hverdict, -⟩, hfailed, hsucceeded, hrequests, hreads,
      -⟩ := hnothing hsilent hrefusing
  have hone_failed := hfailed.trans (congrArg₂ (· + ·) hnone hmissed)
  have hone_sent := hsucceeded.trans (congrArg₂ (· + ·) hsent hdelivered)
  rw [hmoved] at hrequests hreads
  have hpaths := congrArg (List.map fun x => (x.1, x.2.path)) hrequests
  simp only [List.map_map, List.map_cons, List.map_nil, Function.comp_def] at hpaths
  simp only [List.map_cons, List.map_nil, hspare, hnew] at hreads
  with_reducible exact ⟨hsilent, hrefusing, hstores, ⟨r, r', hone, hother, hverdict⟩, hnone,
    hone_failed, hone_sent, hpaths, hreads⟩

end History

end RelayBroker
