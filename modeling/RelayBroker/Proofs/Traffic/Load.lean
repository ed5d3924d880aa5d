/-
  RelayBroker.Proofs.Traffic.Load

  Whether a proxy's load counts the clients that it carries: those it announced, those
  that are being matched with it, and those whose sessions are bound to its host. It
  does not always. A step `Slips` if it moves a session without the load that goes with
  it: a match that is answered for a client whom a pooled host carries already, a notice
  that moves a session off a pooled host or onto one, and the poll of a host to which
  sessions are bound.

  Main statement: as long as every host polls at most once and no load is at its limit,
  all loads count what the proxies carry exactly if no step slips
  (`loads_meaningful_iff`).
-/

import Mathlib.Data.List.Infix
import Mathlib.Data.List.Nodup
import RelayBroker.Proofs.Broker.Balance
import RelayBroker.Proofs.Traffic.Reachable

namespace RelayBroker

/-- Some proxy of a host is pooled. -/
def Pools.Hosts (p : Pools) (a : Address) : Prop :=
  ∃ slot ∈ p.slots, slot.proxy.addr = a

theorem Pools.hosts_iff {p : Pools} (hs : p.Sorted) {a : Address} :
    p.Hosts a ↔ ∃ slot, p.slot? a = some slot := by
  constructor
  · rintro ⟨slot, hmem, rfl⟩
    exact ⟨slot, (mem_slots_iff hs).mp hmem⟩
  · rintro ⟨slot, hslot⟩
    obtain rfl := slot?_addr hs hslot
    exact ⟨slot, (mem_slots_iff hs).mpr hslot, rfl⟩

/-- Whether a waiting call is a match with a record. -/
def Call.matches (proxy : Proxy) : Call → Bool
  | .matching m => m.proxy = proxy
  | .polling _ | .moving _ => false

theorem Call.toNat_matches (m : Matching) (proxy : Proxy) :
    ((Call.matching m).matches proxy).toNat = if m.proxy = proxy then 1 else 0 := by
  simp only [Call.matches]
  split <;> simp [*]

namespace History

/-! ## What a proxy carries -/

/-- How many matches with a record wait. -/
def inFlight (s : History) (proxy : Proxy) : Nat :=
  s.traffic.calls.count (Call.matches proxy)

/-- How many clients a proxy carries: those it announced, those being matched with it,
and those whose sessions are bound to its host. -/
def burden (s : History) (proxy : Proxy) : Nat :=
  proxy.clients + s.inFlight proxy + s.broker.sessions.carried proxy.addr

/-- Each load counts the clients that the proxy carries. -/
def LoadsMeaningful (s : History) : Prop :=
  ∀ slot ∈ s.broker.pools.slots, slot.load = s.burden slot.proxy

/-- Each load counts the clients that the proxy carries, host by host. -/
def Balanced (s : History) : Prop :=
  s.broker.pools.Balanced s.burden

/-- No load is at its limit. -/
def Unsaturated (s : History) : Prop :=
  ∀ slot ∈ s.broker.pools.slots, slot.load < Number.max32

instance (s : History) : Decidable s.LoadsMeaningful :=
  inferInstanceAs (Decidable (∀ slot ∈ s.broker.pools.slots, slot.load = s.burden slot.proxy))

instance (s : History) : Decidable s.Unsaturated :=
  inferInstanceAs (Decidable (∀ slot ∈ s.broker.pools.slots, slot.load < Number.max32))

/-- The steps that move a session without its load. -/
inductive Slips (s : History) : Event → Option Outcome → Prop
  /-- A host polls to which sessions are bound. -/
  | polled {poll o} (carries : s.broker.sessions.carried poll.addr ≠ 0) :
      Slips s (.register poll) o
  /-- A notice moves a session off a pooled host, or onto one. -/
  | moved {cid addr session o} (bound : s.broker.sessions.get? cid = some session)
      (away : session.host ≠ addr)
      (pooled : s.broker.pools.Hosts session.host ∨ s.broker.pools.Hosts addr) :
      Slips s (.notify cid .add addr) o
  /-- A match is answered for a client whom a pooled host carries. -/
  | rebound {e call m answer session} (goesOn : e.call? = some call)
      (waits : s.call? call = some (.matching m))
      (bound : s.broker.sessions.get? m.request.cid = some session)
      (pooled : s.broker.pools.Hosts session.host) :
      Slips s e (some (.matched (.ok answer)))

section
variable {s : History}

theorem loadsMeaningful_iff (h : s.Sound) :
    s.LoadsMeaningful ↔ s.Balanced := by
  have hs := h.order.agrees.sorted
  constructor
  · intro hm a slot hslot
    obtain rfl := Pools.slot?_addr hs hslot
    exact hm slot ((Pools.mem_slots_iff hs).mpr hslot)
  · exact fun hb slot hmem => hb _ slot ((Pools.mem_slots_iff hs).mp hmem)

theorem Unsaturated.lt (hu : s.Unsaturated) (h : s.Sound) {a : Address} {slot : Slot}
    (hslot : s.broker.pools.slot? a = some slot) : slot.load < Number.max32 := by
  have hs := h.order.agrees.sorted
  obtain rfl := Pools.slot?_addr hs hslot
  exact hu slot ((Pools.mem_slots_iff hs).mpr hslot)

/-! ## Matches under way -/

theorem inFlight_wait (h : s.Sound) (c : Call) (proxy : Proxy) :
    (s.wait c).inFlight proxy = s.inFlight proxy + (c.matches proxy).toNat := by
  have hcount := Table.count_insert s.traffic.calls s.traffic.nextCall c (Call.matches proxy)
  rw [show s.traffic.calls.get? s.traffic.nextCall = none from h.free _ (Nat.le_refl _)] at hcount
  exact hcount

theorem inFlight_endCall {call : Nat} {c : Call} (hc : s.call? call = some c) (proxy : Proxy) :
    (s.endCall call).inFlight proxy + (c.matches proxy).toNat = s.inFlight proxy := by
  have hcount := Table.count_erase s.traffic.calls call (Call.matches proxy)
  rw [show s.traffic.calls.get? call = some c from hc] at hcount
  exact hcount

theorem inFlight_setCall_moving {call : Nat} {m m' : Moving}
    (hc : s.call? call = some (.moving m)) (proxy : Proxy) :
    (s.setCall call (.moving m')).inFlight proxy = s.inFlight proxy := by
  have hcount := Table.count_insert s.traffic.calls call (.moving m') (Call.matches proxy)
  rw [show s.traffic.calls.get? call = _ from hc] at hcount
  exact hcount

/-- No match waits for a record that was not entered. -/
theorem inFlight_eq_zero (h : s.Sound) {proxy : Proxy} (hp : proxy ∉ s.records) :
    s.inFlight proxy = 0 := by
  apply Table.count_eq_zero
  intro n c hc
  have hknown := h.known hc
  cases c with
  | matching m =>
    refine decide_eq_false fun heq => hp ?_
    rw [← heq]
    exact hknown
  | polling p => rfl
  | moving m => rfl

/-! ## Which steps slip -/

/-- A step slips only if a host polls, a client is said to have come, or a match is
answered. -/
theorem not_slips {e : Event} {o : Option Outcome} (hpoll : ∀ poll, e ≠ .register poll)
    (hadd : ∀ cid addr, e ≠ .notify cid .add addr)
    (hok : ∀ answer, o ≠ some (.matched (.ok answer))) : ¬ s.Slips e o := by
  intro hslip
  cases hslip with
  | polled carries => exact hpoll _ rfl
  | moved bound away pooled => exact hadd _ _ rfl
  | rebound goesOn waits bound pooled => exact hok _ rfl

/-- A waiting call that goes on slips only if it is a match that is answered. -/
theorem not_slips_of_goesOn {e : Event} {o : Option Outcome} {call : Nat}
    (goesOn : e.call? = some call) (hok : ∀ answer, o ≠ some (.matched (.ok answer))) :
    ¬ s.Slips e o := by
  refine not_slips ?_ ?_ hok
  · rintro poll rfl
    cases goesOn
  · rintro cid addr rfl
    cases goesOn

theorem slips_register_iff (poll : Broker.Announcement) (o : Option Outcome) :
    s.Slips (.register poll) o ↔ s.broker.sessions.carried poll.addr ≠ 0 := by
  constructor
  · intro hslip
    cases hslip with
    | polled carries => exact carries
    | rebound goesOn _ _ _ => cases goesOn
  · exact .polled

theorem slips_added_iff (cid : String) (addr : Address) (o : Option Outcome) :
    s.Slips (.notify cid .add addr) o ↔ ∃ session, s.broker.sessions.get? cid = some session ∧
      session.host ≠ addr ∧ (s.broker.pools.Hosts session.host ∨ s.broker.pools.Hosts addr) := by
  constructor
  · intro hslip
    cases hslip with
    | moved bound away pooled => exact ⟨_, bound, away, pooled⟩
    | rebound goesOn _ _ _ => cases goesOn
  · rintro ⟨session, bound, away, pooled⟩
    exact .moved bound away pooled

theorem slips_answered_iff {e : Event} {call : Nat} (goesOn : e.call? = some call) {m : Matching}
    (hwaits : s.call? call = some (.matching m)) (answer : String) :
    s.Slips e (some (.matched (.ok answer))) ↔
      ∃ session, s.broker.sessions.get? m.request.cid = some session ∧
        s.broker.pools.Hosts session.host := by
  constructor
  · intro hslip
    cases hslip with
    | polled carries => cases goesOn
    | moved bound away pooled => cases goesOn
    | rebound goesOn' waits bound pooled =>
      obtain rfl := Option.some.inj (goesOn.symm.trans goesOn')
      obtain rfl : m = _ := by simpa using hwaits.symm.trans waits
      exact ⟨_, bound, pooled⟩
  · rintro ⟨session, bound, pooled⟩
    exact .rebound goesOn hwaits bound pooled

/-! ## Proxies that are handed out -/

/-- What a proxy is that was handed out: its slot counts one client more. -/
theorem reloads_of_borrow (h : s.Sound) {nat : NatClass} {proxy : Proxy} {b : Broker}
    (hb : s.broker.borrow nat = (some proxy, b)) :
    ∃ slot, slot.proxy = proxy ∧ s.broker.pools.Reloads slot (LoadHeap.bump slot.load) b.pools := by
  simp only [Broker.borrow, Prod.mk.injEq] at hb
  obtain ⟨hproxy, rfl⟩ := hb
  rcases Pools.borrow_cases h.order.agrees.sorted nat with ⟨heq, -⟩ | ⟨slot, heq, -, hr⟩
  · simp [heq] at hproxy
  · exact ⟨slot, by simpa [heq] using hproxy, hr⟩

theorem same_of_borrow_none (h : s.Sound) {nat : NatClass} {b : Broker}
    (hb : s.broker.borrow nat = (none, b)) :
    b.pools = s.broker.pools ∧ b.sessions = s.broker.sessions := by
  simp only [Broker.borrow, Prod.mk.injEq] at hb
  obtain ⟨hnone, rfl⟩ := hb
  rcases Pools.borrow_cases h.order.agrees.sorted nat with ⟨heq, -⟩ | ⟨slot, heq, -, -⟩
  · exact ⟨by rw [heq], rfl⟩
  · simp [heq] at hnone

/-- The pools after a proxy was handed out, with the new match counted. -/
theorem balanced_borrow (h : s.Sound) (hu : s.Unsaturated)
    (hbal : s.Balanced) {nat : NatClass} {proxy : Proxy} {b : Broker}
    (hb : s.broker.borrow nat = (some proxy, b)) :
    b.pools.Balanced fun p => s.burden p + if proxy = p then 1 else 0 := by
  have hpooled := h.order.agrees.pooled_of_borrow hb
  obtain ⟨slot, rfl, hr⟩ := reloads_of_borrow h hb
  apply hbal.bump hr (hu.lt h hr.before)
  intro a other hother
  simp only [Pools.addr_eq_iff_of_pooled h.order.agrees.sorted hpooled hother]

/-- A proxy is handed out and the client is taken off it again. -/
theorem balanced_bounced (h : s.Sound) (hu : s.Unsaturated)
    (hbal : s.Balanced) {nat : NatClass} {proxy : Proxy} {b : Broker}
    (hb : s.broker.borrow nat = (some proxy, b)) :
    (b.giveBack proxy).pools.Balanced s.burden := by
  -- One client more and one client less, at the same host.
  have hraised := balanced_borrow h hu hbal hb
  have hbefore := h.order.agrees.pooled_of_borrow hb
  have hmem := (h.order.agrees.of_pooled hbefore).2.2
  have hagrees : b.Agrees s.records := (h.order.borrow hb).agrees
  have hpooled : b.pools.proxy? proxy.addr = some proxy := by
    obtain ⟨slot, rfl, hr⟩ := reloads_of_borrow h hb
    rw [hr.proxy?, hbefore]
  rw [Broker.pools_giveBack hagrees hmem, if_pos hpooled]
  apply hraised.release hagrees.sorted
  intro a other hother
  simp only [Pools.addr_eq_iff_of_pooled hagrees.sorted hpooled hother]

/-- A match that begins to wait counts for its proxy. -/
theorem burden_wait_matching (h : s.Sound) {b : Broker} (hb : b.InOrder s.records)
    (hsessions : b.sessions = s.broker.sessions) (m : Matching) (p : Proxy) :
    ((s.setBroker b).wait (.matching m)).burden p =
      s.burden p + if m.proxy = p then 1 else 0 := by
  have hwait := inFlight_wait (h.setBroker hb) (.matching m) p
  have hflight : (s.setBroker b).inFlight p = s.inFlight p := rfl
  have hcarried : ((s.setBroker b).wait (.matching m)).broker.sessions.carried p.addr =
      s.broker.sessions.carried p.addr := by
    rw [← hsessions]
    rfl
  simp only [burden, hwait, Call.toNat_matches, hflight, hcarried]
  omega

theorem balanced_waiting (h : s.Sound) (hu : s.Unsaturated) (hbal : s.Balanced) {nat : NatClass}
    {m : Matching} {b b' : Broker} (hb : s.broker.borrow nat = (some m.proxy, b))
    (order : b'.InOrder s.records) (hpools : b'.pools = b.pools)
    (hsessions : b'.sessions = s.broker.sessions) :
    ((s.setBroker b').wait (.matching m)).Balanced := by
  show b'.pools.Balanced _
  rw [hpools]
  exact (balanced_borrow h hu hbal hb).of_fewer (fun _ _ => id) fun a slot _ =>
    burden_wait_matching h order hsessions m slot.proxy

/-! ## Matches that end -/

theorem inFlight_concluded {call : Nat} {m : Matching} (hwaits : s.call? call = some (.matching m))
    (b : Broker) (p : Proxy) :
    ((s.setBroker b).endCall call).inFlight p + (if m.proxy = p then 1 else 0) = s.inFlight p := by
  have hend := inFlight_endCall (s := s.setBroker b) hwaits p
  rwa [Call.toNat_matches] at hend

theorem burden_concluded {call : Nat} {m : Matching} (hwaits : s.call? call = some (.matching m))
    {b : Broker} (hsessions : b.sessions = s.broker.sessions) (p : Proxy) :
    ((s.setBroker b).endCall call).burden p + (if m.proxy = p then 1 else 0) = s.burden p := by
  have hflight := inFlight_concluded hwaits b p
  have hcarried : ((s.setBroker b).endCall call).broker.sessions = s.broker.sessions := hsessions
  simp only [burden, hcarried]
  omega

/-- A match whose proxy is not pooled counts for no load. -/
theorem burden_concluded_of_not_pooled (h : s.Sound) {call : Nat} {m : Matching}
    (hwaits : s.call? call = some (.matching m))
    (hout : s.broker.pools.proxy? m.proxy.addr ≠ some m.proxy) {b : Broker}
    (hsessions : b.sessions = s.broker.sessions) {a : Address} {slot : Slot}
    (hslot : s.broker.pools.slot? a = some slot) :
    ((s.setBroker b).endCall call).burden slot.proxy = s.burden slot.proxy := by
  have hne : m.proxy ≠ slot.proxy := fun heq => hout (by
    rw [heq, Pools.slot?_addr h.order.agrees.sorted hslot, Pools.proxy?, hslot]
    rfl)
  have hburden := burden_concluded hwaits hsessions slot.proxy
  rwa [if_neg hne] at hburden

/-- A match that ends without an answer is taken off its proxy. -/
theorem balanced_given_back (h : s.Sound) (hbal : s.Balanced)
    {call : Nat} {m : Matching} (hwaits : s.call? call = some (.matching m)) {b b' : Broker}
    (hagrees : b.Agrees s.records) (hpools : b.pools = s.broker.pools)
    (hafter : b'.pools = (b.giveBack m.proxy).pools)
    (hsessions : b'.sessions = s.broker.sessions) :
    ((s.setBroker b').endCall call).Balanced := by
  show b'.pools.Balanced _
  rw [hafter, Broker.pools_giveBack hagrees (h.known hwaits), hpools]
  -- The record is still pooled and is released, or it is not and counts for no load.
  split
  · next hpooled =>
    apply hbal.release h.order.agrees.sorted
    intro a other hother
    simp only [Pools.addr_eq_iff_of_pooled h.order.agrees.sorted hpooled hother]
    exact burden_concluded hwaits hsessions other.proxy
  · next hout =>
    exact (Pools.Balanced.iff_of_balanced hbal).mpr fun a other hother =>
      burden_concluded_of_not_pooled h hwaits hout hsessions hother

/-- A match that is answered becomes a session of its proxy; an older session of the
client is lost to its host. -/
theorem burden_bound (apart : (s.records.map (·.addr)).Nodup) (h : s.Sound) {call : Nat}
    {m : Matching} (hwaits : s.call? call = some (.matching m)) {b : Broker}
    (hsessions : b.sessions =
      s.broker.sessions.bind m.request.cid m.request.nat m.proxy.addr)
    {p : Proxy} (hp : p ∈ s.records) :
    ((s.setBroker b).endCall call).burden p +
      Sessions.countsAt (s.broker.sessions.get? m.request.cid) p.addr = s.burden p := by
  have hflight := inFlight_concluded hwaits b p
  have hcarried := Sessions.carried_bind s.broker.sessions m.request.cid m.request.nat
    m.proxy.addr p.addr
  -- Hosts poll once, so the session counts for the very record that was matched.
  have hsame : m.proxy.addr = p.addr ↔ m.proxy = p :=
    ⟨fun heq => List.inj_on_of_nodup_map apart (h.known hwaits) hp heq, congrArg _⟩
  simp only [hsame] at hcarried
  have hafter : ((s.setBroker b).endCall call).broker.sessions =
    s.broker.sessions.bind m.request.cid m.request.nat m.proxy.addr := hsessions
  simp only [burden, hafter]
  omega

/-- A client that is bound by an answer leaves the loads as they should be, unless a
pooled host carried it before. -/
theorem balanced_bound_iff (apart : (s.records.map (·.addr)).Nodup) (h : s.Sound)
    (hbal : s.Balanced) {e : Event} {call : Nat} (goesOn : e.call? = some call)
    {m : Matching} (hwaits : s.call? call = some (.matching m)) {b : Broker}
    (hpools : b.pools = s.broker.pools)
    (hsessions : b.sessions = s.broker.sessions.bind m.request.cid m.request.nat m.proxy.addr)
    (answer : String) :
    ((s.setBroker b).endCall call).Balanced ↔ ¬ s.Slips e (some (.matched (.ok answer))) := by
  have hs := h.order.agrees.sorted
  have hlost {a : Address} {slot : Slot} (hslot : s.broker.pools.slot? a = some slot) :=
    burden_bound apart h hwaits hsessions
      (h.order.agrees.of_pooled (Pools.proxy?_eq_some_iff.mpr ⟨slot.load, hslot⟩)).2.2
  show b.pools.Balanced _ ↔ _
  rw [slips_answered_iff goesOn hwaits, hpools]
  refine (Pools.Balanced.iff_of_balanced hbal).trans ?_
  -- Each load is right as long as the client was counted nowhere else before.
  constructor
  · rintro hall ⟨session, hget, hhosts⟩
    obtain ⟨slot, hslot⟩ := (Pools.hosts_iff hs).mp hhosts
    have hburden := hlost hslot
    rw [hall _ _ hslot, hget, Pools.slot?_addr hs hslot, Sessions.countsAt_some,
      if_pos rfl] at hburden
    omega
  · intro hno a slot hslot
    have hnone : Sessions.countsAt (s.broker.sessions.get? m.request.cid) slot.proxy.addr = 0 := by
      cases hget : s.broker.sessions.get? m.request.cid with
      | none => rfl
      | some session =>
        have hleft : session.host ≠ slot.proxy.addr := fun heq => hno
          ⟨session, hget, (Pools.hosts_iff hs).mpr ⟨slot, by
            rw [heq, Pools.slot?_addr hs hslot, hslot]⟩⟩
        rw [Sessions.countsAt_some, if_neg hleft]
    have hburden := hlost hslot
    rw [hnone] at hburden
    exact hburden

/-- However a match ends, it leaves the loads as they should be, unless it slips. -/
theorem balanced_concluded_iff (apart : (s.records.map (·.addr)).Nodup) (h : s.Sound)
    (hbal : s.Balanced) {e : Event} {call : Nat} (goesOn : e.call? = some call)
    {m : Matching} (hwaits : s.call? call = some (.matching m)) {b : Broker}
    (hagrees : b.Agrees s.records) (hpools : b.pools = s.broker.pools)
    (hdir : b.directory = s.broker.directory) (hsessions : b.sessions = s.broker.sessions)
    (reply : Broker.Reply) :
    ((s.setBroker (b.concludeMatch m.request m.proxy reply).2).endCall call).Balanced ↔
      ¬ s.Slips e (some (.matched (b.concludeMatch m.request m.proxy reply).1)) := by
  have hquiet {error : BrokerError} : ¬ s.Slips e (some (.matched (.error error))) :=
    not_slips_of_goesOn goesOn (by simp)
  have hback : (b.giveBack m.proxy).sessions = s.broker.sessions := by
    rw [Broker.sessions_giveBack, hsessions]
  cases reply with
  | answered answer =>
    cases hhost : b.directory.host? m.proxy.addr with
    | none =>
      -- The host was retired: the match fails, and its proxy is not pooled.
      have hout : s.broker.pools.proxy? m.proxy.addr ≠ some m.proxy := fun hin => by
        rw [hdir, (h.order.agrees.of_pooled hin).1] at hhost
        cases hhost
      simp only [Broker.concludeMatch, Broker.bindAnswered, hhost]
      refine iff_of_true ?_ hquiet
      show b.pools.Balanced _
      rw [hpools]
      exact (Pools.Balanced.iff_of_balanced hbal).mpr fun a slot hslot =>
        burden_concluded_of_not_pooled h hwaits hout hsessions hslot
    | some current =>
      simp only [Broker.concludeMatch, Broker.bindAnswered, hhost]
      refine balanced_bound_iff apart h hbal goesOn hwaits ?_ ?_ answer
      · exact hpools
      · rw [hsessions]
  | failed error =>
    exact iff_of_true (balanced_given_back h hbal hwaits hagrees hpools rfl hback) hquiet
  | timedOut =>
    exact iff_of_true (balanced_given_back h hbal hwaits hagrees hpools rfl hback) hquiet

/-! ## Polls and notices -/

/-- A host that polls starts with the clients that it announces, and so with too small a
load if sessions are bound to it. -/
theorem balanced_registered_iff (h : s.Sound) (hbal : s.Balanced)
    (poll : Broker.Announcement) (o : Option Outcome) :
    Balanced ⟨(s.traffic.register poll).2, s.records ++ [(s.traffic.register poll).1]⟩ ↔
      ¬ s.Slips (.register poll) o := by
  have hs := h.order.agrees.sorted
  -- No match can wait for a record that is just being entered.
  have hnew : (s.broker.register poll).1 ∉ s.records := fun hmem =>
    Nat.lt_irrefl _ (h.order.agrees.lt_nextPoll hmem)
  have hburden : s.burden (s.broker.register poll).1 =
      poll.clients + s.broker.sessions.carried poll.addr := by
    rw [burden, inFlight_eq_zero h hnew]
    rfl
  show (s.broker.register poll).2.pools.Balanced s.burden ↔ _
  rw [slips_register_iff, not_ne_iff]
  constructor
  · intro hall
    have hclients : poll.clients = s.burden (s.broker.register poll).1 :=
      hall poll.addr ⟨_, _⟩ (by rw [slot?_register hs, if_pos rfl])
    omega
  · intro hzero a slot hslot
    rw [slot?_register hs] at hslot
    split at hslot
    · obtain rfl := Option.some.inj hslot
      show poll.clients = s.burden (s.broker.register poll).1
      omega
    · exact hbal a slot hslot

/-- A session that moves to another host takes what it counts for along. -/
theorem burden_rebound {cid : String} {old : Session}
    (hget : s.broker.sessions.get? cid = some old) (addr : Address) (p : Proxy) :
    (s.setBroker { s.broker with sessions := (s.broker.sessions.rebind cid addr).2 }).burden p +
        (if old.host = p.addr then 1 else 0) =
      s.burden p + if addr = p.addr then 1 else 0 := by
  have hcarried := Sessions.carried_rebind hget addr p.addr
  simp only [burden, inFlight, setBroker]
  omega

/-- A session that is said to be at another host leaves one load too large, or makes one
too small. -/
theorem balanced_added_iff (h : s.Sound) (hbal : s.Balanced) (cid : String)
    (addr : Address) (o : Option Outcome) :
    (s.setBroker (s.broker.notify cid .add addr).2).Balanced ↔
      ¬ s.Slips (.notify cid .add addr) o := by
  have hs := h.order.agrees.sorted
  have hnotify : (s.broker.notify cid .add addr).2 =
      { s.broker with sessions := (s.broker.sessions.rebind cid addr).2 } := by
    simp [Broker.notify, Sessions.notice]
  rw [slips_added_iff, hnotify]
  refine (Pools.Balanced.iff_of_balanced hbal).trans ?_
  cases hget : s.broker.sessions.get? cid with
  | none =>
    rw [Sessions.rebind_of_none hget]
    simp [burden, inFlight, setBroker]
  | some old =>
    have hburden (p : Proxy) := burden_rebound hget addr p
    -- A pooled host that the session leaves keeps a load too large, and one to which it comes
    -- has a load too small; hosts that are not pooled have no load.
    constructor
    · rintro hall ⟨session, hsession, haway, hhosts⟩
      obtain rfl := Option.some.inj hsession
      rcases hhosts with hin | hin
      · obtain ⟨slot, hslot⟩ := (Pools.hosts_iff hs).mp hin
        have hleft := hburden slot.proxy
        rw [hall _ slot hslot, Pools.slot?_addr hs hslot, if_pos rfl,
          if_neg fun heq => haway heq.symm] at hleft
        omega
      · obtain ⟨slot, hslot⟩ := (Pools.hosts_iff hs).mp hin
        have hcame := hburden slot.proxy
        rw [hall _ slot hslot, Pools.slot?_addr hs hslot, if_pos rfl, if_neg haway] at hcame
        omega
    · intro hno a slot hslot
      have hmoved := hburden slot.proxy
      obtain rfl := Pools.slot?_addr hs hslot
      have hin : s.broker.pools.Hosts slot.proxy.addr := (Pools.hosts_iff hs).mpr ⟨slot, hslot⟩
      by_cases haway : old.host = addr
      · rw [haway] at hmoved
        omega
      · have hleft : old.host ≠ slot.proxy.addr := fun heq =>
          hno ⟨old, rfl, haway, .inl (heq ▸ hin)⟩
        have hcame : addr ≠ slot.proxy.addr := fun heq =>
          hno ⟨old, rfl, haway, .inr (heq ▸ hin)⟩
        rw [if_neg hleft, if_neg hcame] at hmoved
        exact hmoved

/-- A session that has ended is taken off its host. -/
theorem balanced_removed (h : s.Sound) (hbal : s.Balanced) (cid : String) (addr : Address) :
    (s.setBroker (s.broker.notify cid .remove addr).2).Balanced := by
  -- Only the host to which the session is bound can end it, and its load is released.
  rcases Sessions.unbind_cases s.broker.sessions cid addr with ⟨heq, -⟩ | ⟨session, hget, rfl, heq⟩
  · have hnotify : (s.broker.notify cid .remove addr).2 = s.broker := by
      simp [Broker.notify, Sessions.notice, heq]
    rw [hnotify]
    exact hbal
  · have hnotify : (s.broker.notify cid .remove session.host).2 =
        { s.broker with
          sessions := (s.broker.sessions.unbind cid session.host).2
          pools := (s.broker.pools.release session.host).2 } := by
      simp [Broker.notify, Sessions.notice, heq]
    rw [hnotify]
    apply Pools.Balanced.release h.order.agrees.sorted hbal
    intro a slot hslot
    have hcarried := Sessions.carried_erased hget session.host slot.proxy.addr
    rw [← Pools.slot?_addr h.order.agrees.sorted hslot]
    simp only [burden, inFlight, setBroker, heq]
    omega

/-! ## Rescales -/

/-- Sessions that are moved off retired hosts take their load along. -/
theorem balanced_relocated (h : s.Sound) (hbal : s.Balanced) (retiring : List Address)
    {b : Broker} (hpools : b.pools = (s.broker.relocate retiring).2.2.pools)
    (hsessions : b.sessions = (s.broker.relocate retiring).2.2.sessions)
    (hu : (s.setBroker b).Unsaturated) : (s.setBroker b).Balanced := by
  have hs := h.order.agrees.sorted
  have hready := Relocation.ready_start hs h.order.exact retiring
  have hmoves := Relocation.start_moves hs h.order.exact retiring
  -- The hosts that retire leave the pools first, and with them their loads.
  have hstart : (Relocation.start s.broker retiring).pools.Balanced fun p =>
      (p.clients + s.inFlight p) +
        (Relocation.start s.broker retiring).sessions.carried p.addr := by
    refine Pools.Balanced.of_fewer hbal (fun a slot hslot => ?_) fun _ _ _ => rfl
    rw [Relocation.start, Pools.slot?_removeAll hs] at hslot
    split at hslot
    · cases hslot
    · exact hslot
  have hsorted := (hready.moves hmoves).sorted
  rw [Broker.relocate_eq] at hpools hsessions
  rcases Relocation.Moves.balanced hready hmoves hstart with hb | ⟨a, slot, hslot, hle⟩
  · show b.pools.Balanced _
    rw [hpools]
    intro a slot hslot
    have hload := hb a slot hslot
    have hcarried : (s.setBroker b).broker.sessions =
        (Relocation.clearHosts retiring (Relocation.start s.broker retiring)).1.sessions :=
      hsessions
    rw [burden, hcarried]
    exact hload
  · -- Loads do not fall in the loop, so a load at its limit would still be there.
    obtain rfl := Pools.slot?_addr hsorted hslot
    have hmem : slot ∈ (s.setBroker b).broker.pools.slots := by
      show slot ∈ b.pools.slots
      rw [hpools]
      exact (Pools.mem_slots_iff hsorted).mpr hslot
    have hlt := hu slot hmem
    omega

/-! ## Every step -/

/-- Hosts leave the pools at most, and neither matches nor sessions change. -/
theorem Balanced.of_frame {s' : History} (hbal : s.Balanced)
    (fewer : ∀ a slot, s'.broker.pools.slot? a = some slot → s.broker.pools.slot? a = some slot)
    (flight : ∀ p, s'.inFlight p = s.inFlight p)
    (sessions : s'.broker.sessions = s.broker.sessions) : s'.Balanced :=
  Pools.Balanced.of_fewer hbal fewer fun a slot _ => by rw [burden, burden, flight, sessions]

theorem balanced_endPoll (h : s.Sound) (hbal : s.Balanced) {b : Broker} {proxy : Proxy}
    (hpools : b.pools = s.broker.pools) (hsessions : b.sessions = s.broker.sessions)
    (polled : Option Offer) : (s.setBroker (b.endPoll proxy polled).2).Balanced := by
  refine hbal.of_frame (fun a slot hslot => ?_) (fun _ => rfl)
    ((Broker.sessions_endPoll ..).trans hsessions)
  have hin := Broker.slot?_of_endPoll (hpools ▸ h.order.agrees.sorted) hslot
  rwa [hpools] at hin

/-- A call that ends and is no match takes nothing off a load. -/
theorem Balanced.endCall (hbal : s.Balanced) {call : Nat} {c : Call} (hc : s.call? call = some c)
    (hno : ∀ p, c.matches p = false) : (s.endCall call).Balanced := by
  refine hbal.of_frame (fun _ _ => id) (fun p => ?_) rfl
  have hend := inFlight_endCall hc p
  rwa [hno, Bool.toNat_false] at hend

theorem Balanced.wait (hbal : s.Balanced) (h : s.Sound) {c : Call}
    (hno : ∀ p, c.matches p = false) : (s.wait c).Balanced := by
  refine hbal.of_frame (fun _ _ => id) (fun p => ?_) rfl
  rw [inFlight_wait h, hno, Bool.toNat_false, Nat.add_zero]

/-- Every change leaves the loads as they should be, unless it slips. -/
theorem Change.balanced_iff {setup : Setup} {e : Event} {o : Option Outcome} {s' : History}
    (apart : (s.records.map (·.addr)).Nodup) (h : s.Sound) (hbal : s.Balanced)
    (hu : s.Unsaturated) (hu' : s'.Unsaturated) (hc : Change setup s e o s') :
    s'.Balanced ↔ ¬ s.Slips e o := by
  -- Three kinds of change can slip: a poll, a notice and a match that is answered. All the
  -- others keep the loads.
  cases hc with
  | idle goesOn => exact iff_of_true hbal (not_slips_of_goesOn goesOn (by simp))
  | unknown absent => exact iff_of_true hbal (not_slips (by simp) (by simp) (by simp))
  | registered poll => exact balanced_registered_iff h hbal poll none
  | refused checked => exact iff_of_true hbal (not_slips (by simp) (by simp) (by simp))
  | denied checked borrowed =>
    refine iff_of_true ?_ (not_slips (by simp) (by simp) (by simp))
    obtain ⟨hpools, hsessions⟩ := same_of_borrow_none h borrowed
    exact hbal.of_frame (fun a slot hslot => hpools ▸ hslot) (fun _ => rfl) hsessions
  | pushed checked borrowed mode =>
    refine iff_of_true ?_ (not_slips (by simp) (by simp) (by simp))
    exact balanced_waiting h hu hbal borrowed (h.order.borrow borrowed) rfl
      (Broker.sessions_of_borrow borrowed)
  | parked checked borrowed mode posted =>
    refine iff_of_true ?_ (not_slips (by simp) (by simp) (by simp))
    have hsessions := Broker.sessions_of_borrow borrowed
    exact balanced_waiting h hu hbal borrowed
      ((h.order.borrow borrowed).setMailbox (Mailbox.closed_post posted)) rfl hsessions
  | @bounced request _ proxy b _ checked borrowed mode posted =>
    refine iff_of_true ?_ (not_slips (by simp) (by simp) (by simp [Broker.concludeMatch]))
    have hsessions : (b.giveBack proxy).sessions = s.broker.sessions :=
      (Broker.sessions_giveBack ..).trans (Broker.sessions_of_borrow borrowed)
    refine (balanced_bounced h hu hbal borrowed).of_fewer (fun _ _ => id) ?_
    intro a slot _
    show _ + _ + (b.giveBack proxy).sessions.carried _ = _
    rw [hsessions]
    rfl
  | awaited entered =>
    exact iff_of_true (hbal.wait h fun _ => rfl) (not_slips (by simp) (by simp) (by simp))
  | polledAtOnce entered taken =>
    obtain ⟨hpools, -, hsessions⟩ := Broker.sameStores_of_takeOffer taken
    exact iff_of_true (balanced_endPoll h hbal hpools hsessions _)
      (not_slips (by simp) (by simp) (by simp))
  | polled glances waits taken =>
    obtain ⟨hpools, -, hsessions⟩ := Broker.sameStores_of_takeOffer taken
    exact iff_of_true ((balanced_endPoll h hbal hpools hsessions _).endCall waits fun _ => rfl)
      (not_slips_of_goesOn glances.call? (by simp))
  | pollExpired waits nothing =>
    exact iff_of_true ((balanced_endPoll h hbal rfl rfl none).endCall waits fun _ => rfl)
      (not_slips_of_goesOn rfl (by simp))
  | answered sid answer =>
    refine iff_of_true ?_ (not_slips (by simp) (by simp) (by simp))
    have hsame := s.broker.sameStores_submitAnswer sid answer
    exact hbal.of_frame (fun a slot hslot => hsame.pools ▸ hslot) (fun _ => rfl) hsame.sessions
  | noticed cid action addr =>
    cases action with
    | add => exact balanced_added_iff h hbal cid addr none
    | remove =>
      exact iff_of_true (balanced_removed h hbal cid addr)
        (not_slips (by simp) (by simp) (by simp))
  | rescaledNothing => exact iff_of_true hbal (not_slips (by simp) (by simp) (by simp))
  | @rescaled retiring _ _ _ relocated =>
    refine iff_of_true (balanced_relocated h hbal retiring ?_ ?_ hu')
      (not_slips (by simp) (by simp) (by simp))
    · rw [relocated]
      exact (Broker.sameStores_concludeRescale ..).pools
    · rw [relocated]
      exact (Broker.sameStores_concludeRescale ..).sessions
  | @moving retiring _ _ _ _ relocated moved =>
    refine iff_of_true (Balanced.wait ?_ ?_ fun _ => rfl) (not_slips (by simp) (by simp) (by simp))
    · exact balanced_relocated h hbal retiring (by rw [relocated]) (by rw [relocated]) hu'
    · exact h.setBroker (h.order.relocate relocated)
  | replied waits pushed =>
    exact balanced_concluded_iff apart h hbal rfl waits h.order.agrees rfl rfl rfl _
  | collected glances waits parked found =>
    exact balanced_concluded_iff apart h hbal glances.call? waits
      (h.order.agrees.setMailbox (Mailbox.closed_check found)) rfl rfl rfl _
  | @expired call m waits silent =>
    obtain ⟨hpools, hdir, hsessions⟩ := sameStores_abandoned s.broker m
    exact balanced_concluded_iff apart h hbal rfl waits (inOrder_abandoned h.order m).agrees hpools
      hdir hsessions _
  | settled waits sent others =>
    refine iff_of_true ?_ (not_slips_of_goesOn rfl (by simp))
    exact hbal.of_frame (fun _ _ => id) (fun p => inFlight_setCall_moving waits p) rfl
  | @settledLast _ _ delivered _ waits sent last =>
    refine iff_of_true (Balanced.endCall ?_ waits fun _ => rfl) (not_slips_of_goesOn rfl (by simp))
    have hsame := Broker.sameStores_concludeRescale (s.broker.countTransfer delivered)
    refine hbal.of_frame ?_ (fun _ => rfl) (hsame ..).sessions
    intro a slot hslot
    exact (hsame ..).pools ▸ hslot

end

/-! ## Runs -/

/-- The host that polls in an event. -/
def Event.polled? : Event → Option Address
  | .register poll => some poll.addr
  | _ => none

theorem step_records_addr (setup : Setup) (s : History) (e : Event) :
    (s.step setup e).2.records.map (·.addr) = s.records.map (·.addr) ++ e.polled?.toList := by
  cases e with
  | register poll => exact List.map_append
  | await poll =>
    simp only [step]
    split <;> exact (List.append_nil _).symm
  | startMatch | submitAnswer | notify | rescale | reply | settle | wake | expire =>
    exact (List.append_nil _).symm

/-- The records are those of the hosts that polled, in order. -/
theorem run_records_addr (setup : Setup) (events : List Event) :
    (run setup events).records.map (·.addr) = events.filterMap Event.polled? := by
  induction events using List.reverseRecOn with
  | nil => rfl
  | append_singleton events e ih =>
    rw [run_append, step_records_addr, ih, List.filterMap_append]
    cases h : e.polled? <;> simp [h]

theorem balanced_start : start.Balanced := fun _ _ hslot => by
  simp [start, Traffic.empty, Broker.empty] at hslot

/-- As long as every host polls at most once and no load is at its limit, the loads count
what the proxies carry exactly if no step slips. -/
theorem loads_meaningful_iff (setup : Setup) (events : List Event)
    (once : (events.filterMap Event.polled?).Nodup)
    (below : ∀ before, before <+: events → (run setup before).Unsaturated) :
    (∀ before, before <+: events → (run setup before).LoadsMeaningful) ↔
      ∀ before e, before ++ [e] <+: events →
        ¬ (run setup before).Slips e ((run setup before).step setup e).1 := by
  -- What one step does to the balance, at every point of the run.
  have hstep (before : List Event) (e : Event) (hpre : before ++ [e] <+: events)
      (hbal : (run setup before).Balanced) : (run setup (before ++ [e])).Balanced ↔
        ¬ (run setup before).Slips e ((run setup before).step setup e).1 := by
    have hbefore : before <+: events := (List.prefix_append before [e]).trans hpre
    have hapart : ((run setup before).records.map (·.addr)).Nodup := by
      rw [run_records_addr]
      exact (hbefore.sublist.filterMap _).nodup once
    have hafter := below _ hpre
    rw [run_append] at hafter ⊢
    exact Change.balanced_iff hapart (run_sound setup before) hbal (below _ hbefore) hafter
      (step_change setup _ e)
  simp only [loadsMeaningful_iff (run_sound setup _)]
  constructor
  · intro hall before e hpre
    have hbal := hall _ ((List.prefix_append before [e]).trans hpre)
    exact (hstep before e hpre hbal).mp (hall _ hpre)
  · intro hno before hpre
    induction before using List.reverseRecOn with
    | nil => exact balanced_start
    | append_singleton before e ih =>
      have hbal := ih ((List.prefix_append before [e]).trans hpre)
      exact (hstep before e hpre hbal).mpr (hno before e hpre)

/-- Two hosts poll, and a client that the first one carries is matched with the second. -/
def matchedTwice : List Event :=
  let request : ClientRequest := ⟨"c1", .unrestricted, "", "a=candidate:1"⟩
  [.register ⟨"s1", "standalone", .unrestricted, .v4 10 0 0 1, 0, true⟩,
    .register ⟨"s2", "standalone", .unrestricted, .v4 10 0 0 2, 0, true⟩,
    .startMatch request, .reply 0 (.ok "ANSWER"), .startMatch request, .reply 1 (.ok "ANSWER")]

/-- The first host keeps the load of the session that has moved to the second. -/
theorem loads_slip_when_matched_twice :
    let setup : Setup := ⟨Settings.standard, Catalog.builtin⟩
    (matchedTwice.filterMap Event.polled?).Nodup ∧
    (∀ before, before <+: matchedTwice → (run setup before).Unsaturated) ∧
    ¬ (run setup matchedTwice).LoadsMeaningful ∧
    ∃ before e, before ++ [e] <+: matchedTwice ∧
      (run setup before).Slips e ((run setup before).step setup e).1 := by
  intro setup
  have once : (matchedTwice.filterMap Event.polled?).Nodup := by decide
  have below : ∀ before, before <+: matchedTwice → (run setup before).Unsaturated := by
    have hinits : ∀ before ∈ matchedTwice.inits, (run setup before).Unsaturated := by
      decide +kernel
    exact fun before hpre => hinits before ((List.mem_inits ..).mpr hpre)
  have broken : ¬ (run setup matchedTwice).LoadsMeaningful := by decide +kernel
  refine ⟨once, below, broken, ?_⟩
  by_contra hnone
  refine broken ((loads_meaningful_iff setup matchedTwice once below).mpr ?_ _ (List.prefix_refl _))
  exact fun before e hpre hslip => hnone ⟨before, e, hpre, hslip⟩

end History

end RelayBroker
