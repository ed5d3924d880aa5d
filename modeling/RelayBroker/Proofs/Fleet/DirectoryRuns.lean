/-
  RelayBroker.Proofs.Fleet.DirectoryRuns

  The two indexes of a directory after any operations. Records may be entered in any order,
  any number of times, under session ids and hosts that occur before; each may stop waiting
  at any time, and any host may be forgotten.

  The host index is read off the operations: the last one at a host decides
  (`host?_run`). The session index is not, but it never leaves the host index behind
  (`coherent_run`), and that is enough to tell who waits.

  Main statement: `indexes_agree`.
-/

import RelayBroker.Proofs.Fleet.DirectoryIndexes
import RelayBroker.Proofs.Table.Count

namespace RelayBroker.Directory

/-! ## Runs -/

/-- What is done to a directory. -/
inductive Op where
  | insert (proxy : Proxy)
  | consume (proxy : Proxy)
  | removeHost (addr : Address)

/-- The host whose record an operation changes. -/
def Op.host? : Op → Option Address
  | .insert proxy => some proxy.addr
  | .consume _ => none
  | .removeHost addr => some addr

/-- The record that an operation enters. -/
def Op.entered? : Op → Option Proxy
  | .insert proxy => some proxy
  | .consume _ | .removeHost _ => none

/-- The directory after one operation. -/
def step (d : Directory) : Op → Directory
  | .insert proxy => (d.insert proxy).2
  | .consume proxy => (d.consume proxy).2
  | .removeHost addr => (d.removeHost addr).2

/-- The directory after some operations. -/
def run (ops : List Op) : Directory :=
  ops.foldl step empty

/-- The record that the last operation at a host has left there. -/
def lastAt (ops : List Op) (addr : Address) : Option Proxy :=
  (ops.reverse.find? (·.host? = some addr)).bind (·.entered?)

/-- No other record of the same poll is entered. -/
def Distinct (ops : List Op) (proxy : Proxy) : Prop :=
  ∀ q, .insert q ∈ ops → q.poll = proxy.poll → q = proxy

theorem run_append (ops : List Op) (op : Op) : run (ops ++ [op]) = (run ops).step op := by
  rw [run, List.foldl_append]
  rfl

/-! ## The host index -/

theorem host?_step (d : Directory) (op : Op) (addr : Address) :
    (d.step op).host? addr = if op.host? = some addr then op.entered? else d.host? addr := by
  cases op with
  | insert proxy => simp [step, host?_insert, Op.host?, Op.entered?, eq_comm]
  | consume proxy => simp [step, Op.host?]
  | removeHost a => simp [step, host?_removeHost, Op.host?, Op.entered?, eq_comm]

theorem lastAt_append (ops : List Op) (op : Op) (addr : Address) :
    lastAt (ops ++ [op]) addr =
      if op.host? = some addr then op.entered? else lastAt ops addr := by
  rw [lastAt, List.reverse_concat, List.find?_cons]
  split <;> simp_all [lastAt]

/-- The last operation at a host decides on its record. -/
theorem host?_run (ops : List Op) (addr : Address) : (run ops).host? addr = lastAt ops addr := by
  induction ops using List.reverseRecOn with
  | nil => rfl
  | append_singleton ops op ih => rw [run_append, host?_step, ih, lastAt_append]

theorem entered_of_lastAt {ops : List Op} {addr : Address} {p : Proxy}
    (h : lastAt ops addr = some p) : .insert p ∈ ops ∧ p.addr = addr := by
  obtain ⟨op, hfind, hentered⟩ := Option.bind_eq_some_iff.mp h
  have hmem : op ∈ ops := List.mem_reverse.mp (List.mem_of_find?_eq_some hfind)
  have hhost : op.host? = some addr := by simpa using List.find?_some hfind
  cases op with
  | insert q =>
    obtain rfl : q = p := Option.some.inj hentered
    exact ⟨hmem, Option.some.inj hhost⟩
  | consume q => cases hentered
  | removeHost a => cases hentered

theorem placed_run {ops : List Op} {addr : Address} {p : Proxy}
    (h : (run ops).host? addr = some p) : p.addr = addr := by
  rw [host?_run] at h
  exact (entered_of_lastAt h).2

/-! ## The session index -/

theorem Coherent.step {d : Directory} (h : d.Coherent) (op : Op) : (d.step op).Coherent := by
  cases op with
  | insert proxy => exact h.insert proxy
  | consume proxy => exact h.loses (.consumed proxy)
  | removeHost addr => exact h.loses (.forgotten addr)

theorem coherent_run (ops : List Op) : (run ops).Coherent := by
  induction ops using List.reverseRecOn with
  | nil => exact coherent_empty
  | append_singleton ops op ih =>
    rw [run_append]
    exact ih.step op

section
variable {d : Directory}

/-- Two entries at one host would both be its current record, and wait under its one id. -/
theorem Coherent.nodup_pending (h : d.Coherent) : (d.pending.map (·.addr)).Nodup := by
  rw [pending, Table.values, List.map_map]
  refine List.Nodup.map_on ?_ (List.Nodup.of_map Prod.fst d.bySession.nodup)
  rintro ⟨sid, p⟩ hp ⟨sid', q⟩ hq (haddr : p.addr = q.addr)
  have hwaits : d.session? sid = some p := Table.mem_entries.mp hp
  have hwaits' : d.session? sid' = some q := Table.mem_entries.mp hq
  obtain rfl : p = q := by
    have hcurrent := h.current hwaits
    rw [haddr, h.current hwaits'] at hcurrent
    exact (Option.some.inj hcurrent).symm
  rw [← h.named hwaits, ← h.named hwaits']

theorem Coherent.pendingSize_le (h : d.Coherent) : d.pendingSize ≤ d.size := by
  have hsub : (d.pending.map (·.addr)).toFinset ⊆ d.byHost.keys := by
    intro addr hmem
    obtain ⟨p, hp, rfl⟩ := List.mem_map.mp (List.mem_toFinset.mp hmem)
    obtain ⟨e, he, rfl⟩ := List.mem_map.mp hp
    exact Table.mem_keys.mpr ⟨_, h.current (Table.mem_entries.mp he)⟩
  calc d.pendingSize
      = (d.pending.map (·.addr)).length := by
        rw [List.length_map, pending, Table.values, List.length_map, pendingSize, Table.size]
    _ = (d.pending.map (·.addr)).toFinset.card :=
        (List.toFinset_card_of_nodup h.nodup_pending).symm
    _ ≤ d.byHost.keys.card := Finset.card_le_card hsub
    _ = d.size := Table.card_keys _

end

/-- Whoever waits was entered. -/
theorem eq_of_session?_run {ops : List Op} {proxy q : Proxy} (hd : Distinct ops proxy)
    {sid : String} (hwaits : (run ops).session? sid = some q) (hpoll : q.poll = proxy.poll) :
    q = proxy := by
  have hcurrent := (coherent_run ops).current hwaits
  rw [host?_run] at hcurrent
  exact hd q (entered_of_lastAt hcurrent).1 hpoll

theorem consume_of_waits {d : Directory} {proxy : Proxy}
    (h : d.session? proxy.sid = some proxy) :
    d.consume proxy = (true, { d with bySession := d.bySession.erase proxy.sid }) := by
  rw [consume, h]
  exact if_pos rfl

theorem consume_of_not_waits {ops : List Op} {proxy : Proxy} (hd : Distinct ops proxy)
    (h : (run ops).session? proxy.sid ≠ some proxy) :
    (run ops).consume proxy = (false, run ops) := by
  rw [consume]
  split
  · next current hcur =>
    -- The entry of the id is that of another poll.
    rw [if_neg]
    intro hpoll
    rw [hcur, eq_of_session?_run hd hcur hpoll] at h
    exact h rfl
  · rfl

/-- **The two indexes agree.** After any operations each record stands under its own host and
under its own session id, and whoever waits is the current record of its host; so no two that
wait have one host, and no more wait than there are hosts. An insertion gives back what the
last operation at the host had left there. A record that stops waiting takes its own entry
with it, and where the entry of its session id is not its own, nothing changes. -/
theorem indexes_agree (ops : List Op) :
    let d := run ops
    (∀ addr p, d.host? addr = some p → p.addr = addr) ∧
    (∀ sid p, d.session? sid = some p → p.sid = sid ∧ d.host? p.addr = some p) ∧
    (d.pending.map (·.addr)).Nodup ∧ d.pendingSize ≤ d.size ∧
    (∀ proxy, (d.insert proxy).1 = d.host? proxy.addr ∧
      d.host? proxy.addr = lastAt ops proxy.addr) ∧
    ∀ proxy, Distinct ops proxy →
      (d.session? proxy.sid = some proxy →
        d.consume proxy = (true, { d with bySession := d.bySession.erase proxy.sid })) ∧
      (d.session? proxy.sid ≠ some proxy → d.consume proxy = (false, d)) := by
  intro d
  have hc : d.Coherent := coherent_run ops
  refine ⟨fun addr p => placed_run, fun sid p hwaits => ⟨hc.named hwaits, hc.current hwaits⟩,
    hc.nodup_pending, hc.pendingSize_le, fun proxy => ⟨rfl, host?_run ops proxy.addr⟩,
    fun proxy hd => ⟨consume_of_waits, consume_of_not_waits hd⟩⟩

/-- A record of one host whose session id another host takes over, and that is entered again. -/
def idTakenTwice (first second : Proxy) : List Op :=
  [.insert first, .insert second, .insert first]

/-- The later host has no entry that could go, though it has the same session id. -/
theorem taken_id_is_kept :
    let first : Proxy := ⟨0, "same", "standalone", .unrestricted, .v4 10 0 0 1, 0⟩
    let second : Proxy := ⟨1, "same", "standalone", .unrestricted, .v4 10 0 0 2, 0⟩
    let d := run (idTakenTwice first second)
    Distinct (idTakenTwice first second) second ∧
      d.session? "same" = some first ∧ d.host? second.addr = some second ∧
      d.consume second = (false, d) ∧
      d.consume first = (true, { d with bySession := d.bySession.erase "same" }) := by
  intro first second d
  have hd : Distinct (idTakenTwice first second) second := by
    simp [Distinct, idTakenTwice, first, second]
  have hd' : Distinct (idTakenTwice first second) first := by
    simp [Distinct, idTakenTwice, first, second]
  have hwaits : d.session? "same" = some first := by decide
  have hne : d.session? "same" ≠ some second := by decide
  obtain ⟨-, -, -, -, -, hconsume⟩ := indexes_agree (idTakenTwice first second)
  exact ⟨hd, hwaits, by decide, (hconsume second hd).2 hne, (hconsume first hd').1 hwaits⟩

end RelayBroker.Directory
