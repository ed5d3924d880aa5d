/-
  RelayBroker.Proofs.Session.BindingOrder

  The order in which the clients of a host are listed. A log has the client of each
  binding, the latest one last; of a client that was bound several times the last binding
  counts, and so `List.dedup`, which keeps last occurrences, gives the clients in the order
  in which they were bound. Sessions are `Ranked` by a log if each list is in this order.
-/

import Mathlib.Data.List.Dedup
import RelayBroker.Proofs.Session.ReverseIndex

namespace RelayBroker.Sessions

/-- The clients of each host are listed in the order of their last bindings. -/
def Ranked (s : Sessions) (log : List String) : Prop :=
  ∀ host, s.ids host = log.dedup.filter fun cid => (s.get? cid).map (·.host) = some host

theorem ranked_empty : empty.Ranked [] :=
  fun _ => rfl

/-- An element that is added to a list is the last one, wherever it was before. -/
theorem dedup_concat {α : Type} [DecidableEq α] (l : List α) (a : α) :
    (l ++ [a]).dedup = l.dedup.filter (· ≠ a) ++ [a] := by
  induction l with
  | nil => rfl
  | cons b l ih =>
    rw [List.cons_append]
    by_cases hlater : b ∈ l
    · rw [List.dedup_cons_of_mem hlater, List.dedup_cons_of_mem (List.mem_append_left _ hlater), ih]
    · rw [List.dedup_cons_of_notMem hlater]
      by_cases hb : b = a
      · rw [List.dedup_cons_of_mem (by simp [hb]), List.filter_cons_of_neg (by simp [hb]), ih]
      · rw [List.dedup_cons_of_notMem (by simp [hlater, hb]),
          List.filter_cons_of_pos (by simp [hb]), ih, List.cons_append]

section
variable {s s' : Sessions} {cid : String} {log : List String}

/-- A change to one client leaves the others in their order. -/
theorem Ranked.others (hr : s.Ranked log) {now : Option Session}
    (hget : ∀ c, s'.get? c = if c = cid then now else s.get? c) (host : Address) :
    (s.ids host).filter (· ≠ cid) = (log.dedup.filter (· ≠ cid)).filter fun c =>
      (s'.get? c).map (·.host) = some host := by
  rw [hr host, List.filter_filter, List.filter_filter]
  apply List.filter_congr
  intro c _
  by_cases hc : c = cid
  · simp [hc]
  · simp [hc, hget]

/-- A client that is bound goes to the end of the log. -/
theorem Ranked.of_bound (hr : s.Ranked log) {session : Session}
    (hget : ∀ c, s'.get? c = if c = cid then some session else s.get? c)
    (hids : ∀ host, s'.ids host =
      (s.ids host).filter (· ≠ cid) ++ if host = session.host then [cid] else []) :
    s'.Ranked (log ++ [cid]) := by
  intro host
  have hcid := hget cid
  rw [if_pos rfl] at hcid
  rw [hids, dedup_concat, List.filter_append, ← hr.others hget]
  by_cases hhost : host = session.host
  · simp [hcid, hhost]
  · simp [hcid, hhost, Ne.symm hhost]

theorem Ranked.bind (hs : s.Exact) (hr : s.Ranked log) (cid : String) (nat : NatClass)
    (host : Address) : (s.bind cid nat host).Ranked (log ++ [cid]) :=
  hr.of_bound (get?_bind s cid nat host) (ids_bind hs cid nat host)

theorem Ranked.rebind (hs : s.Exact) (hr : s.Ranked log) {old : Session}
    (hget : s.get? cid = some old) (host : Address) :
    (s.rebind cid host).2.Ranked (log ++ [cid]) :=
  hr.of_bound (get?_rebind hget host) (ids_rebind hs hget host)

/-- A session that ends leaves the order of the others. -/
theorem Ranked.unbind (hs : s.Exact) (hr : s.Ranked log) (cid : String) (host : Address) :
    (s.unbind cid host).2.Ranked log := by
  rcases unbind_cases s cid host with ⟨heq, -⟩ | ⟨session, hget, rfl, heq⟩
  · rwa [heq]
  · rw [heq]
    intro host
    have hafter := get?_erased s cid session.host
    rw [ids_erased hs hget, hr.others hafter, List.filter_filter]
    apply List.filter_congr
    intro c _
    by_cases hc : c = cid
    · simp [hc, hafter]
    · simp [hc]

/-- The client that a notice binds, if it has a session. -/
def boundByNotice (s : Sessions) (cid : String) : SessionAction → List String
  | .add => if (s.get? cid).isSome then [cid] else []
  | .remove => []

theorem Ranked.notice (hs : s.Exact) (hr : s.Ranked log) (cid : String) (action : SessionAction)
    (host : Address) :
    (s.notice cid action host).2.Ranked (log ++ s.boundByNotice cid action) := by
  cases action with
  | add =>
    show (s.rebind cid host).2.Ranked _
    rw [boundByNotice]
    cases hget : s.get? cid with
    | none =>
      rw [rebind_of_none hget]
      simpa using hr
    | some old => exact hr.rebind hs hget host
  | remove =>
    rw [boundByNotice, List.append_nil]
    exact hr.unbind hs cid host

end

end RelayBroker.Sessions
