/-
  RelayBroker.Proofs.Fleet.DirectoryView

  What the operations on the directory do to the current records of the hosts. Taking a
  record off the session index (`consume`) leaves them as they are.
-/

import RelayBroker.Fleet.Directory

namespace RelayBroker.Directory

@[simp] theorem host?_empty (addr : Address) : empty.host? addr = none := rfl

@[simp] theorem host?_consume (d : Directory) (proxy : Proxy) (a : Address) :
    (d.consume proxy).2.host? a = d.host? a := by
  rw [consume]
  split
  · split <;> rfl
  · rfl

theorem host?_insert (d : Directory) (proxy : Proxy) (a : Address) :
    (d.insert proxy).2.host? a = if a = proxy.addr then some proxy else d.host? a := by
  -- The record that it replaces leaves the session index only.
  have hentered : host? { d with byHost := d.byHost.insert proxy.addr proxy } a =
      if a = proxy.addr then some proxy else d.host? a :=
    Table.get?_insert ..
  rw [← hentered]
  simp only [insert]
  split
  · exact host?_consume ..
  · rfl

theorem host?_removeHost (d : Directory) (addr a : Address) :
    (d.removeHost addr).2.host? a = if a = addr then none else d.host? a := by
  -- As on insertion, the session index does not matter here.
  have herased : host? { d with byHost := d.byHost.erase addr } a =
      if a = addr then none else d.host? a :=
    Table.get?_erase ..
  rw [removeHost]
  split
  · next hnone =>
    split
    · next ha => rw [ha, hnone]
    · rfl
  · rw [host?_consume, herased]

theorem host?_of_removeHost {d : Directory} {addr a : Address} {proxy : Proxy}
    (h : (d.removeHost addr).2.host? a = some proxy) : d.host? a = some proxy := by
  rw [host?_removeHost] at h
  split at h
  · cases h
  · exact h

/-- The directory without some hosts. -/
def removeAll (d : Directory) (hosts : List Address) : Directory :=
  hosts.foldl (fun d host => (d.removeHost host).2) d

theorem host?_removeAll (d : Directory) (hosts : List Address) (a : Address) :
    (d.removeAll hosts).host? a = if a ∈ hosts then none else d.host? a := by
  induction hosts generalizing d with
  | nil => simp [removeAll]
  | cons host hosts ih =>
    show ((d.removeHost host).2.removeAll hosts).host? a = _
    rw [ih, host?_removeHost]
    by_cases ha : a = host <;> simp [ha]

theorem isCurrent_iff {d : Directory} {proxy : Proxy} :
    d.isCurrent proxy = true ↔ ∃ current, d.host? proxy.addr = some current ∧
      current.poll = proxy.poll := by
  rw [isCurrent]
  cases d.host? proxy.addr with
  | none => simp
  | some current => simp

/-- The directory tells records apart by their poll, which is enough where no other record of
the poll can be current. -/
theorem isCurrent_iff_of_unique {d : Directory} {proxy : Proxy}
    (unique : ∀ current, d.host? proxy.addr = some current → current.poll = proxy.poll →
      current = proxy) :
    d.isCurrent proxy = true ↔ d.host? proxy.addr = some proxy := by
  rw [isCurrent_iff]
  constructor
  · rintro ⟨current, hcur, hpoll⟩
    rw [hcur, unique current hcur hpoll]
  · exact fun hcur => ⟨proxy, hcur, rfl⟩

end RelayBroker.Directory
