/-
  RelayBroker.Proofs.Broker.Stores

  What the operations on a broker leave as it is. A broker stores its proxies, in the pools
  and in the directory, and the sessions of its clients; two brokers have the `SameStores` if
  they differ in their mailboxes at most, and in what is counted.
-/

import RelayBroker.Broker.Matching
import RelayBroker.Broker.Notices
import RelayBroker.Broker.Polling
import RelayBroker.Broker.Rescale

namespace RelayBroker.Broker

/-- Two brokers that differ in their mailboxes at most, and in what is counted. -/
structure SameStores (b b' : Broker) : Prop where
  pools : b.pools = b'.pools
  directory : b.directory = b'.directory
  sessions : b.sessions = b'.sessions

theorem SameStores.refl (b : Broker) : b.SameStores b := ⟨rfl, rfl, rfl⟩

theorem SameStores.symm {b b' : Broker} (h : b.SameStores b') : b'.SameStores b where
  pools := h.pools.symm
  directory := h.directory.symm
  sessions := h.sessions.symm

theorem SameStores.trans {b b' b'' : Broker} (h : b.SameStores b') (h' : b'.SameStores b'') :
    b.SameStores b'' where
  pools := h.pools.trans h'.pools
  directory := h.directory.trans h'.directory
  sessions := h.sessions.trans h'.sessions

section
variable {b b' : Broker}

theorem sameStores_of_takeOffer {proxy : Proxy} {offer : Option Offer}
    (ht : b.takeOffer proxy = (offer, b')) : b'.SameStores b := by
  obtain rfl : (b.takeOffer proxy).2 = b' := congrArg Prod.snd ht
  exact ⟨rfl, rfl, rfl⟩

theorem sameStores_submitAnswer (b : Broker) (sid answer : String) :
    (b.submitAnswer sid answer).2.SameStores b := by
  rw [submitAnswer]
  split <;> exact ⟨rfl, rfl, rfl⟩

theorem sameStores_concludeRescale (b : Broker) (retired : Nat) (migrations : List Migration)
    (stranded failed : Nat) :
    (b.concludeRescale retired migrations stranded failed).2.SameStores b := by
  rw [concludeRescale]
  split <;> exact ⟨rfl, rfl, rfl⟩

/-- A proxy that is handed out stays in the directory. -/
theorem directory_of_borrow {nat : NatClass} {proxy : Option Proxy}
    (hb : b.borrow nat = (proxy, b')) : b'.directory = b.directory := by
  obtain rfl : (b.borrow nat).2 = b' := congrArg Prod.snd hb
  rfl

theorem sessions_of_borrow {nat : NatClass} {proxy : Option Proxy}
    (hb : b.borrow nat = (proxy, b')) : b'.sessions = b.sessions := by
  obtain rfl : (b.borrow nat).2 = b' := congrArg Prod.snd hb
  rfl

@[simp] theorem sessions_giveBack (b : Broker) (proxy : Proxy) :
    (b.giveBack proxy).sessions = b.sessions := by
  rw [giveBack]
  split
  · rfl
  · split <;> rfl

@[simp] theorem sessions_endPoll (b : Broker) (proxy : Proxy) (polled : Option Offer) :
    (b.endPoll proxy polled).2.sessions = b.sessions := by
  simp only [endPoll, withdraw]
  split
  · split <;> rfl
  · rfl

end

end RelayBroker.Broker
