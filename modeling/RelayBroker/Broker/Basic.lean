/-
  RelayBroker.Broker.Basic

  The state of a broker and what it is set up with. The operations on it are split
  where a call has to wait: everything between two waits happens in one piece.
-/

import RelayBroker.Bridge.Catalog
import RelayBroker.Counters
import RelayBroker.Fleet.Directory
import RelayBroker.Fleet.Mailbox
import RelayBroker.Fleet.Pools
import RelayBroker.Session.Sessions
import RelayBroker.Settings

namespace RelayBroker

/-- What a broker is set up with. -/
structure Setup where
  settings : Settings
  catalog : Catalog
deriving DecidableEq

/-- The relay that polling proxies are told to use. -/
def Setup.relayUrl (setup : Setup) : String :=
  setup.catalog.default.url

/-- The state of a broker. -/
structure Broker where
  pools : Pools
  directory : Directory
  sessions : Sessions
  /-- The mailboxes by the number of their poll; a poll without an entry has an empty
  one. -/
  mailboxes : Table Nat Mailbox
  counters : Counters
  /-- The number of the next poll. -/
  nextPoll : Nat
deriving DecidableEq

namespace Broker

/-- A broker that was just started. -/
def empty : Broker :=
  ⟨Pools.empty, Directory.empty, Sessions.empty, Table.empty, Counters.zero, 0⟩

instance : Inhabited Broker := ⟨empty⟩

/-! ## Mailboxes -/

/-- The mailbox of a record. -/
def mailbox (b : Broker) (proxy : Proxy) : Mailbox :=
  (b.mailboxes.get? proxy.poll).getD Mailbox.empty

/-- Replaces the mailbox of a record. -/
def setMailbox (b : Broker) (proxy : Proxy) (m : Mailbox) : Broker :=
  { b with mailboxes := b.mailboxes.insert proxy.poll m }

/-! ## Registration -/

/-- The poll of a proxy, as far as it concerns the broker. -/
structure Announcement where
  sid : String
  type : String
  nat : NatClass
  addr : Address
  clients : Nat
  /-- Whether the proxy accepts relays by pattern. -/
  pattern : Bool
deriving DecidableEq, Repr

/-- Enters a polling proxy under its host, in place of what the host announced
before. -/
def register (b : Broker) (poll : Announcement) : Proxy × Broker :=
  let proxy : Proxy := ⟨b.nextPoll, poll.sid, poll.type, poll.nat, poll.addr, poll.clients⟩
  (proxy, { b with
    counters := b.counters.poll poll.type poll.nat poll.pattern
    directory := (b.directory.insert proxy).2
    pools := (b.pools.insert proxy poll.clients).2
    nextPoll := b.nextPoll + 1 })

end Broker

end RelayBroker
