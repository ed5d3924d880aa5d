/-
  RelayBroker.Fleet.LoadHeap

  Proxies ordered by load: a binary heap whose root carries the least load, with an
  index from addresses to positions. A host has at most one slot.

  Loads are advisory. They stop growing at the greatest number of 32 bits, and
  nothing limits how many clients a proxy is given.
-/

import RelayBroker.Fleet.Proxy
import RelayBroker.Table

namespace RelayBroker

/-- A proxy and its load. -/
structure Slot where
  proxy : Proxy
  load : Nat
deriving DecidableEq, Repr, Inhabited

/-- The slots in heap order, and the position of each address. -/
structure LoadHeap where
  slots : Array Slot
  positions : Table Address Nat
deriving DecidableEq

namespace LoadHeap

def empty : LoadHeap := ⟨#[], Table.empty⟩

instance : Inhabited LoadHeap := ⟨empty⟩

/-! ## Views -/

/-- How many proxies there are. -/
def size (h : LoadHeap) : Nat :=
  h.slots.size

/-- Whether there are no proxies. -/
def isEmpty (h : LoadHeap) : Bool :=
  h.slots.isEmpty

/-- Whether a host has a slot. -/
def contains (h : LoadHeap) (addr : Address) : Bool :=
  h.positions.contains addr

/-- The load of a host that has a slot. -/
def load? (h : LoadHeap) (addr : Address) : Option Nat :=
  (h.positions.get? addr).bind fun i => h.slots[i]?.map (·.load)

/-- Whether every slot has at least the load of its parent and is where the index
says. -/
def isOrdered (h : LoadHeap) : Bool :=
  (List.range h.size).all fun i =>
    match h.slots[i]?, h.slots[(i - 1) / 2]? with
    | some slot, some parent =>
      parent.load ≤ slot.load && h.positions.get? slot.proxy.addr = some i
    | _, _ => false

/-- One more client, as far as 32 bits count. -/
def bump (load : Nat) : Nat :=
  min (load + 1) Number.max32

/-! ## Moving slots -/

/-- Exchanges two slots. -/
def swap (h : LoadHeap) (i j : Nat) (hi : i < h.slots.size) (hj : j < h.slots.size) : LoadHeap :=
  let slots := h.slots.swap i j hi hj
  have hi' : i < slots.size := by simpa [slots] using hi
  have hj' : j < slots.size := by simpa [slots] using hj
  ⟨slots, (h.positions.insert slots[i].proxy.addr i).insert slots[j].proxy.addr j⟩

@[simp] theorem size_swap (h : LoadHeap) (i j : Nat) (hi : i < h.slots.size)
    (hj : j < h.slots.size) : (h.swap i j hi hj).slots.size = h.slots.size := by
  simp [swap]

/-- Moves the slot at `i` towards the root until its parent has no greater load. A
slot is moved at most `i` times. -/
def siftUp : (steps : Nat) → (h : LoadHeap) → (i : Nat) → i < h.slots.size → LoadHeap
  | 0, h, _, _ => h
  | n + 1, h, i, hi =>
    if i = 0 then h
    else
      have hp : (i - 1) / 2 < h.slots.size := by omega
      if h.slots[(i - 1) / 2].load ≤ h.slots[i].load then h
      else siftUp n (h.swap ((i - 1) / 2) i hp hi) ((i - 1) / 2) (by simpa using hp)

/-- The position of the least load among `i` and its two children; the slot itself
comes before its children and the left child before the right. -/
def leastChild (h : LoadHeap) (i : Nat) (hi : i < h.slots.size) : { k // k < h.slots.size } :=
  let left : { k // k < h.slots.size } :=
    if hl : 2 * i + 1 < h.slots.size then
      if h.slots[2 * i + 1].load < h.slots[i].load then ⟨2 * i + 1, hl⟩ else ⟨i, hi⟩
    else ⟨i, hi⟩
  have hleft := left.2
  if hr : 2 * i + 2 < h.slots.size then
    if h.slots[2 * i + 2].load < h.slots[left.1].load then ⟨2 * i + 2, hr⟩ else left
  else left

/-- Moves the slot at `i` away from the root until no child has a lesser load. A slot
is moved fewer times than there are slots. -/
def siftDown : (steps : Nat) → (h : LoadHeap) → (i : Nat) → i < h.slots.size → LoadHeap
  | 0, h, _, _ => h
  | n + 1, h, i, hi =>
    let k := h.leastChild i hi
    if k.1 = i then h
    else siftDown n (h.swap i k.1 hi k.2) k.1 (by simpa using k.2)

theorem size_siftUp (n : Nat) (h : LoadHeap) (i : Nat) (hi : i < h.slots.size) :
    (siftUp n h i hi).slots.size = h.slots.size := by
  induction n generalizing h i with
  | zero => rfl
  | succ n ih =>
    simp only [siftUp]
    split
    · rfl
    · split
      · rfl
      · rw [ih, size_swap]

theorem size_siftDown (n : Nat) (h : LoadHeap) (i : Nat) (hi : i < h.slots.size) :
    (siftDown n h i hi).slots.size = h.slots.size := by
  induction n generalizing h i with
  | zero => rfl
  | succ n ih =>
    simp only [siftDown]
    split
    · rfl
    · rw [ih, size_swap]

/-! ## Taking slots out and putting them in -/

/-- Puts a slot at the end and moves it to its place. -/
def push (h : LoadHeap) (slot : Slot) : LoadHeap :=
  let i := h.slots.size
  let pushed : LoadHeap := ⟨h.slots.push slot, h.positions.insert slot.proxy.addr i⟩
  siftUp i pushed i (by simp [pushed, i])

/-- Exchanges the slot at `i` with the last one and takes it off the end. The slot
that came to `i`, if any, may be out of order. -/
def extract (h : LoadHeap) (i : Nat) (hi : i < h.slots.size) : Slot × LoadHeap :=
  let last := h.slots.size - 1
  have hl : last < h.slots.size := by omega
  let swapped := h.swap i last hi hl
  have hs : last < swapped.slots.size := by simpa [swapped] using hl
  let slot := swapped.slots[last]
  (slot, ⟨swapped.slots.pop, swapped.positions.erase slot.proxy.addr⟩)

/-- Takes out the proxy at a host, with its load. -/
def remove (h : LoadHeap) (addr : Address) : Option Slot × LoadHeap :=
  match h.positions.get? addr with
  | none => (none, h)
  | some i =>
    if hi : i < h.slots.size then
      let (slot, rest) := h.extract i hi
      if hr : i < rest.slots.size then
        -- The last slot came to `i`. It may belong below or above, but not both, so one
        -- of the two moves nothing.
        let lowered := siftDown rest.slots.size rest i hr
        (some slot, siftUp i lowered i (by simpa [lowered, size_siftDown] using hr))
      else (some slot, rest)
    else (none, h)

/-- Puts in a proxy with a load; a proxy of the same host is replaced and given
back. -/
def insert (h : LoadHeap) (proxy : Proxy) (load : Nat) : Option Proxy × LoadHeap :=
  let (replaced, rest) := h.remove proxy.addr
  (replaced.map (·.proxy), rest.push ⟨proxy, load⟩)

/-- Takes out the proxy with the least load. -/
def popLeast (h : LoadHeap) : Option Slot × LoadHeap :=
  if h0 : 0 < h.slots.size then
    let (slot, rest) := h.extract 0 h0
    if hr : 0 < rest.slots.size then (some slot, siftDown rest.slots.size rest 0 hr)
    else (some slot, rest)
  else (none, h)

/-- Puts back a proxy that was taken out, with one more client. -/
def reinsert (h : LoadHeap) (proxy : Proxy) (load : Nat) : LoadHeap :=
  (h.insert proxy (bump load)).2

/-- Hands out the proxy with the least load, which then has one more client. -/
def borrow (h : LoadHeap) : Option Proxy × LoadHeap :=
  match h.popLeast with
  | (none, rest) => (none, rest)
  | (some slot, rest) => (some slot.proxy, rest.reinsert slot.proxy slot.load)

/-- Takes one client off a host; tells whether there was one to take. -/
def release (h : LoadHeap) (addr : Address) : Bool × LoadHeap :=
  match h.positions.get? addr with
  | none => (false, h)
  | some i =>
    if hi : i < h.slots.size then
      let slot := h.slots[i]
      if slot.load = 0 then (false, h)
      else
        -- A lesser load can only be out of order with the parent.
        let lightened : LoadHeap :=
          ⟨h.slots.set i { slot with load := slot.load - 1 } hi, h.positions⟩
        (true, siftUp i lightened i (by simpa [lightened] using hi))
    else (false, h)

end LoadHeap

end RelayBroker
