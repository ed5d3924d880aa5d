/-
  RelayBroker.Proofs.Counters.Kinds

  The polls by kind of proxy. A kind is a type and a class, and its polls are counted under one
  text: the type, a slash, and the name of the class. The type is any text that a proxy sends.
  It may have slashes of its own, or look like what another kind is counted under; but no class
  has a slash in its name, so what follows the last slash names the class, and what stands in
  front of it is the type (`Kind.key_inj`).

  Main statement: `kinds_counted_apart`.
-/

import Mathlib.Data.List.Count
import Mathlib.Data.List.Induction
import RelayBroker.Counters
import RelayBroker.Proofs.Table.Count
import RelayBroker.Proofs.Text.Order

namespace RelayBroker

/-! ## Kinds -/

namespace NatClass

theorem slash_not_mem_name (nat : NatClass) : '/' ∉ nat.name.toList := by
  cases nat <;> decide

theorem name_inj {a b : NatClass} : a.name = b.name ↔ a = b := by
  cases a <;> cases b <;> decide

end NatClass

namespace Counters

/-- What is told apart when polls are counted. -/
structure Kind where
  type : String
  nat : NatClass
deriving DecidableEq

namespace Kind

/-- The text under which the polls of a kind are counted. -/
def key (kind : Kind) : String :=
  pollKey kind.type kind.nat

theorem toList_key (kind : Kind) :
    kind.key.toList = kind.type.toList ++ '/' :: kind.nat.name.toList := by
  rw [key, pollKey, String.toList_append, String.toList_append, List.append_assoc]
  rfl

/-- What follows the last slash of a text, from its end. -/
def afterSlash (s : String) : List Char :=
  s.toList.reverse.takeWhile (· ≠ '/')

/-- The last slash is the one that was put in front of the class. -/
theorem afterSlash_key (kind : Kind) : afterSlash kind.key = kind.nat.name.toList.reverse := by
  have hname : ∀ c ∈ kind.nat.name.toList.reverse, decide (c ≠ '/') = true := by
    intro c hc
    rw [decide_eq_true_eq]
    rintro rfl
    exact kind.nat.slash_not_mem_name (List.mem_reverse.mp hc)
  rw [afterSlash, toList_key, List.reverse_append, List.reverse_cons, List.append_assoc,
    List.takeWhile_append_of_pos hname, List.singleton_append, List.takeWhile_cons_of_neg (by simp),
    List.append_nil]

/-- No two kinds are counted under one text. -/
theorem key_inj {kind other : Kind} : kind.key = other.key ↔ kind = other := by
  refine ⟨fun heq => ?_, congrArg key⟩
  have hnat : kind.nat = other.nat := by
    have hafter := congrArg afterSlash heq
    rw [afterSlash_key, afterSlash_key, List.reverse_inj, String.toList_inj] at hafter
    exact NatClass.name_inj.mp hafter
  have htype : kind.type = other.type := by
    have hchars := congrArg String.toList heq
    rw [toList_key, toList_key, hnat, List.append_cancel_right_eq] at hchars
    exact String.toList_inj.mp hchars
  cases kind
  cases other
  exact congrArg₂ mk htype hnat

theorem key_injective : Function.Injective key :=
  fun _ _ => key_inj.mp

end Kind

/-! ## Counting -/

/-- What is counted. -/
inductive Op where
  | poll (type : String) (nat : NatClass) (pattern : Bool)
  | clientMatched
  | clientDenied (nat : NatClass)
  | clientTimeout
  | clientFailure
  | rescale (complete : Bool)
  | transfer (delivered : Bool)

/-- The kind of the proxy that polls. -/
def Op.kind? : Op → Option Kind
  | .poll type nat _ => some ⟨type, nat⟩
  | .clientMatched | .clientDenied _ | .clientTimeout | .clientFailure | .rescale _
  | .transfer _ => none

/-- The counters after one thing more. -/
def step (c : Counters) : Op → Counters
  | .poll type nat pattern => c.poll type nat pattern
  | .clientMatched => c.clientMatched
  | .clientDenied nat => c.clientDenied nat
  | .clientTimeout => c.clientTimeout
  | .clientFailure => c.clientFailure
  | .rescale complete => c.rescale complete
  | .transfer delivered => c.transfer delivered

/-- The counters after some things, the first one first. -/
def run (ops : List Op) : Counters :=
  ops.foldl step zero

/-- The kinds of the proxies that polled, one for each poll. -/
def kinds (ops : List Op) : List Kind :=
  ops.filterMap (·.kind?)

theorem run_append (ops : List Op) (op : Op) : run (ops ++ [op]) = (run ops).step op := by
  rw [run, List.foldl_append]
  rfl

theorem kinds_append (ops : List Op) (op : Op) :
    kinds (ops ++ [op]) = kinds ops ++ op.kind?.toList := by
  rw [kinds, List.filterMap_append]
  cases hkind : op.kind? <;> simp [kinds, hkind]

/-- A poll counts under its kind, and nothing else changes the polls. -/
theorem polls_step (c : Counters) (op : Op) :
    (c.step op).polls = (op.kind?).elim c.polls fun kind =>
      c.polls.insert kind.key ((c.polls.get? kind.key).getD 0 + 1) := by
  cases op with
  | poll type nat pattern => cases pattern <;> rfl
  | clientMatched | clientTimeout | clientFailure => rfl
  | clientDenied nat => cases nat <;> rfl
  | rescale complete => cases complete <;> rfl
  | transfer delivered => cases delivered <;> rfl

/-- The polls are a tally of the texts of their kinds. -/
theorem run_tallies (ops : List Op) : (run ops).polls.Tallies ((kinds ops).map Kind.key) := by
  induction ops using List.reverseRecOn with
  | nil => exact Table.tallies_empty
  | append_singleton ops op ih =>
    rw [run_append, polls_step, kinds_append]
    cases op.kind? with
    | none =>
      show (run ops).polls.Tallies ((kinds ops ++ []).map Kind.key)
      rw [List.append_nil]
      exact ih
    | some kind =>
      show ((run ops).polls.insert kind.key _).Tallies ((kinds ops ++ [kind]).map Kind.key)
      rw [List.map_append]
      exact ih.insert kind.key

/-! ## The list for the operator -/

theorem pollsSorted_perm (c : Counters) : c.pollsSorted.Perm c.polls.entries :=
  List.mergeSort_perm ..

/-- The kinds are listed in the order of the octets of their texts, and no text twice. -/
theorem pollsSorted_sorted (c : Counters) :
    c.pollsSorted.Pairwise fun a b => Text.utf8 a.1 < Text.utf8 b.1 := by
  have hle : c.pollsSorted.Pairwise fun a b => a.1 ≤ b.1 := by
    refine (List.pairwise_mergeSort ?_ ?_ c.polls.entries).imp of_decide_eq_true
    · intro x y z hxy hyz
      exact decide_eq_true (String.le_trans (of_decide_eq_true hxy) (of_decide_eq_true hyz))
    · intro x y
      simpa using String.le_total x.1 y.1
  have hne : c.pollsSorted.Pairwise fun a b => a.1 ≠ b.1 := by
    rw [← List.pairwise_map]
    exact (c.pollsSorted_perm.map Prod.fst).nodup_iff.mpr c.polls.nodup
  refine hle.imp₂ (fun a b hab hne => ?_) hne
  rw [Text.utf8_lt_iff]
  exact String.not_le.mp fun hba => hne (String.le_antisymm hab hba)

/-- **Kinds are counted apart.** Whatever is counted, the list for the operator has one entry for
each kind of proxy that polled and no other: the text of the kind, with the number of the polls
of that kind. The entries stand strictly in the order of the octets of their texts, and no two
kinds have one text, whatever their types are. A number of 64 bits holds each of the counts, if
it holds the number of all polls. -/
theorem kinds_counted_apart (ops : List Op) (few : (kinds ops).length < 2 ^ 64) :
    let listed := (run ops).pollsSorted
    listed.Perm ((kinds ops).dedup.map fun kind => (kind.key, (kinds ops).count kind)) ∧
    (∀ e ∈ listed, e.2 < 2 ^ 64) ∧
    listed.Pairwise (fun a b => Text.utf8 a.1 < Text.utf8 b.1) ∧
    ∀ kind other : Kind, kind.key = other.key → kind = other := by
  intro listed
  have hperm : listed.Perm
      ((kinds ops).dedup.map fun kind => (kind.key, (kinds ops).count kind)) := by
    -- As no two kinds have one text, the texts are counted as the kinds are.
    have hentries := (run_tallies ops).perm
    rw [List.dedup_map_of_injective Kind.key_injective, List.map_map] at hentries
    refine (pollsSorted_perm _).trans (hentries.trans (List.Perm.of_eq ?_))
    refine List.map_congr_left fun kind _ => ?_
    rw [Function.comp_apply, List.count_map_of_injective _ _ Kind.key_injective]
  refine ⟨hperm, fun e he => ?_, pollsSorted_sorted _, fun _ _ => Kind.key_inj.mp⟩
  obtain ⟨kind, -, rfl⟩ := List.mem_map.mp (hperm.mem_iff.mp he)
  exact Nat.lt_of_le_of_lt List.count_le_length few

/-- Three kinds, one without a type and one with a type that is the text of another kind. -/
def lookalikes : List Op :=
  [.poll "standalone" .restricted true, .poll "standalone/restricted" .restricted false,
    .clientTimeout, .poll "" .restricted true, .poll "standalone" .restricted false]

theorem lookalikes_counted_apart :
    (kinds lookalikes).length < 2 ^ 64 ∧
      (run lookalikes).pollsSorted = [("/restricted", 1), ("standalone/restricted", 2),
        ("standalone/restricted/restricted", 1)] := by
  have few : (kinds lookalikes).length < 2 ^ 64 := by decide
  obtain ⟨hperm, -, hsorted, -⟩ := kinds_counted_apart lookalikes few
  refine ⟨few, ?_⟩
  -- There is one order of these entries only.
  refine List.Perm.eq_of_pairwise (fun a b _ _ hab hba => absurd hba (List.lt_asymm hab)) hsorted
    (by decide +kernel) (hperm.trans ?_)
  decide +kernel

end Counters

end RelayBroker
