/-
  RelayBroker.Proofs.Address.ReadBack

  What is printed for an address reads as the address, whatever closes its text.

  A reader takes the digits in front and leaves what follows them, so each piece of a text is
  read back for itself: an octet (`readOctet_digits`), a group (`readGroup_digits`), four
  octets (`readDotted_dotted`), and groups one after the other (`readGroups_separated`), of
  which none is taken for the start of dotted octets, since no dot follows its digits
  (`readDotted_eq_none`). An address of the IPv6 family is printed in one of three forms. With
  a run of zero groups left out, the double colon stands for as many of them as are missing
  (`zeroRun_left_out`).

  Main statement: `parse?_text`.
-/

import Mathlib.Data.List.TakeWhile
import RelayBroker.Address.Parser
import RelayBroker.Address.Printer
import RelayBroker.Proofs.Number.Digits

namespace RelayBroker.Address

open Number

/-! ## Digits -/

section
variable {rest : List Char}

theorem expect_cons (c : Char) (rest : List Char) : expect c (c :: rest) = some rest :=
  if_pos rfl

theorem expect_eq_none {c : Char} (h : rest.head? ≠ some c) : expect c rest = none := by
  cases rest with
  | nil => rfl
  | cons x rest => exact if_neg fun heq => h (by rw [heq, List.head?_cons])

theorem spanDecimal_digits {n : Nat} {ds : List Nat} (h : Writes 10 n ds)
    (hrest : Stops (fun c => decimalValue? c.toNat) rest) :
    spanDecimal (Nat.toDigits 10 n ++ rest) = (ds, rest) := by
  rw [spanDecimal, h.text]
  exact spanDigits_append (fun d hd => decimalValue?_digitChar (h.small d hd)) hrest

theorem spanHex_digits {n : Nat} {ds : List Nat} (h : Writes 16 n ds)
    (hrest : Stops (fun c => hexValue? c.toNat) rest) :
    spanHex (Nat.toDigits 16 n ++ rest) = (ds, rest) := by
  rw [spanHex, h.text]
  exact spanDigits_append (fun d hd => hexValue?_digitChar (h.small d hd)) hrest

/-- A number that is printed in decimal digits reads as that number, up to the limit. -/
theorem readNumber_digits {limit n : Nat} (hn : n ≤ limit)
    (hrest : Stops (fun c => decimalValue? c.toNat) rest) :
    readNumber limit (Nat.toDigits 10 n ++ rest) = some (n, rest) := by
  obtain ⟨ds, h⟩ := exists_writes (by decide : 1 < 10) n
  rw [readNumber, spanDecimal_digits h hrest]
  simp [h.ne_nil, h.value, hn]

theorem readOctet_digits (n : UInt8) (hrest : Stops (fun c => decimalValue? c.toNat) rest) :
    readOctet (Nat.toDigits 10 n.toNat ++ rest) = some (n, rest) := by
  obtain ⟨ds, h⟩ := exists_writes (by decide : 1 < 10) n.toNat
  have hn : n.toNat < 256 := n.toNat_lt
  have hlength : ds.length ≤ 3 := h.length_le (by decide) (by decide) (by omega)
  have hleading : ¬ (ds.head? = some 0 ∧ 1 < ds.length) := by
    rintro ⟨hzero, hlong⟩
    have hone := h.leading hzero
    omega
  rw [readOctet, spanDecimal_digits h hrest]
  dsimp only
  rw [h.value, if_neg, UInt8.ofNat_toNat]
  simp only [h.ne_nil, hleading, false_or, not_or, Nat.not_lt]
  exact ⟨hlength, by omega⟩

theorem readGroup_digits (g : UInt16) (hrest : Stops (fun c => hexValue? c.toNat) rest) :
    readGroup (Nat.toDigits 16 g.toNat ++ rest) = some (g, rest) := by
  obtain ⟨ds, h⟩ := exists_writes (by decide : 1 < 16) g.toNat
  have hg : g.toNat < 65536 := g.toNat_lt
  have hlength : ds.length ≤ 4 := h.length_le (by decide) (by decide) (by omega)
  rw [readGroup, spanHex_digits h hrest]
  dsimp only
  rw [h.value, if_neg, UInt16.ofNat_toNat]
  simp only [h.ne_nil, false_or, Nat.not_lt]
  exact hlength

theorem digit_of_mem_toDigits {base n : Nat} (hb : 1 < base) {c : Char}
    (hc : c ∈ Nat.toDigits base n) : ∃ d < base, c = d.digitChar := by
  obtain ⟨ds, h⟩ := exists_writes hb n
  rw [h.text] at hc
  obtain ⟨d, hd, rfl⟩ := List.mem_map.mp hc
  exact ⟨d, h.small d hd, rfl⟩

theorem dot_not_mem_digits (n : Nat) : '.' ∉ Nat.toDigits 16 n := by
  intro hdot
  obtain ⟨d, hd, hchar⟩ := digit_of_mem_toDigits (by decide) hdot
  have hall : ∀ d : Fin 16, '.' ≠ d.val.digitChar := by decide
  exact hall ⟨d, hd⟩ hchar

end

/-! ## Dotted octets -/

theorem readDotted_dotted (a b c d : UInt8) {rest : List Char}
    (hrest : Stops (fun c => decimalValue? c.toNat) rest) :
    readDotted (dotted a b c d ++ rest) = some ((a, b, c, d), rest) := by
  have hdot (cs : List Char) : Stops (fun c => decimalValue? c.toNat) ('.' :: cs) := by
    intro x hx
    obtain rfl := Option.some.inj hx
    rfl
  simp only [readDotted, dotted, List.append_assoc, List.cons_append, bind, Option.bind,
    readOctet_digits a (hdot _), expect_cons, readOctet_digits b (hdot _),
    readOctet_digits c (hdot _), readOctet_digits d hrest, pure]

/-- What can follow the digits of a group: neither a further digit nor a dot. -/
structure Ends (rest : List Char) : Prop where
  digit : Stops (fun c => hexValue? c.toNat) rest
  dot : rest.head? ≠ some '.'

theorem ends_nil : Ends [] := ⟨nofun, nofun⟩

theorem ends_cons (rest : List Char) {c : Char} (hc : c = ':' ∨ c = '[' ∨ c = ']') :
    Ends (c :: rest) := by
  refine ⟨fun x hx => ?_, fun hx => ?_⟩
  · obtain rfl := Option.some.inj hx
    rcases hc with rfl | rfl | rfl <;> rfl
  · rcases hc with rfl | rfl | rfl <;> cases hx

/-- Decimal digits are hexadecimal digits. -/
theorem Ends.decimal {rest : List Char} (h : Ends rest) :
    Stops (fun c => decimalValue? c.toNat) rest := by
  intro c hc
  have hhex : hexValue? c.toNat = none := h.digit c hc
  unfold hexValue? at hhex
  split at hhex
  · cases hhex
  · next hnot => exact if_neg hnot

theorem readGroup_of_ends {rest : List Char} (h : Ends rest) : readGroup rest = none := by
  have hspan : spanHex rest = ([], rest) := h.digit.spanDigits
  rw [readGroup, hspan]
  rfl

/-- Where no dot follows the first digits there are no dotted octets. -/
theorem readDotted_eq_none {cs rest : List Char} (hcs : '.' ∉ cs) (hrest : Ends rest) :
    readDotted (cs ++ rest) = none := by
  -- What is left of the first octet does not start with a dot.
  have hleft : (spanDecimal (cs ++ rest)).2.head? ≠ some '.' := by
    show ((cs ++ rest).dropWhile fun c => (decimalValue? c.toNat).isSome).head? ≠ some '.'
    induction cs with
    | nil =>
      rw [List.nil_append, hrest.decimal.dropWhile]
      exact hrest.dot
    | cons c cs ih =>
      rw [List.mem_cons, not_or] at hcs
      rw [List.cons_append, List.dropWhile_cons]
      split
      · exact ih hcs.2
      · exact fun hdot => hcs.1 (Option.some.inj hdot).symm
  have hexpect : expect '.' (spanDecimal (cs ++ rest)).2 = none := expect_eq_none hleft
  cases hoctet : readOctet (cs ++ rest) with
  | none => simp only [readDotted, hoctet, bind, Option.bind]
  | some read =>
    obtain ⟨a, left⟩ := read
    obtain rfl : (spanDecimal (cs ++ rest)).2 = left := by
      rw [readOctet] at hoctet
      dsimp only at hoctet
      split at hoctet
      · cases hoctet
      · exact congrArg Prod.snd (Option.some.inj hoctet)
    simp only [readDotted, hoctet, hexpect, bind, Option.bind]

theorem readDotted_of_ends {rest : List Char} (h : Ends rest) : readDotted rest = none :=
  @readDotted_eq_none [] rest List.not_mem_nil h

/-! ## Groups -/

/-- Groups one after the other, the first of which may do without a colon in front. -/
def separated : Bool → List UInt16 → List Char
  | _, [] => []
  | first, g :: gs =>
    (if first then [] else [':']) ++ Nat.toDigits 16 g.toNat ++ separated false gs

theorem colonSeparated_eq (gs : List UInt16) : colonSeparated gs = separated true gs := by
  cases gs with
  | nil => rfl
  | cons g gs =>
    induction gs generalizing g with
    | nil => simp [colonSeparated, separated]
    | cons g' gs ih =>
      have hrest := ih g'
      rw [colonSeparated, List.map_cons, separated] at hrest
      rw [colonSeparated, List.map_cons, List.map_cons, List.intercalate_cons_cons, hrest]
      simp [separated]

/-- What closes a text, or goes on after a gap, is taken for no group. -/
inductive Closes : List Char → Prop
  | nil : Closes []
  | bracket (rest : List Char) : Closes (']' :: rest)
  | gap (rest : List Char) : Closes (':' :: ':' :: rest)

section
variable {rest : List Char}

theorem Closes.ends (h : Closes rest) : Ends rest := by
  cases h with
  | nil => exact ends_nil
  | bracket rest => exact ends_cons _ (.inr (.inr rfl))
  | gap rest => exact ends_cons _ (.inl rfl)

/-- A separator is found only in front of a second colon. -/
theorem Closes.ends_of_separator (h : Closes rest) {first : Bool} {left : List Char}
    (hleft : separator ':' first rest = some left) : Ends left := by
  cases first with
  | true =>
    obtain rfl := Option.some.inj hleft
    exact h.ends
  | false =>
    cases h with
    | nil => cases hleft
    | bracket rest => cases hleft
    | gap rest =>
      obtain rfl := Option.some.inj hleft
      exact ends_cons _ (.inl rfl)

/-- Where no group starts, none is read. -/
theorem readGroups_of_ends {first : Bool}
    (h : ∀ left, separator ':' first rest = some left → Ends left) (slots : Nat) :
    readGroups slots first rest = ([], false, rest) := by
  cases slots with
  | zero => rfl
  | succ n =>
    have hnone : separator ':' first rest >>= readDotted = none ∧
        separator ':' first rest >>= readGroup = none := by
      cases hleft : separator ':' first rest with
      | none => exact ⟨rfl, rfl⟩
      | some left => exact ⟨readDotted_of_ends (h left hleft), readGroup_of_ends (h left hleft)⟩
    rw [readGroups, hnone.1, hnone.2, ite_self]

theorem Closes.readGroups (h : Closes rest) (slots : Nat) (first : Bool) :
    readGroups slots first rest = ([], false, rest) :=
  readGroups_of_ends (fun _ => h.ends_of_separator) slots

/-- What follows the digits of a group is a colon, or closes the text. -/
theorem ends_separated (gs : List UInt16) (hrest : Closes rest) :
    Ends (separated false gs ++ rest) := by
  cases gs with
  | nil => exact hrest.ends
  | cons g gs =>
    rw [separated]
    exact ends_cons _ (.inl rfl)

theorem readDotted_separated (gs : List UInt16) (hrest : Closes rest) :
    readDotted (separated true gs ++ rest) = none := by
  cases gs with
  | nil => exact readDotted_of_ends hrest.ends
  | cons g gs =>
    rw [separated, if_pos rfl, List.nil_append, List.append_assoc]
    exact readDotted_eq_none (dot_not_mem_digits _) (ends_separated gs hrest)

/-- As many groups as there are slots for are read back. -/
theorem readGroups_separated {gs : List UInt16} {slots : Nat} (hslots : gs.length ≤ slots)
    (hrest : Closes rest) (first : Bool) :
    readGroups slots first (separated first gs ++ rest) = (gs, false, rest) := by
  induction gs generalizing slots first with
  | nil => exact hrest.readGroups slots first
  | cons g gs ih =>
    obtain ⟨n, rfl⟩ : ∃ n, slots = n + 1 := ⟨slots - 1, by simp at hslots; omega⟩
    have hends := ends_separated gs hrest
    have hseparator : separator ':' first (separated first (g :: gs) ++ rest) =
        some (Nat.toDigits 16 g.toNat ++ (separated false gs ++ rest)) := by
      cases first <;> simp [separated, separator, expect_cons]
    have hdotted : readDotted (Nat.toDigits 16 g.toNat ++ (separated false gs ++ rest)) = none :=
      readDotted_eq_none (dot_not_mem_digits _) hends
    have hgroup := readGroup_digits g hends.digit
    have htail := ih (Nat.le_of_succ_le_succ hslots) false
    rw [readGroups, hseparator]
    simp only [bind, Option.bind, hdotted, ite_self, hgroup, htail]

end

/-! ## Runs of zero groups -/

/-- How many zero groups stand at a place. -/
def zerosAt (gs : List UInt16) (start : Nat) : Nat :=
  ((gs.drop start).takeWhile fun g => g = 0).length

/-- The run that is chosen is one of zero groups. -/
theorem zeroRun_le (gs : List UInt16) : (zeroRun gs).2 ≤ zerosAt gs (zeroRun gs).1 := by
  have hstep (best : Nat × Nat) (hbest : best.2 ≤ zerosAt gs best.1) (i : Nat)
      (_ : i ∈ List.range gs.length) :
      (if best.2 < zerosAt gs i then (i, zerosAt gs i) else best).2 ≤
        zerosAt gs (if best.2 < zerosAt gs i then (i, zerosAt gs i) else best).1 := by
    split
    · exact Nat.le_refl _
    · exact hbest
  exact List.foldlRecOn (motive := fun best : Nat × Nat => best.2 ≤ zerosAt gs best.1)
    (List.range gs.length) _ (Nat.zero_le (zerosAt gs 0)) hstep

/-- The double colon stands for the groups that are left out. -/
theorem zeroRun_left_out {gs : List UInt16} {start length : Nat} (h : zeroRun gs = (start, length))
    (hpos : 0 < length) :
    start + length ≤ gs.length ∧
      gs.take start ++ List.replicate length 0 ++ gs.drop (start + length) = gs := by
  have hrun : length ≤ ((gs.drop start).takeWhile fun g => g = 0).length := by
    have hle := zeroRun_le gs
    rwa [h] at hle
  have hfront := (List.takeWhile_prefix (l := gs.drop start) fun g => decide (g = 0)).length_le
  rw [List.length_drop] at hfront
  have hzeros : (gs.drop start).take length = List.replicate length 0 := by
    rw [← List.takeWhile_append_dropWhile (p := fun g => decide (g = 0)) (l := gs.drop start),
      List.take_append_of_le_length hrun]
    refine List.eq_replicate_iff.mpr ⟨List.length_take_of_le hrun, fun g hg => ?_⟩
    simpa using List.mem_takeWhile_imp (List.mem_of_mem_take hg)
  refine ⟨by omega, ?_⟩
  rw [← hzeros, ← List.drop_drop, List.append_assoc, List.take_append_drop, List.take_append_drop]

/-! ## Addresses -/

/-- The groups of an address, in one of which it is read as a whole. -/
theorem ofGroups?_toList (groups : Vector UInt16 8) :
    ofGroups? groups.toList = some (v6 groups) := by
  rw [ofGroups?, dif_pos (Vector.length_toList ..)]
  rfl

theorem group_octets (g : UInt16) : group (octets g).1 (octets g).2 = g := by
  have hg : g.toNat < 65536 := g.toNat_lt
  have hhigh : (UInt8.ofNat (g.toNat / 256)).toNat = g.toNat / 256 := by
    rw [UInt8.toNat_ofNat', Nat.mod_eq_of_lt]
    omega
  have hlow : (UInt8.ofNat (g.toNat % 256)).toNat = g.toNat % 256 := by
    rw [UInt8.toNat_ofNat', Nat.mod_eq_of_lt]
    omega
  rw [group, octets, hhigh, hlow, Nat.div_add_mod', UInt16.ofNat_toNat]

theorem octets_group (high low : UInt8) : octets (group high low) = (high, low) := by
  have hhigh := high.toNat_lt
  have hlow := low.toNat_lt
  have hnumber : (group high low).toNat = high.toNat * 256 + low.toNat := by
    rw [group, UInt16.toNat_ofNat', Nat.mod_eq_of_lt]
    omega
  have hfirst : (high.toNat * 256 + low.toNat) / 256 = high.toNat := by omega
  have hsecond : (high.toNat * 256 + low.toNat) % 256 = low.toNat := by omega
  rw [octets, hnumber, hfirst, hsecond, UInt8.ofNat_toNat, UInt8.ofNat_toNat]

/-- The groups of a wrapped address. -/
theorem eq_of_wrapped? {gs : List UInt16} {a : Address} (h : wrapped? gs = some a) :
    ∃ high low, gs = [0, 0, 0, 0, 0, 0xFFFF, high, low] ∧
      a = v4 (octets high).1 (octets high).2 (octets low).1 (octets low).2 := by
  unfold wrapped? at h
  split at h
  · next g0 g1 g2 g3 g4 g5 high low =>
    split at h
    · next hfront =>
      obtain ⟨rfl, rfl, rfl, rfl, rfl, rfl⟩ := hfront
      exact ⟨high, low, rfl, (Option.some.inj h).symm⟩
    · cases h
  · cases h

section
variable {rest : List Char}

/-- A double colon stands for the groups that are missing. -/
theorem readV6_gap {cs left : List Char} {head tail : List UInt16} {dotted : Bool}
    (hhead : readGroups 8 true cs = (head, false, ':' :: ':' :: left)) (hshort : head.length < 8)
    (htail : readGroups (7 - head.length) true left = (tail, dotted, rest)) :
    readV6 cs = (ofGroups? (head ++ List.replicate (8 - head.length - tail.length) 0 ++ tail)).map
      fun a => (a, rest) := by
  rw [readV6, hhead]
  simp only [if_neg (Nat.ne_of_lt hshort), Bool.false_eq_true, if_false, bind, Option.bind,
    expect_cons, htail]
  cases ofGroups? (head ++ List.replicate (8 - head.length - tail.length) 0 ++ tail) <;> rfl

/-- What is wrapped is printed with dots, and read back as two groups. -/
theorem readV6_wrapped (high low : UInt16) (hrest : Closes rest) :
    readV6 ("::ffff:".toList ++
        dotted (octets high).1 (octets high).2 (octets low).1 (octets low).2 ++ rest) =
      some (v6 #v[0, 0, 0, 0, 0, 0xFFFF, high, low], rest) := by
  obtain ⟨text, htext⟩ : ∃ text, text =
      dotted (octets high).1 (octets high).2 (octets low).1 (octets low).2 ++ rest := ⟨_, rfl⟩
  have hdotted := readDotted_dotted (octets high).1 (octets high).2 (octets low).1 (octets low).2
    hrest.ends.decimal
  rw [← htext] at hdotted
  have hends : Ends (':' :: text) := ends_cons text (.inl rfl)
  have hones : readGroup ('f' :: 'f' :: 'f' :: 'f' :: ':' :: text) = some (0xFFFF, ':' :: text) :=
    readGroup_digits 0xFFFF hends.digit
  have hnot : readDotted ('f' :: 'f' :: 'f' :: 'f' :: ':' :: text) = none :=
    readDotted_eq_none (dot_not_mem_digits (0xFFFF : UInt16).toNat) hends
  -- The group of ones comes first, and behind it the octets take the place of two groups.
  have hoctets : readGroups 6 false (':' :: text) = ([high, low], true, rest) := by
    rw [readGroups, separator, if_neg Bool.false_ne_true, expect_cons]
    simp [hdotted, group_octets]
  have htail : readGroups 7 true ('f' :: 'f' :: 'f' :: 'f' :: ':' :: text) =
      ([0xFFFF, high, low], true, rest) := by
    rw [readGroups, separator, if_pos rfl]
    simp [hnot, hones, hoctets]
  rw [List.append_assoc, ← htext]
  exact (readV6_gap ((Closes.gap _).readGroups 8 true) (by decide) htail).trans
    (congrArg (Option.map _) (ofGroups?_toList #v[0, 0, 0, 0, 0, 0xFFFF, high, low]))

/-- Groups of which a run of zeros is left out are read back as what is left and zeros. -/
theorem readV6_shortened {head tail : List UInt16} (hmissing : head.length + tail.length < 8)
    (hrest : Closes rest) :
    readV6 (separated true head ++ [':', ':'] ++ separated true tail ++ rest) =
      (ofGroups? (head ++ List.replicate (8 - head.length - tail.length) 0 ++ tail)).map
        fun a => (a, rest) := by
  have hhead := readGroups_separated (by omega : head.length ≤ 8)
    (.gap (separated true tail ++ rest)) true
  have htail := readGroups_separated (by omega : tail.length ≤ 7 - head.length) hrest true
  rw [List.append_assoc, List.append_assoc, List.cons_append, List.cons_append, List.nil_append]
  exact readV6_gap hhead (by omega) htail

/-- Eight groups are read back. -/
theorem readV6_full (groups : Vector UInt16 8) (hrest : Closes rest) :
    readV6 (separated true groups.toList ++ rest) = some (v6 groups, rest) := by
  have hlength : groups.toList.length = 8 := Vector.length_toList ..
  have hread := readGroups_separated (Nat.le_of_eq hlength) hrest true
  rw [readV6, hread]
  simp only [if_pos hlength, ofGroups?_toList, bind, Option.bind, pure]

/-- A bracket opens no address. -/
theorem readV4_bracket (rest : List Char) : readV4 ('[' :: rest) = none := by
  rw [readV4, readDotted_of_ends (ends_cons rest (.inr (.inl rfl)))]
  rfl

theorem readV6_bracket (rest : List Char) : readV6 ('[' :: rest) = none := by
  have hends : ∀ left, separator ':' true ('[' :: rest) = some left → Ends left := by
    intro left hleft
    obtain rfl := Option.some.inj hleft
    exact ends_cons rest (.inr (.inl rfl))
  rw [readV6, readGroups_of_ends hends]
  rfl

/-- The groups of an address are read back in whatever form they are printed. -/
theorem readV6_groupsText (groups : Vector UInt16 8) (hrest : Closes rest) :
    readV6 (groupsText groups.toList ++ rest) = some (v6 groups, rest) := by
  cases hwrapped : wrapped? groups.toList with
  | some a =>
    obtain ⟨high, low, hgroups, rfl⟩ := eq_of_wrapped? hwrapped
    have htext := readV6_wrapped high low hrest
    obtain rfl : groups = #v[0, 0, 0, 0, 0, 0xFFFF, high, low] := Vector.toList_inj.mp hgroups
    rw [groupsText, hwrapped]
    exact htext
  | none =>
    obtain ⟨start, length, hrun⟩ : ∃ start length, zeroRun groups.toList = (start, length) :=
      ⟨_, _, rfl⟩
    rw [groupsText, hwrapped, hrun]
    simp only [colonSeparated_eq]
    split
    · next hlong =>
      obtain ⟨hle, hgroups⟩ := zeroRun_left_out hrun (by omega)
      rw [Vector.length_toList] at hle
      have hhead : (groups.toList.take start).length = start := by
        rw [List.length_take, Vector.length_toList]
        omega
      have htail : (groups.toList.drop (start + length)).length = 8 - (start + length) := by
        rw [List.length_drop, Vector.length_toList]
      have hmissing : 8 - start - (8 - (start + length)) = length := by omega
      rw [readV6_shortened (by omega) hrest, hhead, htail, hmissing, hgroups, ofGroups?_toList]
      rfl
    · exact readV6_full groups hrest

/-- What is printed of groups is not taken for dotted octets. -/
theorem readV4_groupsText (groups : List UInt16) (hrest : Closes rest) :
    readV4 (groupsText groups ++ rest) = none := by
  have hdotted : readDotted (groupsText groups ++ rest) = none := by
    cases hwrapped : wrapped? groups with
    | some a =>
      obtain ⟨high, low, -, rfl⟩ := eq_of_wrapped? hwrapped
      rw [groupsText, hwrapped]
      exact readDotted_of_ends (ends_cons _ (.inl rfl))
    | none =>
      rw [groupsText, hwrapped]
      simp only [colonSeparated_eq]
      split
      · rw [List.append_assoc, List.append_assoc]
        exact readDotted_separated _ (.gap _)
      · exact readDotted_separated _ hrest
  rw [readV4, hdotted]
  rfl

end

theorem readV4_dotted (a b c d : UInt8) {rest : List Char}
    (hrest : Stops (fun c => decimalValue? c.toNat) rest) :
    Address.readV4 (dotted a b c d ++ rest) = some (v4 a b c d, rest) := by
  rw [Address.readV4, readDotted_dotted a b c d hrest]
  rfl

/-- **The text of an address reads as the address.** -/
theorem parse?_text (a : Address) : parse? a.text = some a := by
  cases a with
  | v4 a b c d =>
    have hread := readV4_dotted a b c d ends_nil.decimal
    rw [List.append_nil] at hread
    rw [parse?, text, String.toList_ofList, hread]
    rfl
  | v6 groups =>
    have hnot := readV4_groupsText groups.toList .nil
    have hread := readV6_groupsText groups .nil
    rw [List.append_nil] at hnot hread
    rw [parse?, text, String.toList_ofList, hnot, hread]
    rfl

-- The first of two equally long runs is left out, and a single zero group is not.
example : (v6 #v[0, 1, 0, 0, 2, 0, 0, 3]).text = "0:1::2:0:0:3" := by decide +kernel

end RelayBroker.Address
