/-
  RelayBroker.Proofs.Address.HostName

  The names by which a host is known: its address, and its address with a port, each with
  blanks around it (`Names`). All of them name the canonical form of the address
  (`ofHostName_of_names`), which is the IPv4 address that it wraps (`canonical_wrap`), or the
  address itself (`canonical_of_not_wrap`). With a port an address reads as an endpoint and as
  nothing else, so that of the two readers of host names only one takes a text.
-/

import RelayBroker.Address.Endpoint
import RelayBroker.Proofs.Address.ReadBack
import RelayBroker.Proofs.Text.Lines

namespace RelayBroker

namespace Address

/-! ## Canonical form -/

/-- The IPv6 address that wraps an IPv4 address. -/
def wrap (a b c d : UInt8) : Address :=
  v6 #v[0, 0, 0, 0, 0, 0xFFFF, group a b, group c d]

/-- A wrapped address is unwrapped. -/
theorem canonical_wrap (a b c d : UInt8) : (wrap a b c d).canonical = v4 a b c d := by
  have hwrapped : wrapped? [0, 0, 0, 0, 0, 0xFFFF, group a b, group c d] = some (v4 a b c d) := by
    simp only [wrapped?, octets_group, and_self, if_true]
  exact congrArg (Option.getD · (wrap a b c d)) hwrapped

/-- An address that wraps none is known under itself. -/
theorem canonical_of_not_wrap {host : Address} (h : ∀ a b c d, host ≠ wrap a b c d) :
    host.canonical = host := by
  cases host with
  | v4 a b c d => rfl
  | v6 groups =>
    cases hwrapped : wrapped? groups.toList with
    | none => rw [canonical, hwrapped, Option.getD_none]
    | some inner =>
      obtain ⟨high, low, hgroups, -⟩ := eq_of_wrapped? hwrapped
      refine absurd ?_ (h (octets high).1 (octets high).2 (octets low).1 (octets low).2)
      rw [wrap, group_octets, group_octets, v6.injEq, ← Vector.toList_inj, hgroups]
      rfl

/-! ## Texts without blanks -/

/-- No character of a text is blank. -/
def Solid (cs : List Char) : Prop :=
  ∀ c ∈ cs, Text.isBlank c = false

instance (cs : List Char) : Decidable (Solid cs) :=
  List.decidableBAll (Text.isBlank · = false) cs

theorem solid_append {cs ds : List Char} : Solid (cs ++ ds) ↔ Solid cs ∧ Solid ds :=
  List.forall_mem_append

theorem solid_cons {c : Char} {cs : List Char} :
    Solid (c :: cs) ↔ Text.isBlank c = false ∧ Solid cs :=
  List.forall_mem_cons

theorem solid_digits {base : Nat} (hb : 1 < base) (hle : base ≤ 16) (n : Nat) :
    Solid (Nat.toDigits base n) := by
  intro c hc
  obtain ⟨d, hd, rfl⟩ := digit_of_mem_toDigits hb hc
  have hall : ∀ d : Fin 16, Text.isBlank d.val.digitChar = false := by decide
  exact hall ⟨d, by omega⟩

theorem solid_dotted (a b c d : UInt8) : Solid (dotted a b c d) := by
  have hdigits := solid_digits (by decide : 1 < 10) (by decide)
  have hdot : Text.isBlank '.' = false := by decide
  simp only [dotted, solid_append, solid_cons, hdigits, hdot, and_self]

theorem solid_separated (first : Bool) (gs : List UInt16) : Solid (separated first gs) := by
  induction gs generalizing first with
  | nil => exact nofun
  | cons g gs ih =>
    rw [separated, solid_append, solid_append]
    refine ⟨⟨?_, solid_digits (by decide) (by decide) _⟩, ih false⟩
    cases first <;> decide

theorem solid_groupsText (groups : List UInt16) : Solid (groupsText groups) := by
  cases hwrapped : wrapped? groups with
  | some a =>
    obtain ⟨high, low, -, rfl⟩ := eq_of_wrapped? hwrapped
    have hfront : Solid "::ffff:".toList := by decide
    rw [groupsText, hwrapped]
    exact solid_append.mpr ⟨hfront, solid_dotted _ _ _ _⟩
  | none =>
    have hgap : Solid [':', ':'] := by decide
    rw [groupsText, hwrapped]
    simp only [colonSeparated_eq]
    split
    · simp only [solid_append, solid_separated, hgap, and_self]
    · exact solid_separated true groups

theorem solid_text (a : Address) : Solid a.text.toList := by
  cases a with
  | v4 a b c d =>
    rw [text, String.toList_ofList]
    exact solid_dotted a b c d
  | v6 groups =>
    rw [text, String.toList_ofList]
    exact solid_groupsText _

end Address

/-! ## Endpoints -/

namespace Endpoint

theorem toList_text_v4 (a b c d : UInt8) (port : Nat) :
    (text ⟨.v4 a b c d, 0, port⟩).toList =
      Address.dotted a b c d ++ ':' :: Nat.toDigits 10 port := by
  have hcolon : ":".toList = [':'] := rfl
  simp [text, Address.text, String.toList_append, hcolon]

theorem toList_text_v6 (groups : Vector UInt16 8) (port : Nat) :
    (text ⟨.v6 groups, 0, port⟩).toList =
      '[' :: (Address.groupsText groups.toList ++ ']' :: ':' :: Nat.toDigits 10 port) := by
  have hopen : "[".toList = ['['] := rfl
  have hclose : "]:".toList = [']', ':'] := rfl
  simp [text, Address.text, String.toList_append, hopen, hclose]

theorem readPort_digits {port : Nat} (hport : port ≤ Number.max16) :
    readPort (':' :: Nat.toDigits 10 port) = some (port, []) := by
  have hread := Address.readNumber_digits hport Address.ends_nil.decimal
  rw [List.append_nil] at hread
  rw [readPort, Address.expect_cons]
  exact hread

/-- The text of an endpoint without a zone reads as the endpoint. -/
theorem parse?_text (a : Address) {port : Nat} (hport : port ≤ Number.max16) :
    parse? (text ⟨a, 0, port⟩) = some ⟨a, 0, port⟩ := by
  have hread := readPort_digits hport
  cases a with
  | v4 a b c d =>
    have hhost := Address.readV4_dotted a b c d
      (Address.ends_cons (Nat.toDigits 10 port) (.inl rfl)).decimal
    rw [parse?, toList_text_v4, readV4, hhost]
    simp [hread, Address.whole?]
  | v6 groups =>
    have hhost := Address.readV6_groupsText groups (.bracket (':' :: Nat.toDigits 10 port))
    have hzone : readZone (']' :: ':' :: Nat.toDigits 10 port) =
        (0, ']' :: ':' :: Nat.toDigits 10 port) := rfl
    rw [parse?, toList_text_v6, readV4, readV6, Address.readV4_bracket, Address.expect_cons]
    simp [hhost, hzone, Address.expect_cons, hread, Address.whole?]

theorem solid_text (a : Address) (port : Nat) : Address.Solid (text ⟨a, 0, port⟩).toList := by
  have hdigits := Address.solid_digits (by decide : 1 < 10) (by decide)
  cases a with
  | v4 a b c d =>
    rw [toList_text_v4, Address.solid_append, Address.solid_cons]
    exact ⟨Address.solid_dotted a b c d, by decide, hdigits port⟩
  | v6 groups =>
    rw [toList_text_v6, Address.solid_cons, Address.solid_append, Address.solid_cons,
      Address.solid_cons]
    exact ⟨by decide, Address.solid_groupsText _, by decide, by decide, hdigits port⟩

end Endpoint

/-! ## Names of a host -/

namespace Address

/-- An address with a port is no address. -/
theorem parse?_endpoint (a : Address) (port : Nat) :
    parse? (Endpoint.text ⟨a, 0, port⟩) = none := by
  cases a with
  | v4 a b c d =>
    have hhost := readV4_dotted a b c d (ends_cons (Nat.toDigits 10 port) (.inl rfl)).decimal
    rw [parse?, Endpoint.toList_text_v4, hhost]
    rfl
  | v6 groups =>
    rw [parse?, Endpoint.toList_text_v6, readV4_bracket, readV6_bracket]
    rfl

/-- The texts that name a host: its address, or its address and a port. -/
inductive Names (a : Address) : String → Prop
  | plain {before after : String} (hbefore : Text.IsBlankLine before)
      (hafter : Text.IsBlankLine after) : Names a (before ++ a.text ++ after)
  | withPort {before after : String} {port : Nat} (hport : port ≤ Number.max16)
      (hbefore : Text.IsBlankLine before) (hafter : Text.IsBlankLine after) :
      Names a (before ++ Endpoint.text ⟨a, 0, port⟩ ++ after)

theorem ofHostName_of_read {raw : String} {host : Address}
    (h : (parse? (Text.trim raw) <|> (Endpoint.parse? (Text.trim raw)).map (·.host)) = some host) :
    ofHostName raw = .ok host.canonical := by
  -- The equation of the definition takes long to derive, and is not needed.
  delta ofHostName
  dsimp only
  rw [h]

/-- Every name of a host stands for the canonical form of its address. -/
theorem ofHostName_of_names {a : Address} {name : String} (h : Names a name) :
    ofHostName name = .ok a.canonical := by
  apply ofHostName_of_read
  cases h with
  | plain hbefore hafter =>
    rw [Text.trim_surrounded hbefore (solid_text a) hafter, parse?_text]
    rfl
  | withPort hport hbefore hafter =>
    rw [Text.trim_surrounded hbefore (Endpoint.solid_text a _) hafter, parse?_endpoint,
      Endpoint.parse?_text a hport]
    rfl

end Address

end RelayBroker
