/-
  RelayBroker.Proofs.Bridge.Naming

  Which bridge a text names. A catalog is made from the bridge that is built in, or from the
  bridges that a list records, in their order (`MadeFrom`); a fingerprint then names the last
  bridge recorded with it, and a blank text the first bridge of all. So two spellings name the
  same bridge exactly if they spell the same fingerprint (`compared_by_value`). And the first
  bridge is named by its own fingerprint as well, unless a later line records another bridge
  with that fingerprint (`default_named_iff`).
-/

import RelayBroker.Broker.Basic
import RelayBroker.Proofs.Bridge.Listing
import RelayBroker.Proofs.Bridge.Spelling

namespace RelayBroker

namespace Catalog

/-! ## What a list records -/

/-- The bridge that a line records, if it records one. -/
def bridge? (line : Octets) : Option Bridge := do
  let text ← Text.ofUtf8? line
  if Text.IsBlankLine text then none else (record text).toOption

/-- The bridges that a list records, in their order. -/
def recorded (octets : Octets) : List Bridge :=
  (splitLines [] octets).filterMap bridge?

theorem bridge?_of_readLine {number : Nat} {line : Octets} {bridge : Option Bridge}
    (h : readLine number line = .ok bridge) : bridge? line = bridge := by
  cases htext : Text.ofUtf8? line with
  | none =>
    rw [readLine, htext] at h
    cases h
  | some text =>
    obtain rfl := Text.utf8_of_ofUtf8? htext
    rw [bridge?, htext, Option.bind_eq_bind, Option.bind_some]
    by_cases hblank : Text.IsBlankLine text
    · rw [readLine_blank hblank] at h
      rw [if_pos hblank]
      exact Except.ok.inj h
    · rw [readLine_record hblank] at h
      rw [if_neg hblank]
      cases hrecord : record text with
      | error what =>
        rw [hrecord] at h
        cases h
      | ok b =>
        rw [hrecord] at h
        exact Except.ok.inj h

theorem gathered_of_readLines {number : Nat} {c c' : Option Catalog} {lines : List Octets}
    (h : readLines number c lines = .ok c') : gathered c (lines.filterMap bridge?) = c' := by
  induction lines generalizing number c with
  | nil => exact Except.ok.inj h
  | cons line lines ih =>
    rw [readLines] at h
    cases hline : readLine number line with
    | error e =>
      rw [hline] at h
      cases h
    | ok bridge =>
      rw [hline] at h
      rw [List.filterMap_cons, bridge?_of_readLine hline]
      cases bridge with
      | none => exact ih h
      | some b => exact ih h

/-- The catalog that is read from a list holds the bridges that the list records. -/
theorem holds_of_read {octets : Octets} {c : Catalog} (h : read octets = .ok c) :
    c.Holds (recorded octets) := by
  rw [read] at h
  split at h
  · cases h
  · cases h
  · next c' hlines =>
    obtain rfl := Except.ok.inj h
    have hgathered := gathered_of_readLines hlines
    have hne : recorded octets ≠ [] := by
      intro hnil
      rw [recorded] at hnil
      rw [hnil] at hgathered
      cases hgathered
    obtain ⟨c'', hc, hholds⟩ := holds_gathered hne
    obtain rfl := Option.some.inj (hc.symm.trans hgathered)
    exact hholds

/-- What a catalog can be made from: the bridge that is built in, or the bridges that a list
records. -/
inductive MadeFrom : List Bridge → Catalog → Prop
  | builtin : MadeFrom [builtin.default] builtin
  | list {octets : Octets} {c : Catalog} (read : read octets = .ok c) :
      MadeFrom (recorded octets) c

theorem MadeFrom.holds {bridges : List Bridge} {c : Catalog} (h : MadeFrom bridges c) :
    c.Holds bridges := by
  cases h with
  | builtin => exact holds_ofDefault _
  | list read => exact holds_of_read read

/-! ## Asking for a bridge -/

section
variable {c : Catalog} {bridges : List Bridge} {raw : String} {f g : Fingerprint}

theorem resolve_of_blank (h : Text.IsBlankLine raw) : c.resolve raw = .ok c.default :=
  if_pos (Text.trim_eq_empty_iff.mpr h)

theorem resolve_of_parse (h : Fingerprint.parse raw = .ok f) : c.resolve raw = c.lookup f := by
  -- A spelling of a fingerprint has forty digits, and so it is not blank.
  have hne : Text.trim raw ≠ "" := by
    intro hblank
    have hlength := (Fingerprint.exists_parse_iff.mp ⟨f, h⟩).1
    rw [hblank] at hlength
    cases hlength
  rw [resolve, if_neg hne, h]
  rfl

theorem fingerprint_of_lastWith {bridge : Bridge} (h : lastWith f bridges = some bridge) :
    bridge.fingerprint = f := by
  simpa using List.find?_some h

/-- Different fingerprints are told apart by what is found, and by what is not. -/
theorem Holds.lookup_inj (h : c.Holds bridges) : c.lookup f = c.lookup g ↔ f = g := by
  refine ⟨fun heq => ?_, congrArg c.lookup⟩
  simp only [lookup, h.last] at heq
  cases hf : lastWith f bridges <;> cases hg : lastWith g bridges <;> rw [hf, hg] at heq
  case none.none =>
    exact Fingerprint.text_inj.mp (BrokerError.unknownBridge.inj (Except.error.inj heq))
  case none.some => cases heq
  case some.none => cases heq
  case some.some =>
    rw [← fingerprint_of_lastWith hf, ← fingerprint_of_lastWith hg, Except.ok.inj heq]

end

/-- **Fingerprints are compared by value, whatever the case of their letters.** Forty
hexadecimal digits spell a fingerprint, and nothing else does, blanks around them aside. The
fingerprint is printed with these digits in capitals, and what is printed is read back. So two
spellings name the same bridge of a catalog, or the same bridge that it does not have, exactly
if they are equal up to the case of letters and the blanks around them. -/
theorem compared_by_value :
    (∀ s, (∃ f, Fingerprint.parse s = .ok f) ↔
      (Text.trim s).length = 40 ∧ ∀ c ∈ (Text.trim s).toList, IsHexDigit c) ∧
    (∀ s f, Fingerprint.parse s = .ok f → f.text = (Text.trim s).toUpper) ∧
    (∀ f : Fingerprint, Fingerprint.parse f.text = .ok f) ∧
    (∀ s t f g, Fingerprint.parse s = .ok f → Fingerprint.parse t = .ok g →
      (f = g ↔ (Text.trim s).toUpper = (Text.trim t).toUpper)) ∧
    ∀ bridges c, MadeFrom bridges c → ∀ s t f g,
      Fingerprint.parse s = .ok f → Fingerprint.parse t = .ok g →
      (c.resolve s = c.resolve t ↔ (Text.trim s).toUpper = (Text.trim t).toUpper) := by
  have hequal {s t : String} {f g : Fingerprint} (hs : Fingerprint.parse s = .ok f)
      (ht : Fingerprint.parse t = .ok g) :
      f = g ↔ (Text.trim s).toUpper = (Text.trim t).toUpper := by
    rw [Fingerprint.parse_ok_iff_toUpper.mp hs, Fingerprint.parse_ok_iff_toUpper.mp ht,
      Fingerprint.text_inj]
  refine ⟨fun s => Fingerprint.exists_parse_iff,
    fun s f hs => (Fingerprint.parse_ok_iff_toUpper.mp hs).symm, Fingerprint.parse_text,
    fun s t f g => hequal, fun bridges c made s t f g hs ht => ?_⟩
  rw [resolve_of_parse hs, resolve_of_parse ht, made.holds.lookup_inj, hequal hs ht]

/-- **The default bridge by its own name.** A blank text names the first bridge, and this is the
bridge whose address proxies are told. The fingerprint of that bridge, in letters of either case
and with blanks around it, names a bridge as well: the last one recorded with the fingerprint.
So both name the same bridge exactly if that one is the first bridge itself. -/
theorem default_named_iff {bridges : List Bridge} {c : Catalog} (made : MadeFrom bridges c)
    (settings : Settings) {blank name : String} (hblank : Text.IsBlankLine blank)
    (hname : (Text.trim name).toUpper = c.default.fingerprint.text) :
    c.resolve blank = .ok c.default ∧ c.default.url = (⟨settings, c⟩ : Setup).relayUrl ∧
    bridges.head? = some c.default ∧
    (∃ bridge, lastWith c.default.fingerprint bridges = some bridge ∧ c.resolve name = .ok bridge) ∧
    (c.resolve name = c.resolve blank ↔
      lastWith c.default.fingerprint bridges = bridges.head?) := by
  have hholds := made.holds
  obtain ⟨bridge, hlast⟩ : ∃ bridge, lastWith c.default.fingerprint bridges = some bridge := by
    -- The first bridge is itself recorded with its fingerprint.
    rw [← Option.isSome_iff_exists, ← Option.ne_none_iff_isSome, ne_eq, lastWith_eq_none_iff]
    exact fun hnone => hnone _ (List.mem_of_head? hholds.first) rfl
  have hresolved : c.resolve name = .ok bridge := by
    rw [resolve_of_parse (Fingerprint.parse_ok_iff_toUpper.mpr hname), hholds.lookup_ok_iff, hlast]
  refine ⟨resolve_of_blank hblank, rfl, hholds.first, ⟨bridge, hlast, hresolved⟩, ?_⟩
  rw [hresolved, resolve_of_blank hblank, hlast, hholds.first, Except.ok.injEq, Option.some.injEq]

/-- A list of two lines, which record the bridge that is built in under two addresses, each
record being written as the list of its fields. Who asks for no bridge gets the first, and who
asks for the fingerprint of that one gets the second, whose address no proxy is told. -/
theorem default_renamed_by_later_line :
    let octets := Text.utf8
      ("[\"a\",\"wss://a/\",\"2B280B23E1107BB62ABFC40DDCC8824814F80A72\"]\n" ++
        "[\"b\",\"wss://b/\",\"2B280B23E1107BB62ABFC40DDCC8824814F80A72\"]\n")
    ∃ c, read octets = .ok c ∧ c.resolve "" = .ok ⟨"a", "wss://a/", builtinFingerprint⟩ ∧
      (⟨Settings.standard, c⟩ : Setup).relayUrl = "wss://a/" ∧
      c.resolve " 2b280b23e1107bb62abfc40ddcc8824814f80a72 " =
        .ok ⟨"b", "wss://b/", builtinFingerprint⟩ := by
  intro octets
  have hsome : (read octets).toOption.isSome = true := by decide +kernel
  obtain ⟨c, hread⟩ : ∃ c, read octets = .ok c := by
    cases h : read octets with
    | ok c => exact ⟨c, rfl⟩
    | error e =>
      rw [h] at hsome
      cases hsome
  have hrecorded : recorded octets =
      [⟨"a", "wss://a/", builtinFingerprint⟩, ⟨"b", "wss://b/", builtinFingerprint⟩] := by
    decide +kernel
  have hfirst : c.default = ⟨"a", "wss://a/", builtinFingerprint⟩ := by
    have hhead := (holds_of_read hread).first
    rw [hrecorded] at hhead
    exact (Option.some.inj hhead).symm
  have hname : (Text.trim " 2b280b23e1107bb62abfc40ddcc8824814f80a72 ").toUpper =
      c.default.fingerprint.text := by
    rw [hfirst]
    decide +kernel
  have hempty : Text.IsBlankLine "" := nofun
  obtain ⟨hblank, hurl, -, ⟨bridge, hlast, hnamed⟩, -⟩ :=
    default_named_iff (.list hread) Settings.standard hempty hname
  rw [hfirst, hrecorded] at hlast
  rw [hfirst] at hblank hurl
  obtain rfl : (⟨"b", "wss://b/", builtinFingerprint⟩ : Bridge) = bridge := Option.some.inj hlast
  exact ⟨c, hread, hblank, hurl.symm, hnamed⟩

end Catalog

end RelayBroker
