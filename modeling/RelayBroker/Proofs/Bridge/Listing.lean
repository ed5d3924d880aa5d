/-
  RelayBroker.Proofs.Bridge.Listing

  What a list of bridges says. Its lines are those of the text (`splitLines_utf8`): a line
  feed ends a line, with a carriage return before it, and no octet of any other character is
  a feed. A line records a bridge if it is an object whose fingerprint has forty hexadecimal
  digits (`exists_record_iff`). Reading goes through the lines in order. As long as each is
  blank or records a bridge, the bridges are gathered (`readLines_append`), and the first
  other line ends the reading with its own fault and its own number (`readLines_error`). The
  catalog that is gathered is told by the bridges in their order (`Holds`).

  Main statement: `listing_read_exactly`.
-/

import Mathlib.Data.List.Induction
import RelayBroker.Bridge.Catalog
import RelayBroker.Proofs.Bridge.Spelling
import RelayBroker.Proofs.Table.Count
import RelayBroker.Proofs.Text.Encoding
import RelayBroker.Proofs.Text.Lines

namespace RelayBroker

namespace Catalog

theorem splitLines_cons {b : UInt8} (h : b ≠ 0x0A) (line rest : Octets) :
    splitLines line (b :: rest) = splitLines (b :: line) rest := by
  cases line <;> simp only [splitLines, if_neg h]

/-- Octets without a feed go to the line at hand. -/
theorem splitLines_append {octets : Octets} (h : (0x0A : UInt8) ∉ octets) (line rest : Octets) :
    splitLines line (octets ++ rest) = splitLines (octets.reverse ++ line) rest := by
  induction octets generalizing line with
  | nil => rfl
  | cons b octets ih =>
    obtain ⟨hb, hrest⟩ := List.ne_and_not_mem_of_not_mem_cons h
    rw [List.cons_append, splitLines_cons (Ne.symm hb), ih hrest, List.reverse_cons,
      List.append_assoc]
    rfl

/-- A feed ends the line at hand, and takes a carriage return with it. -/
theorem splitLines_feed (line : List Char) (rest : Octets) :
    splitLines (Text.encode line).reverse (0x0A :: rest) =
      Text.encode (Text.chomp line) :: splitLines [] rest := by
  cases line using List.reverseRecOn with
  | nil => rfl
  | append_singleton line c =>
    simp only [Text.chomp, List.getLast?_concat, List.dropLast_concat, Option.some.injEq]
    by_cases hc : c = '\r'
    · subst hc
      rw [Text.encode_concat, Text.utf8EncodeChar_ascii (by decide), List.reverse_concat,
        splitLines, if_pos rfl, if_pos rfl]
      exact congrArg (· :: _) (List.reverse_reverse _)
    · -- The last octet of another character is no carriage return.
      obtain ⟨octets, b, hoctets⟩ :=
        (List.eq_nil_or_concat' (String.utf8EncodeChar c)).resolve_left
          (Text.utf8EncodeChar_ne_nil c)
      have hb : b ≠ 0x0D := by
        rintro rfl
        have hmem : UInt8.ofNat '\r'.toNat ∈ String.utf8EncodeChar c := by
          rw [hoctets]
          exact List.mem_append_right _ (List.mem_singleton_self _)
        exact hc ((Text.mem_utf8EncodeChar (by decide)).mp hmem)
      rw [if_neg hc, Text.encode_concat, hoctets, ← List.append_assoc, List.reverse_concat,
        splitLines, if_pos rfl, if_neg hb, ← List.reverse_concat]
      exact congrArg (· :: _) (List.reverse_reverse _)

theorem modifyHead_nil_append (pieces : List (List Char)) :
    pieces.modifyHead ([] ++ ·) = pieces := by
  cases pieces <;> rfl

/-- The lines of a text, the characters of one line having been read. -/
theorem splitLines_encode (line cs : List Char) :
    splitLines (Text.encode line).reverse (Text.encode cs) =
      (Text.ofPieces ((cs.splitOn '\n').modifyHead (line ++ ·))).map Text.encode := by
  induction cs generalizing line with
  | nil =>
    rw [List.splitOn_nil, List.modifyHead_cons, List.append_nil, Text.encode_nil, splitLines]
    cases line with
    | nil => rfl
    | cons c line =>
      have hne : Text.encode (c :: line) ≠ [] :=
        Text.encode_eq_nil_iff.not.mpr (List.cons_ne_nil _ _)
      rw [if_neg (by simpa using hne), List.reverse_reverse]
      rfl
  | cons c cs ih =>
    have hsplit : (c :: cs).splitOn '\n' =
        if c == '\n' then [] :: cs.splitOn '\n' else (cs.splitOn '\n').modifyHead (c :: ·) :=
      List.splitOnP_cons_eq_if_modifyHead c cs
    rw [hsplit, Text.encode_cons]
    by_cases hc : c = '\n'
    · -- The line is complete, and the next one is empty so far.
      have hne : cs.splitOn '\n' ≠ [] := List.splitOnP_ne_nil _ _
      have hrest := ih []
      rw [modifyHead_nil_append] at hrest
      subst hc
      rw [Text.utf8EncodeChar_ascii (by decide), if_pos (beq_self_eq_true _), List.modifyHead_cons,
        List.append_nil, Text.ofPieces_cons _ hne, List.map_cons]
      exact (splitLines_feed line _).trans (congrArg _ hrest)
    · have hfree : (0x0A : UInt8) ∉ String.utf8EncodeChar c := fun hmem =>
        hc ((Text.mem_utf8EncodeChar (a := '\n') (by decide)).mp hmem)
      have hline : (fun piece => line ++ piece) ∘ (c :: ·) = ((line ++ [c]) ++ ·) := by
        funext piece
        simp
      rw [splitLines_append hfree, if_neg (by simpa using hc), List.modifyHead_modifyHead, hline,
        ← ih, Text.encode_concat, List.reverse_append]

/-- A list is split into the lines of its text. -/
theorem splitLines_utf8 (text : String) :
    splitLines [] (Text.utf8 text) = (Text.lines text).map Text.utf8 := by
  have hsplit := splitLines_encode [] text.toList
  rw [modifyHead_nil_append] at hsplit
  rw [Text.utf8_eq_encode, Text.lines, List.map_map]
  exact hsplit.trans (List.map_congr_left fun cs _ => (Text.utf8_ofList cs).symm)

/-! ## One line -/

/-- The bridge that a line records, or what is wrong with the line. -/
def record (line : String) : Except String Bridge := do
  let entry ← (Json.decode Entry.shape (Text.utf8 line)).mapError (·.message)
  let fingerprint ← (Fingerprint.parse entry.fingerprint).mapError (·.message)
  return ⟨entry.displayName, entry.webSocketAddress, fingerprint⟩

/-- A line records the bridge that its entry describes, whose fingerprint is spelled in
letters of either case and with blanks around it. -/
theorem record_ok_iff {line : String} {bridge : Bridge} :
    record line = .ok bridge ↔ ∃ entry, Json.decode Entry.shape (Text.utf8 line) = .ok entry ∧
      bridge.name = entry.displayName ∧ bridge.url = entry.webSocketAddress ∧
      (Text.trim entry.fingerprint).toUpper = bridge.fingerprint.text := by
  rw [record]
  cases Json.decode Entry.shape (Text.utf8 line) with
  | error fault => exact iff_of_false nofun nofun
  | ok entry =>
    simp only [Except.ok.injEq, exists_eq_left', ← Fingerprint.parse_ok_iff_toUpper,
      Except.mapError, bind, Except.bind]
    obtain ⟨name, url, f⟩ := bridge
    cases Fingerprint.parse entry.fingerprint with
    | error e => simp
    | ok g => simp [pure, Except.pure, eq_comm]

/-- A line records a bridge if it is an entry with forty hexadecimal digits. -/
theorem exists_record_iff {line : String} : (∃ bridge, record line = .ok bridge) ↔
    ∃ entry, Json.decode Entry.shape (Text.utf8 line) = .ok entry ∧
      (Text.trim entry.fingerprint).length = 40 ∧
      ∀ c ∈ (Text.trim entry.fingerprint).toList, IsHexDigit c := by
  simp only [record_ok_iff, ← Fingerprint.exists_parse_iff, Fingerprint.parse_ok_iff_toUpper]
  constructor
  · rintro ⟨bridge, entry, hentry, -, -, hspelled⟩
    exact ⟨entry, hentry, bridge.fingerprint, hspelled⟩
  · rintro ⟨entry, hentry, f, hspelled⟩
    exact ⟨⟨entry.displayName, entry.webSocketAddress, f⟩, entry, hentry, rfl, rfl, hspelled⟩

/-- The error of the line with a number. -/
def badLine (number : Nat) (what : String) : BrokerError :=
  .config ("bridge list line " ++ toString number ++ ": " ++ what)

theorem readLine_blank {line : String} (h : Text.IsBlankLine line) (number : Nat) :
    readLine number (Text.utf8 line) = .ok none := by
  simp only [readLine, Text.ofUtf8?_utf8, if_pos (Text.trim_eq_empty_iff.mpr h)]
  rfl

theorem readLine_record {line : String} (h : ¬ Text.IsBlankLine line) (number : Nat) :
    readLine number (Text.utf8 line) = ((record line).map some).mapError (badLine number) := by
  simp only [readLine, Text.ofUtf8?_utf8, if_neg (Text.trim_eq_empty_iff.not.mpr h), record]
  cases Json.decode Entry.shape (Text.utf8 line) with
  | error fault => rfl
  | ok entry =>
    dsimp only [Except.mapError, bind, Except.bind]
    cases Fingerprint.parse entry.fingerprint with
    | error e => rfl
    | ok fingerprint => rfl

/-! ## All lines -/

/-- The lines that are not blank. -/
def written (lines : List String) : List String :=
  lines.filter fun line => ¬ Text.IsBlankLine line

/-- The catalog after some bridges. -/
def gathered (c : Option Catalog) (bridges : List Bridge) : Option Catalog :=
  bridges.foldl (fun c bridge => some (add c bridge)) c

/-- Lines that are blank or record a bridge are passed. -/
theorem readLines_append {before : List String} {bridges : List Bridge}
    (h : (written before).map record = bridges.map .ok) (number : Nat) (c : Option Catalog)
    (after : List String) :
    readLines number c ((before ++ after).map Text.utf8) =
      readLines (number + before.length) (gathered c bridges) (after.map Text.utf8) := by
  induction before generalizing number c bridges with
  | nil =>
    obtain rfl : bridges = [] := by simpa [written] using h.symm
    rfl
  | cons line before ih =>
    have hnumber : number + (line :: before).length = number + 1 + before.length := by
      rw [List.length_cons]
      omega
    rw [List.cons_append, List.map_cons, readLines, hnumber]
    by_cases hblank : Text.IsBlankLine line
    · rw [written, List.filter_cons_of_neg (by simpa using hblank)] at h
      rw [readLine_blank hblank]
      exact ih h ..
    · rw [written, List.filter_cons_of_pos (by simpa using hblank), List.map_cons] at h
      obtain ⟨bridge, bridges, rfl, hrecord, hrest⟩ := List.map_eq_cons_iff.mp h.symm
      rw [readLine_record hblank, ← hrecord]
      exact ih hrest.symm ..

/-- The first line that is neither blank nor a record ends the reading. -/
theorem readLines_error {before : List String} {bridges : List Bridge} {line what : String}
    (h : (written before).map record = bridges.map .ok) (hblank : ¬ Text.IsBlankLine line)
    (hbad : record line = .error what) (number : Nat) (c : Option Catalog) (after : List String) :
    readLines number c ((before ++ line :: after).map Text.utf8) =
      .error (badLine (number + before.length) what) := by
  rw [readLines_append h, List.map_cons, readLines, readLine_record hblank, hbad]
  rfl

/-- Either all lines are passed, or there is a first one that is not. -/
theorem records_or_bad (lines : List String) :
    (∃ bridges : List Bridge, (written lines).map record = bridges.map .ok) ∨
    ∃ before line after what, ∃ bridges : List Bridge, lines = before ++ line :: after ∧
      (written before).map record = bridges.map .ok ∧ ¬ Text.IsBlankLine line ∧
      record line = .error what := by
  induction lines using List.reverseRecOn with
  | nil => exact .inl ⟨[], rfl⟩
  | append_singleton lines line ih =>
    rcases ih with ⟨bridges, h⟩ | ⟨before, bad, after, what, bridges, rfl, h⟩
    · by_cases hblank : Text.IsBlankLine line
      · refine .inl ⟨bridges, ?_⟩
        rw [written, List.filter_append, List.filter_cons_of_neg (by simpa using hblank)]
        simpa [written] using h
      · cases hrecord : record line with
        | error what => exact .inr ⟨lines, line, [], what, bridges, rfl, h, hblank, hrecord⟩
        | ok bridge =>
          refine .inl ⟨bridges ++ [bridge], ?_⟩
          rw [written, List.filter_append, List.filter_cons_of_pos (by simpa using hblank),
            List.map_append, List.map_append, ← h, List.map_cons, hrecord]
          rfl
    · exact .inr ⟨before, bad, after ++ [line], what, bridges, by simp, h⟩

/-! ## The catalog of some bridges -/

/-- The last of some bridges with a fingerprint. -/
def lastWith (f : Fingerprint) (bridges : List Bridge) : Option Bridge :=
  bridges.reverse.find? (·.fingerprint = f)

/-- A catalog holds some bridges: the first is the default, and under each fingerprint the
last one with it is stored. -/
structure Holds (c : Catalog) (bridges : List Bridge) : Prop where
  first : bridges.head? = some c.default
  last : ∀ f, c.bridges.get? f = lastWith f bridges

theorem lastWith_concat (f : Fingerprint) (bridges : List Bridge) (bridge : Bridge) :
    lastWith f (bridges ++ [bridge]) =
      if f = bridge.fingerprint then some bridge else lastWith f bridges := by
  rw [lastWith, List.reverse_concat, List.find?_cons]
  by_cases h : f = bridge.fingerprint
  · simp [h]
  · simp [h, Ne.symm h, lastWith]

theorem lastWith_eq_none_iff {f : Fingerprint} {bridges : List Bridge} :
    lastWith f bridges = none ↔ ∀ bridge ∈ bridges, bridge.fingerprint ≠ f := by
  simp [lastWith]

theorem holds_ofDefault (bridge : Bridge) : Holds (ofDefault bridge) [bridge] where
  first := rfl
  last f := by
    rw [ofDefault, Table.get?_insert, ← List.nil_append [bridge], lastWith_concat]
    rfl

theorem Holds.add {c : Catalog} {bridges : List Bridge} (h : c.Holds bridges) (bridge : Bridge) :
    Holds (add (some c) bridge) (bridges ++ [bridge]) where
  first := by rw [List.head?_append, h.first]; rfl
  last f := by rw [Catalog.add, Table.get?_insert, lastWith_concat, h.last]

theorem holds_gathered {bridges : List Bridge} (hne : bridges ≠ []) :
    ∃ c, gathered none bridges = some c ∧ c.Holds bridges := by
  induction bridges using List.reverseRecOn with
  | nil => exact absurd rfl hne
  | append_singleton bridges bridge ih =>
    rw [gathered, List.foldl_append]
    by_cases h : bridges = []
    · subst h
      exact ⟨_, rfl, holds_ofDefault bridge⟩
    · obtain ⟨c, hc, hholds⟩ := ih h
      rw [gathered] at hc
      rw [hc]
      exact ⟨_, rfl, hholds.add bridge⟩

/-- There are as many bridges as fingerprints. -/
theorem Holds.size_eq {c : Catalog} {bridges : List Bridge} (h : c.Holds bridges) :
    c.size = (bridges.map (·.fingerprint)).toFinset.card := by
  rw [size, ← Table.card_keys]
  congr 1
  ext f
  rw [Table.mem_keys, h.last, ← Option.isSome_iff_exists, ← Option.ne_none_iff_isSome, ne_eq,
    lastWith_eq_none_iff]
  simp

theorem Holds.lookup_ok_iff {c : Catalog} {bridges : List Bridge} (h : c.Holds bridges)
    (f : Fingerprint) (bridge : Bridge) :
    c.lookup f = .ok bridge ↔ lastWith f bridges = some bridge := by
  rw [lookup, ← h.last]
  cases c.bridges.get? f <;> simp

theorem Holds.lookup_error_iff {c : Catalog} {bridges : List Bridge} (h : c.Holds bridges)
    (f : Fingerprint) :
    c.lookup f = .error (.unknownBridge f.text) ↔ ∀ bridge ∈ bridges, bridge.fingerprint ≠ f := by
  rw [← lastWith_eq_none_iff, lookup, ← h.last]
  cases c.bridges.get? f <;> simp

/-! ## Reading a list -/

/-- How a list with some lines can be read: it has none that counts, all that count record a
bridge, or there is a first one that does not. -/
inductive Reading (lines : List String) : Except BrokerError Catalog → Prop
  | empty (blank : written lines = []) :
      Reading lines (.error (.config "bridge list is empty"))
  | catalog {bridges : List Bridge} {c : Catalog} (nonempty : bridges ≠ [])
      (records : (written lines).map record = bridges.map .ok) (holds : c.Holds bridges) :
      Reading lines (.ok c)
  | bad {before after : List String} {line fault : String} {bridges : List Bridge}
      (split : lines = before ++ line :: after)
      (records : (written before).map record = bridges.map .ok)
      (counts : ¬ Text.IsBlankLine line) (invalid : record line = .error fault) :
      Reading lines (.error (badLine (before.length + 1) fault))

theorem read_reading (text : String) : Reading (Text.lines text) (read (Text.utf8 text)) := by
  rcases records_or_bad (Text.lines text) with ⟨bridges, hrecords⟩ |
    ⟨before, line, after, fault, bridges, hlines, hbefore, hblank, hbad⟩
  · have hread := readLines_append hrecords 1 none []
    rw [List.append_nil, ← splitLines_utf8] at hread
    rw [read, hread]
    by_cases hne : bridges = []
    · subst hne
      exact .empty (List.map_eq_nil_iff.mp hrecords)
    · obtain ⟨c, hgathered, hholds⟩ := holds_gathered hne
      rw [hgathered]
      exact .catalog hne hrecords hholds
  · rw [read, splitLines_utf8, hlines, readLines_error hbefore hblank hbad, Nat.add_comm]
    exact .bad rfl hbefore hblank hbad

theorem exists_of_records {lines : List String} {bridges : List Bridge}
    (h : lines.map record = bridges.map .ok) {line : String} (hline : line ∈ lines) :
    ∃ bridge, record line = .ok bridge := by
  have hmem : record line ∈ bridges.map (.ok : Bridge → Except String Bridge) :=
    h ▸ List.mem_map_of_mem hline
  obtain ⟨bridge, -, heq⟩ := List.mem_map.mp hmem
  exact ⟨bridge, heq.symm⟩

/-- **A list is read exactly.** A line records a bridge if it is an entry whose fingerprint has
forty hexadecimal digits, and it records the bridge that the entry describes. A text is read as
a catalog if and only if some line is not blank and each such line records a bridge. Then the
first of these bridges is the default one, a look-up finds the last with a fingerprint, or tells
that there is none, and the size is the number of different fingerprints. If a line that is not
blank records no bridge, the error is that of the first such line, with its number, blank lines
counted. -/
theorem listing_read_exactly (text : String) :
    let lines := Text.lines text
    let result := read (Text.utf8 text)
    (∀ line, (∃ bridge, record line = .ok bridge) ↔
      ∃ entry, Json.decode Entry.shape (Text.utf8 line) = .ok entry ∧
        (Text.trim entry.fingerprint).length = 40 ∧
        ∀ c ∈ (Text.trim entry.fingerprint).toList, IsHexDigit c) ∧
    (∀ line bridge, record line = .ok bridge ↔
      ∃ entry, Json.decode Entry.shape (Text.utf8 line) = .ok entry ∧
        bridge.name = entry.displayName ∧ bridge.url = entry.webSocketAddress ∧
        (Text.trim entry.fingerprint).toUpper = bridge.fingerprint.text) ∧
    ((∃ c, result = .ok c) ↔
      written lines ≠ [] ∧ ∀ line ∈ written lines, ∃ bridge, record line = .ok bridge) ∧
    (∀ c, result = .ok c → ∃ bridges : List Bridge,
      (written lines).map record = bridges.map .ok ∧ bridges.head? = some c.default ∧
      (∀ f bridge, c.lookup f = .ok bridge ↔ lastWith f bridges = some bridge) ∧
      (∀ f, c.lookup f = .error (.unknownBridge f.text) ↔
        ∀ bridge ∈ bridges, bridge.fingerprint ≠ f) ∧
      c.size = (bridges.map (·.fingerprint)).toFinset.card) ∧
    (written lines = [] → result = .error (.config "bridge list is empty")) ∧
    ∀ line ∈ written lines, ∀ what, record line = .error what →
      ∃ before bad after fault, lines = before ++ bad :: after ∧
        (∀ earlier ∈ written before, ∃ bridge, record earlier = .ok bridge) ∧
        ¬ Text.IsBlankLine bad ∧ record bad = .error fault ∧
        result = .error (badLine (before.length + 1) fault) := by
  intro lines result
  refine ⟨fun line => exists_record_iff, fun line bridge => record_ok_iff, ?_⟩
  have hreading : Reading lines result := read_reading text
  generalize lines = lines, result = result at hreading
  cases hreading with
  | empty blank =>
    refine ⟨iff_of_false nofun fun h => h.1 blank, nofun, fun _ => rfl, fun line hline => ?_⟩
    rw [blank] at hline
    cases hline
  | @catalog bridges c nonempty records holds =>
    have hwritten : written lines ≠ [] := by
      rwa [ne_eq, ← List.map_eq_nil_iff (f := record), records, List.map_eq_nil_iff]
    refine ⟨iff_of_true ⟨c, rfl⟩ ⟨hwritten, fun line => exists_of_records records⟩, ?_,
      fun h => absurd h hwritten, fun line hline what hbad => ?_⟩
    · rintro _ ⟨⟩
      exact ⟨bridges, records, holds.first, holds.lookup_ok_iff, holds.lookup_error_iff,
        holds.size_eq⟩
    · obtain ⟨bridge, hok⟩ := exists_of_records records hline
      cases hbad.symm.trans hok
  | @bad before after line fault bridges split records counts invalid =>
    have hline : line ∈ written lines := by
      rw [split]
      exact List.mem_filter.mpr ⟨by simp, by simpa using counts⟩
    refine ⟨iff_of_false nofun fun h => ?_, nofun, fun h => ?_, fun _ _ _ _ =>
      ⟨before, line, after, fault, split, fun _ => exists_of_records records, counts, invalid, rfl⟩⟩
    · obtain ⟨bridge, hok⟩ := h.2 line hline
      cases invalid.symm.trans hok
    · rw [h] at hline
      cases hline

/-- A list whose second line is blank, and whose third line records the fingerprint of the first
one in small letters and behind a blank. Its default is the bridge of the first line, and the
bridge of the third line is the one that is found. With one more line, whose fingerprint is too
short, the list is refused, and that line has the number four. -/
theorem blank_line_counted :
    let first := "[\"a\",\"wss://a/\",\"2B280B23E1107BB62ABFC40DDCC8824814F80A72\"]"
    let second := "[\"b\",\"wss://b/\",\" 2b280b23e1107bb62abfc40ddcc8824814f80a72\"]"
    let short := "[\"c\",\"wss://c/\",\"2B28\"]"
    let text := first ++ "\n \t\n" ++ second ++ "\n"
    (∃ c, read (Text.utf8 text) = .ok c ∧
      c.default = ⟨"a", "wss://a/", builtinFingerprint⟩ ∧
      c.lookup builtinFingerprint = .ok ⟨"b", "wss://b/", builtinFingerprint⟩ ∧ c.size = 1) ∧
    read (Text.utf8 (text ++ short)) = .error (.config
      "bridge list line 4: bad request: fingerprint must be 20 bytes, got 2") := by
  intro first second short text
  let bridges : List Bridge :=
    [⟨"a", "wss://a/", builtinFingerprint⟩, ⟨"b", "wss://b/", builtinFingerprint⟩]
  have hrecords : [first, second].map record = bridges.map .ok := by decide +kernel
  constructor
  · obtain ⟨-, -, hread, hcatalog, -⟩ := listing_read_exactly text
    have hwritten : written (Text.lines text) = [first, second] := by decide +kernel
    rw [hwritten] at hread hcatalog
    obtain ⟨c, hc⟩ := hread.mpr ⟨List.cons_ne_nil _ _, fun line => exists_of_records hrecords⟩
    obtain ⟨gathered, hgathered, hdefault, hlookup, -, hsize⟩ := hcatalog c hc
    have hinj : Function.Injective (List.map (Except.ok : Bridge → Except String Bridge)) :=
      List.map_injective_iff.mpr fun _ _ => Except.ok.inj
    obtain rfl : gathered = bridges := hinj (hgathered.symm.trans hrecords)
    have hlast : lastWith builtinFingerprint bridges =
        some ⟨"b", "wss://b/", builtinFingerprint⟩ := by decide
    exact ⟨c, hc, (Option.some.inj hdefault).symm, (hlookup _ _).mpr hlast, hsize⟩
  · obtain ⟨-, -, -, -, -, hbad⟩ := listing_read_exactly (text ++ short)
    have hlines : Text.lines (text ++ short) = [first, " \t", second, short] := by
      decide +kernel
    have hshort : short ∈ written [first, " \t", second, short] := by decide +kernel
    have hblank : Text.IsBlankLine " \t" := by decide +kernel
    have hfault : record short =
        .error "bad request: fingerprint must be 20 bytes, got 2" := by decide +kernel
    rw [hlines] at hbad
    obtain ⟨before, bad, after, fault, hsplit, -, hcounts, hinvalid, hresult⟩ :=
      hbad short hshort _ hfault
    have hplace : [first, " \t", second, short][before.length]? = some bad := by
      rw [hsplit]
      simp
    -- None of the first three lines is the bad one.
    have hnot {line : String} (hline : line ∈ [first, second]) : line ≠ bad := by
      rintro rfl
      obtain ⟨bridge, hok⟩ := exists_of_records hrecords hline
      cases hinvalid.symm.trans hok
    obtain ⟨hthree, rfl⟩ : before.length = 3 ∧ short = bad := by
      match before.length, hplace with
      | 0, h => exact absurd (Option.some.inj h) (hnot (by simp))
      | 1, h => exact absurd (Option.some.inj h ▸ hblank) hcounts
      | 2, h => exact absurd (Option.some.inj h) (hnot (by simp))
      | 3, h => exact ⟨rfl, Option.some.inj h⟩
    obtain rfl := Except.error.inj (hinvalid.symm.trans hfault)
    rw [hresult, hthree]
    decide +kernel

end Catalog

end RelayBroker
