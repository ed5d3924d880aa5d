/-
  RelayBroker.Proofs.Text.Lines

  Texts without the blanks at their ends, and the lines of a text. Trimming keeps a first
  character that is not blank (`head?_trimChars`), leaves nothing of a blank line only
  (`trim_eq_empty_iff`), and takes away what blanks were put around a text without any
  (`trim_surrounded`).
-/

import Mathlib.Data.List.TakeWhile
import RelayBroker.Text.Blank

namespace RelayBroker.Text

/-! ## Trimming -/

/-- Whether a line has no other than blank characters. -/
def IsBlankLine (line : String) : Prop :=
  ∀ c ∈ line.toList, isBlank c = true

instance (line : String) : Decidable (IsBlankLine line) :=
  List.decidableBAll (isBlank · = true) line.toList

/-- A character that is not blank stays in front. -/
theorem head?_trimChars {c : Char} (h : isBlank c = false) (cs : List Char) :
    (trimChars (c :: cs)).head? = some c := by
  rw [trimChars, List.dropWhile_cons_of_neg (by simp [h]), List.reverse_cons,
    List.dropWhile_append, List.dropWhile_cons_of_neg (by simp [h])]
  split
  · rfl
  · rw [List.reverse_append]
    rfl

theorem trim_eq_empty_iff {s : String} : trim s = "" ↔ IsBlankLine s := by
  have hofList : ∀ cs : List Char, String.ofList cs = "" ↔ cs = [] := fun cs => by
    rw [← String.toList_inj, String.toList_ofList, String.toList_empty]
  rw [trim, hofList, trimChars, List.reverse_eq_nil_iff, List.dropWhile_eq_nil_iff, IsBlankLine]
  constructor
  · -- What is left in front is all blank, and so nothing is left.
    intro h
    rw [← List.dropWhile_eq_nil_iff]
    by_contra hne
    have hhead := List.head_dropWhile_not isBlank hne
    rw [h _ (List.mem_reverse.mpr (List.head_mem hne))] at hhead
    cases hhead
  · intro h c hc
    exact h c ((List.dropWhile_sublist _).mem (List.mem_reverse.mp hc))

/-- Blanks around a text that has none go, and nothing else does. -/
theorem trimChars_surrounded {before cs after : List Char}
    (hbefore : ∀ c ∈ before, isBlank c = true) (hcs : ∀ c ∈ cs, isBlank c = false)
    (hafter : ∀ c ∈ after, isBlank c = true) :
    trimChars (before ++ cs ++ after) = cs := by
  -- At either end the blanks go up to the first character that is none.
  have hstart (cs rest : List Char) (h : ∀ c ∈ cs, isBlank c = false) (hne : cs ≠ []) :
      (cs ++ rest).dropWhile isBlank = cs ++ rest := by
    obtain ⟨c, cs, rfl⟩ := List.exists_cons_of_ne_nil hne
    exact List.dropWhile_cons_of_neg (by simp [h c List.mem_cons_self])
  rw [trimChars, List.append_assoc, List.dropWhile_append_of_pos hbefore]
  cases cs with
  | nil =>
    have hgone : after.dropWhile isBlank = [] := List.dropWhile_eq_nil_iff.mpr hafter
    rw [List.nil_append, hgone]
    rfl
  | cons c cs =>
    rw [hstart (c :: cs) after hcs (List.cons_ne_nil _ _), List.reverse_append,
      List.dropWhile_append_of_pos fun x hx => hafter x (List.mem_reverse.mp hx)]
    have hend := hstart (c :: cs).reverse [] (fun x hx => hcs x (List.mem_reverse.mp hx)) (by simp)
    rw [List.append_nil] at hend
    rw [hend, List.reverse_reverse]

/-- Blanks around a text that has none go when it is trimmed. -/
theorem trim_surrounded {before s after : String} (hbefore : IsBlankLine before)
    (hs : ∀ c ∈ s.toList, isBlank c = false) (hafter : IsBlankLine after) :
    trim (before ++ s ++ after) = s := by
  rw [trim, String.toList_append, String.toList_append, trimChars_surrounded hbefore hs hafter,
    String.ofList_toList]

/-! ## Lines -/

/-- A line without the carriage return at its end, if there is one. -/
def chomp (line : List Char) : List Char :=
  if line.getLast? = some '\r' then line.dropLast else line

/-- The lines of what stands between line feeds: all that a feed ends, and the last piece
unless it is empty. -/
def ofPieces (pieces : List (List Char)) : List (List Char) :=
  pieces.dropLast.map chomp ++ pieces.getLast?.toList.filter (· ≠ [])

/-- The lines of a text. -/
def lines (text : String) : List String :=
  (ofPieces (text.toList.splitOn '\n')).map String.ofList

theorem ofPieces_cons (piece : List Char) {pieces : List (List Char)} (h : pieces ≠ []) :
    ofPieces (piece :: pieces) = chomp piece :: ofPieces pieces := by
  rw [ofPieces, ofPieces, List.dropLast_cons_of_ne_nil h, List.map_cons,
    List.getLast?_cons_of_ne_nil h, List.cons_append]

example : lines "a\r\n\nb\r" = ["a", "", "b\r"] := by decide

end RelayBroker.Text
