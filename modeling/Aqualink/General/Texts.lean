import Mathlib.Data.List.DropRight
import Mathlib.Data.List.Infix

/-!
# Searching and comparing texts

A text is a list of characters, one byte each.  The comparisons that disregard case do so
for the letters of ASCII.
-/

namespace AqualinkAutomate.General

open List

section

/-- `std::isspace`. -/
def isWhitespace (c : Char) : Bool := decide (c ∈ [' ', '\t', '\n', '\x0b', '\x0c', '\r'])

/-- A text without the characters of a kind around it. -/
def trimBy (p : Char → Bool) (text : List Char) : List Char := (text.dropWhile p).rdropWhile p

def trimWhitespace (text : List Char) : List Char := trimBy isWhitespace text

def equalsCaseInsensitive (first second : List Char) : Bool :=
  first.map Char.toLower == second.map Char.toLower

def containsText (text needle : List Char) : Bool := text.tails.any needle.isPrefixOf

def startsWithCaseInsensitive (text label : List Char) : Bool :=
  (label.map Char.toLower).isPrefixOf (text.map Char.toLower)

/-- Like `containsText`, case aside. -/
def containsCaseInsensitive (text needle : List Char) : Bool :=
  containsText (text.map Char.toLower) (needle.map Char.toLower)

theorem mem_of_mem_trimBy {p : Char → Bool} {text : List Char} {c : Char}
    (h : c ∈ trimBy p text) : c ∈ text :=
  (dropWhile_sublist p).subset ((List.rdropWhile_prefix p _).subset h)

/-!
## Texts joined by a separator

Texts that do not have the separator can be told from the text they are joined to.
-/

variable {separator : Char}

theorem intercalate_injective (separator : Char) {first second : List String}
    (hfirst : first ≠ []) (hsecond : second ≠ []) (hfree : ∀ text ∈ first, separator ∉ text.toList)
    (hfree' : ∀ text ∈ second, separator ∉ text.toList)
    (h : String.intercalate (String.singleton separator) first =
      String.intercalate (String.singleton separator) second) : first = second := by
  have hsplit := String.toList_split_intercalate hfree
  rw [h, String.toList_split_intercalate hfree', if_neg hsecond, if_neg hfirst] at hsplit
  exact hsplit.symm

theorem append_separator_inj {before before' after after' : List Char}
    (hbefore : separator ∉ before) (hbefore' : separator ∉ before')
    (h : before ++ separator :: after = before' ++ separator :: after') :
    before = before' ∧ after = after' := by
  induction before generalizing before' with
  | nil =>
    cases before' with
    | nil => exact ⟨rfl, (List.cons.inj h).2⟩
    | cons c before' =>
      cases h
      exact absurd mem_cons_self hbefore'
  | cons c before ih =>
    cases before' with
    | nil =>
      cases h
      exact absurd mem_cons_self hbefore
    | cons c' before' =>
      obtain ⟨rfl, hrest⟩ := List.cons.inj h
      rw [mem_cons, not_or] at hbefore hbefore'
      obtain ⟨rfl, hafter⟩ := ih hbefore.2 hbefore'.2 hrest
      exact ⟨rfl, hafter⟩

end

/-!
## The lines of a text

A text is read line by line: a line goes up to the next line break, which is not part of it, and
after the last break there is another line only if there is text.

A text that ends in a break can be cut there (`linesOf_append`).  Text in front of another text
belongs to the first line of that one, if it has no break itself (`linesOf_front`).
-/

def linesOf : List Char → List (List Char)
  | [] => []
  | '\n' :: rest => [] :: linesOf rest
  | char :: rest =>
    match linesOf rest with
    | [] => [[char]]
    | line :: later => (char :: line) :: later

def laterLines (text : List Char) : List (List Char) := (linesOf (text ++ ['\n'])).tail

section

variable {front line text : List Char}

theorem linesOf_cons {char : Char} (h : char ≠ '\n') (rest : List Char) :
    linesOf (char :: rest) =
      match linesOf rest with
      | [] => [[char]]
      | line :: later => (char :: line) :: later := by
  rwa [linesOf]

theorem linesOf_append (text rest : List Char) :
    linesOf (text ++ '\n' :: rest) = linesOf (text ++ ['\n']) ++ linesOf rest := by
  induction text with
  | nil => rfl
  | cons char text ih =>
    by_cases hbreak : char = '\n'
    · subst hbreak
      simp only [cons_append, linesOf, ih]
    · simp only [cons_append, linesOf_cons hbreak, ih]
      cases hlines : linesOf (text ++ ['\n']) with
      | nil =>
        cases text with
        | nil => cases hlines
        | cons first text =>
          exfalso
          by_cases hfirst : first = '\n'
          · subst hfirst
            cases hlines
          · rw [cons_append, linesOf_cons hfirst] at hlines
            split at hlines <;> cases hlines
      | cons line later => rfl

theorem linesOf_front (hfront : '\n' ∉ front) (text : List Char) :
    ∃ first, linesOf (front ++ (text ++ ['\n'])) = (front ++ first) :: laterLines text := by
  induction front with
  | nil =>
    cases text with
    | nil => exact ⟨[], rfl⟩
    | cons char text =>
      by_cases hbreak : char = '\n'
      · subst hbreak
        exact ⟨[], rfl⟩
      · rw [laterLines, nil_append, cons_append, linesOf_cons hbreak]
        split
        · exact ⟨[char], rfl⟩
        · exact ⟨_, rfl⟩
  | cons char front ih =>
    rw [mem_cons, not_or] at hfront
    obtain ⟨first, hlines⟩ := ih hfront.2
    exact ⟨first, by rw [cons_append, linesOf_cons (Ne.symm hfront.1), hlines]; rfl⟩

theorem linesOf_line (hline : '\n' ∉ line) : linesOf (line ++ ['\n']) = [line] := by
  induction line with
  | nil => rfl
  | cons char line ih =>
    rw [mem_cons, not_or] at hline
    rw [cons_append, linesOf_cons (Ne.symm hline.1), ih hline.2]

end

/-!
## Texts made of words

The words of a text are its parts between separators, the empty parts left out.  `Spaced p ws text`
says the same by giving the text: the words one after the other, with at least one separator
between two of them and any number in front of the first and behind the last
(`words_eq_iff`).
-/

variable {α : Type*} {p : α → Bool} {text gap word rest : List α} {ws : List (List α)} {c : α}

/-- The parts between separators that are not empty. -/
def words (p : α → Bool) (text : List α) : List (List α) :=
  (text.splitOnP p).filter fun word => !word.isEmpty

def Spaced (p : α → Bool) : List (List α) → List α → Prop
  | [], text => ∀ c ∈ text, p c = true
  | word :: ws, text => ∃ gap rest, text = gap ++ (word ++ rest) ∧ (∀ c ∈ gap, p c = true) ∧
      word ≠ [] ∧ (∀ c ∈ word, p c = false) ∧ (∀ c ∈ rest.head?, p c = true) ∧ Spaced p ws rest

theorem words_cons_of_sep (h : p c) : words p (c :: text) = words p text := by
  rw [words, words, splitOnP_cons_eq_if_modifyHead, if_pos h, filter_cons_of_neg (by simp)]

theorem words_append_of_sep (h : ∀ c ∈ gap, p c) : words p (gap ++ text) = words p text := by
  induction gap with
  | nil => rfl
  | cons c gap ih =>
    rw [cons_append, words_cons_of_sep (h c mem_cons_self)]
    exact ih fun c hc => h c (mem_cons_of_mem _ hc)

theorem words_append_of_word (hne : word ≠ []) (h : ∀ c ∈ word, p c = false)
    (hrest : ∀ c ∈ rest.head?, p c) : words p (word ++ rest) = word :: words p rest := by
  have hkept : (!word.isEmpty) := by simpa using hne
  cases rest with
  | nil => simp [words, splitOnP_eq_singleton h, hkept]
  | cons c rest =>
    have hsep : p c := hrest c rfl
    rw [words_cons_of_sep hsep, words, splitOnP_append_cons_of_forall_mem h c hsep,
      filter_cons, if_pos hkept, words]

theorem words_of_word (hne : word ≠ []) (h : ∀ c ∈ word, p c = false) : words p word = [word] := by
  calc words p word = words p (word ++ []) := by rw [append_nil]
    _ = word :: words p [] := words_append_of_word hne h (by simp)
    _ = [word] := by simp [words]

theorem words_of_spaced (h : Spaced p ws text) : words p text = ws := by
  induction ws generalizing text with
  | nil =>
    calc words p text = words p (text ++ []) := by rw [append_nil]
      _ = words p [] := words_append_of_sep h
      _ = [] := by simp [words]
  | cons word ws ih =>
    obtain ⟨gap, rest, rfl, hgap, hne, hword, hrest, hws⟩ := h
    rw [words_append_of_sep hgap, words_append_of_word hne hword hrest, ih hws]

theorem spaced_words (p : α → Bool) (text : List α) : Spaced p (words p text) text := by
  induction hlength : text.length using Nat.strong_induction_on generalizing text with
  | _ n ih =>
    have hgap : ∀ c ∈ text.takeWhile p, p c := fun c hc => mem_takeWhile_imp hc
    have htext : text.takeWhile p ++ text.dropWhile p = text := takeWhile_append_dropWhile
    cases hdrop : text.dropWhile p with
    | nil =>
      rw [hdrop, append_nil] at htext
      have hall : ∀ c ∈ text, p c := by rwa [htext] at hgap
      have hspaced : Spaced p [] text := hall
      rwa [words_of_spaced hspaced]
    | cons first tail =>
      -- the first word starts here, and what follows it is shorter than the text
      let word := (first :: tail).takeWhile fun c => !p c
      let rest := (first :: tail).dropWhile fun c => !p c
      have hsplit : word ++ rest = first :: tail := takeWhile_append_dropWhile
      have hword : ∀ c ∈ word, p c = false := fun c hc => by
        simpa using mem_takeWhile_imp hc
      have hfirst : p first = false := by
        have hhead := head_dropWhile_not p (l := text) (by rw [hdrop]; simp)
        simpa [hdrop] using hhead
      have hne : word ≠ [] := by
        show takeWhile _ (first :: tail) ≠ []
        rw [takeWhile_cons_of_pos (by simp [hfirst])]
        exact cons_ne_nil _ _
      have hrest : ∀ c ∈ rest.head?, p c := by
        intro c hc
        have hnil : rest ≠ [] := by
          rintro hnil
          rw [hnil] at hc
          cases hc
        have hhead := head_dropWhile_not (fun c => !p c) hnil
        obtain rfl : rest.head hnil = c :=
          Option.some_inj.mp ((head?_eq_some_head hnil).symm.trans hc)
        simpa using hhead
      have hshort : rest.length < n := by
        have hcount : word.length + rest.length ≤ n := by
          rw [← hlength, ← htext, hdrop, ← hsplit, length_append, length_append]
          omega
        have hpos := List.length_pos_iff.mpr hne
        omega
      have hwords : words p text = word :: words p rest := by
        rw [← htext, hdrop, ← hsplit, words_append_of_sep hgap,
          words_append_of_word hne hword hrest]
      rw [hwords]
      exact ⟨text.takeWhile p, rest, by rw [hsplit, ← hdrop, htext], hgap, hne, hword, hrest,
        ih rest.length hshort rest rfl⟩

theorem words_eq_iff : words p text = ws ↔ Spaced p ws text :=
  ⟨fun h => h ▸ spaced_words p text, words_of_spaced⟩

end AqualinkAutomate.General
