import RoutineAtlas.Proofs.Text.Occurrence
import RoutineAtlas.Proofs.Text.Words

/-
This file settles what becomes of phrases when two texts are joined by a line feed. A phrase that
ends within its text is still there when a line follows, and a search is open behind a line feed, so
that it finds in the whole what it finds in a part.
-/

namespace RoutineAtlas

/-- A recogniser is settled when a line that follows leaves what it reads as it was. -/
def Settled (recognizer : Recognizer) : Prop :=
  ∀ ⦃text rest : List Char⦄ (below : List Char), recognizer text = some rest →
    recognizer (text ++ '\n' :: below) = some (rest ++ '\n' :: below)

/-- A recogniser persists when a line that follows does not take its phrase away. -/
def Persists (recognizer : Recognizer) : Prop :=
  ∀ ⦃text : List Char⦄ (below : List Char), (recognizer text).isSome = true →
    (recognizer (text ++ '\n' :: below)).isSome = true

theorem Settled.persists {recognizer : Recognizer} (settled : Settled recognizer) :
    Persists recognizer := by
  intro text below found
  obtain ⟨rest, read⟩ := Option.isSome_iff_exists.mp found
  exact Option.isSome_of_eq_some (settled below read)

/-- One settled phrase behind another is settled. -/
theorem Settled.bind {first second : Recognizer} (settled : Settled first)
    (settledToo : Settled second) : Settled fun text => first text >>= second := by
  intro text rest below read
  obtain ⟨between, begins, ends⟩ := Option.bind_eq_some_iff.mp read
  dsimp only
  rw [settled below begins, Option.bind_eq_bind, Option.bind_some]
  exact settledToo below ends

theorem Settled.bind_persists {first second : Recognizer} (settled : Settled first)
    (persists : Persists second) : Persists fun text => first text >>= second := by
  intro text below found
  obtain ⟨rest, read⟩ := Option.isSome_iff_exists.mp found
  obtain ⟨between, begins, ends⟩ := Option.bind_eq_some_iff.mp read
  dsimp only
  rw [settled below begins, Option.bind_eq_bind, Option.bind_some]
  exact persists below (Option.isSome_of_eq_some ends)

/-- Blanks before a phrase may run on into the next line only where the phrase is missing. -/
theorem Settled.behindBlanks {recognizer : Recognizer} (settled : Settled recognizer)
    (filled : recognizer [] = none) : Settled fun text => recognizer (skipBlanks text) := by
  intro text rest below read
  dsimp only at read ⊢
  have visible : skipBlanks text ≠ [] := by
    intro blank
    rw [blank, filled] at read
    exact absurd read (by simp)
  have skipped : skipBlanks (text ++ '\n' :: below) = skipBlanks text ++ '\n' :: below := by
    rw [skipBlanks, List.dropWhile_append, if_neg (by simpa [skipBlanks] using visible)]
    rfl
  rw [skipped]
  exact settled below read

/-- The same holds where there is at least one blank. -/
theorem Settled.behindBlank {recognizer : Recognizer} (settled : Settled recognizer)
    (filled : recognizer [] = none) : Settled fun text => afterBlanks text >>= recognizer := by
  intro text rest below read
  cases text with
  | nil => exact absurd read (by simp [afterBlanks])
  | cons first others =>
      cases blank : isBlank first with
      | false => exact absurd read (by simp [afterBlanks, blank])
      | true =>
          simp only [afterBlanks, blank, if_true, Option.bind_eq_bind, Option.bind_some] at read
          simp only [List.cons_append, afterBlanks, blank, if_true, Option.bind_eq_bind,
            Option.bind_some]
          exact settled.behindBlanks filled below read

theorem settled_afterLiteral (literal : String) : Settled (afterLiteral literal) := by
  intro text rest below read
  rw [afterLiteral_eq_some] at read ⊢
  rw [read, List.append_assoc]

theorem afterLiteral_nil {literal : String} (filled : literal.toList ≠ []) :
    afterLiteral literal [] = none := by
  rw [← Option.not_isSome_iff_eq_none, Option.isSome_iff_exists]
  rintro ⟨rest, read⟩
  exact filled (List.append_eq_nil_iff.mp (afterLiteral_eq_some.mp read).symm).1

theorem settled_afterSpaced {literal : String} (filled : literal.toList ≠ []) :
    Settled (afterSpaced literal) :=
  (settled_afterLiteral literal).behindBlanks (afterLiteral_nil filled)

theorem settled_afterQuote : Settled afterQuote := by
  intro text rest below read
  rw [afterQuote_eq_some_iff] at read ⊢
  obtain ⟨quote, rfl, isQuote⟩ := read
  exact ⟨quote, rfl, isQuote⟩

theorem settled_afterQuoted (content : String) : Settled (afterQuoted content) :=
  Settled.behindBlanks
    (settled_afterQuote.bind ((settled_afterLiteral content).bind settled_afterQuote)) rfl

/-- A line feed ends a word no less than the end of the text does. -/
theorem settled_afterWord (word : String) : Settled (afterWord word) := by
  intro text rest below read
  rw [afterWord_eq_some_iff] at read ⊢
  obtain ⟨rfl, stops⟩ := read
  refine ⟨List.append_assoc _ _ _, ?_⟩
  cases rest with
  | nil => exact stops_cons.mpr (by decide)
  | cons first others => exact stops_cons.mpr (stops_cons.mp stops)

/-- A phrase that persists occurs in a text to which a line is added below. -/
theorem OccursBehind.above {kind : Char → Bool} {recognizer : Recognizer} {isOpen : Bool}
    {text : List Char} (persists : Persists recognizer)
    (occurs : OccursBehind kind recognizer isOpen text) (below : List Char) :
    OccursBehind kind recognizer isOpen (text ++ '\n' :: below) := by
  obtain ⟨before, behind, rfl, allowed, found⟩ := occurs
  exact ⟨before, behind ++ '\n' :: below, List.append_assoc _ _ _, allowed,
    persists below found⟩

/-- A phrase occurs in a text to which lines are added above, since the search is open behind them
as it is at the start. -/
theorem OccursBehind.below {kind : Char → Bool} {recognizer : Recognizer} {isOpen : Bool}
    {text : List Char} (opens : kind '\n' = true)
    (occurs : OccursBehind kind recognizer true text) (above : List Char) :
    OccursBehind kind recognizer isOpen (above ++ '\n' :: text) := by
  obtain ⟨before, behind, rfl, allowed, found⟩ := occurs
  refine ⟨above ++ '\n' :: before, behind, by simp, ?_, found⟩
  rw [isOpenBehind_append_cons, opens, allowed]

section Joined

variable {recognizer : Recognizer} {above below part : String}

theorem toList_joined (above below : String) :
    (above ++ "\n" ++ below).toList = above.toList ++ '\n' :: below.toList := by
  simp

/-- Either part of a joined text brings what a search finds in it. -/
theorem OccursBehind.joined {kind : Char → Bool} (isPart : part = above ∨ part = below)
    (persists : Persists recognizer) (opens : kind '\n' = true)
    (occurs : OccursBehind kind recognizer true part.toList) :
    OccursBehind kind recognizer true (above ++ "\n" ++ below).toList := by
  rw [toList_joined]
  obtain rfl | rfl := isPart
  · exact occurs.above persists below.toList
  · exact occurs.below opens above.toList

theorem holdsPhrase_joined (isPart : part = above ∨ part = below)
    (persists : Persists recognizer) (holds : holdsPhrase recognizer part = true) :
    holdsPhrase recognizer (above ++ "\n" ++ below) = true :=
  occursAnywhere_iff.mpr
    (OccursBehind.joined isPart persists rfl (occursAnywhere_iff.mp holds))

theorem holdsAtLineStart_joined (isPart : part = above ∨ part = below)
    (persists : Persists recognizer) (holds : holdsAtLineStart recognizer part = true) :
    holdsAtLineStart recognizer (above ++ "\n" ++ below) = true :=
  occursAtLineStart_iff.mpr
    (OccursBehind.joined isPart persists rfl (occursAtLineStart_iff.mp holds))

theorem holdsAtWordStart_joined (isPart : part = above ∨ part = below)
    (persists : Persists recognizer) (filled : recognizer [] = none)
    (holds : holdsAtWordStart recognizer part = true) :
    holdsAtWordStart recognizer (above ++ "\n" ++ below) = true :=
  (occursAtWordStart_iff filled).mpr
    (OccursBehind.joined isPart persists (by decide) ((occursAtWordStart_iff filled).mp holds))

/-- A word of either part is a word of the joined text. -/
theorem holdsWord_joined {words : List String} (isPart : part = above ∨ part = below)
    (filled : ∀ word ∈ words, word.toList ≠ []) (holds : holdsWord words part = true) :
    holdsWord words (above ++ "\n" ++ below) = true := by
  obtain ⟨word, member, found⟩ := List.any_eq_true.mp holds
  have nothing : afterWord word [] = none := by
    rw [afterWord, afterLiteral_nil (filled word member)]
  exact List.any_eq_true.mpr ⟨word, member,
    holdsAtWordStart_joined isPart (settled_afterWord word).persists nothing found⟩

end Joined

end RoutineAtlas
