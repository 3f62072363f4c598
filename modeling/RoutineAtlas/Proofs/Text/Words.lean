import RoutineAtlas.Proofs.Text.Recognizer

/-
This file cuts a text into its words. The places where a word stands by itself are counted by the
words that are the same, and the phrases that are found one after the other are as many.
-/

namespace RoutineAtlas

/-- The words of a text are its maximal runs of word characters. -/
def wordsOf (text : List Char) : List (List Char) :=
  (text.splitOnP fun character => !isWord character).filter fun run => !run.isEmpty

/-- What stands on the two sides of a character outside words has its words for itself. -/
theorem wordsOf_append_cons {mark : Char} (outside : isWord mark = false)
    (above below : List Char) :
    wordsOf (above ++ mark :: below) = wordsOf above ++ wordsOf below := by
  rw [wordsOf, List.splitOnP_append_cons above below (by simp [outside]), List.filter_append]
  rfl

@[simp] theorem wordsOf_nil : wordsOf [] = [] := by
  simp [wordsOf]

/-- A character outside words belongs to none. -/
theorem wordsOf_cons {mark : Char} (outside : isWord mark = false) (rest : List Char) :
    wordsOf (mark :: rest) = wordsOf rest := by
  rw [← List.nil_append (mark :: rest), wordsOf_append_cons outside, wordsOf_nil, List.nil_append]

/-- A run that ends where the text behind it begins no word is the first word. -/
theorem wordsOf_append {run rest : List Char} (filled : run ≠ [])
    (words : ∀ character ∈ run, isWord character = true) (stops : Stops isWord rest) :
    wordsOf (run ++ rest) = run :: wordsOf rest := by
  have single : wordsOf run = [run] := by
    have uncut : ∀ character ∈ run, (!isWord character) = false := by simpa using words
    rw [wordsOf, List.splitOnP_eq_singleton uncut]
    simp [filled]
  cases rest with
  | nil => rw [List.append_nil, single, wordsOf_nil]
  | cons mark others =>
      have outside := stops_cons.mp stops
      rw [wordsOf_append_cons outside, single, wordsOf_cons outside, List.singleton_append]

/-- A text that begins a word has its longest run of word characters as the first word. -/
theorem wordsOf_of_startsWithWord {text : List Char} (begins : startsWithWord text = true) :
    wordsOf text = text.takeWhile isWord :: wordsOf (text.dropWhile isWord) := by
  have filled : text.takeWhile isWord ≠ [] := by
    cases text with
    | nil => exact absurd begins (by simp [startsWithWord])
    | cons first rest =>
        have word : isWord first = true := begins
        simp [word]
  rw [← wordsOf_append filled (fun _ member => List.mem_takeWhile_imp member)
    (stops_dropWhile isWord text), List.takeWhile_append_dropWhile]

theorem startsWithWord_eq_false_iff {text : List Char} :
    startsWithWord text = false ↔ Stops isWord text := by
  cases text with
  | nil => simp [startsWithWord, Stops]
  | cons first rest => rw [stops_cons, startsWithWord]

/-- A literal is recognised as a word where no word goes on behind it. -/
theorem afterWord_eq_some_iff {word : String} {text rest : List Char} :
    afterWord word text = some rest ↔ text = word.toList ++ rest ∧ Stops isWord rest := by
  rw [← startsWithWord_eq_false_iff, ← afterLiteral_eq_some, afterWord]
  cases afterLiteral word text with
  | none => simp
  | some behind =>
      cases goesOn : startsWithWord behind with
      | true =>
          simp only [goesOn, if_true, Option.some.injEq, reduceCtorEq, false_iff, not_and]
          rintro rfl
          simp [goesOn]
      | false =>
          simp only [goesOn, Bool.false_eq_true, if_false, Option.some.injEq]
          constructor
          · rintro rfl
            exact ⟨rfl, goesOn⟩
          · exact And.left

/-- A run of word characters has at least one character, and all of them belong to words. -/
structure IsWordRun (run : List Char) : Prop where
  filled : run ≠ []
  words : ∀ character ∈ run, isWord character = true

/-- A word is recognised where it is the longest run of word characters. -/
theorem isSome_afterWord_iff {word : String} (run : IsWordRun word.toList) {text : List Char} :
    (afterWord word text).isSome = true ↔ text.takeWhile isWord = word.toList := by
  rw [Option.isSome_iff_exists]
  constructor
  · rintro ⟨rest, recognised⟩
    obtain ⟨rfl, stops⟩ := afterWord_eq_some_iff.mp recognised
    exact takeWhile_append_of_stops run.words stops
  · intro longest
    refine ⟨text.dropWhile isWord, afterWord_eq_some_iff.mpr ⟨?_, stops_dropWhile isWord text⟩⟩
    rw [← longest, List.takeWhile_append_dropWhile]

/-- No word is recognised where the text does not begin one. -/
theorem afterWord_of_stops {word : String} (run : IsWordRun word.toList) {text : List Char}
    (stops : Stops isWord text) : afterWord word text = none := by
  rw [← Option.not_isSome_iff_eq_none, isSome_afterWord_iff run]
  cases text with
  | nil => exact run.filled.symm
  | cons first rest => simpa [stops_cons.mp stops] using run.filled.symm

/-- A word that is recognised takes up word characters only. -/
theorem exists_of_afterWord_cons {word : String} (run : IsWordRun word.toList) {character : Char}
    {rest behind : List Char} (found : afterWord word (character :: rest) = some behind) :
    ∃ others, rest = others ++ behind ∧ isWord character = true ∧
      ∀ other ∈ others, isWord other = true := by
  obtain ⟨split, _⟩ := afterWord_eq_some_iff.mp found
  obtain ⟨first, others, spelt⟩ := List.exists_cons_of_ne_nil run.filled
  have words := run.words
  rw [spelt, List.forall_mem_cons] at words
  rw [spelt, List.cons_append, List.cons.injEq] at split
  obtain ⟨rfl, rfl⟩ := split
  exact ⟨others, rfl, words⟩

/-- The places where a word stands by itself are as many as the words that are the same. Within a
word the count begins behind it. -/
theorem countAtWordStart_afterWord {word : String} (run : IsWordRun word.toList)
    (text : List Char) :
    countAtWordStart (afterWord word) false text = (wordsOf text).count word.toList ∧
      countAtWordStart (afterWord word) true text =
        (wordsOf (text.dropWhile isWord)).count word.toList := by
  induction text with
  | nil => simp [countAtWordStart]
  | cons character rest inductionHypothesis =>
      obtain ⟨outsideCount, insideCount⟩ := inductionHypothesis
      cases kind : isWord character with
      | false =>
          have stops : Stops isWord (character :: rest) := stops_cons.mpr kind
          have nothing := afterWord_of_stops run stops
          have dropped := dropWhile_of_stops stops
          rw [dropped, wordsOf_cons kind, countAtWordStart, countAtWordStart, kind, nothing,
            outsideCount]
          simp
      | true =>
          have begins : startsWithWord (character :: rest) = true := kind
          have first : wordsOf (character :: rest) =
              (character :: rest).takeWhile isWord :: wordsOf (rest.dropWhile isWord) := by
            rw [wordsOf_of_startsWithWord begins, List.dropWhile_cons_of_pos kind]
          rw [List.dropWhile_cons_of_pos kind, first, countAtWordStart, countAtWordStart, kind,
            insideCount, List.count_cons]
          simp only [isSome_afterWord_iff run, Bool.not_false, Bool.true_and, beq_iff_eq,
            Bool.not_true, Bool.false_and, Bool.false_eq_true, if_false, Nat.zero_add, and_true]
          omega

/-- This counts the phrases that are found one after the other. Each search goes on behind the
phrase that was found last, of which so many characters are still to come. -/
def countInTurn (recognizer : Recognizer) :
    (afterWord : Bool) → (toCome : Nat) → List Char → Nat
  | _, _, [] => 0
  | _, toCome + 1, character :: rest => countInTurn recognizer (isWord character) toCome rest
  | afterWord, 0, character :: rest =>
      match if afterWord then none else recognizer (character :: rest) with
      | some behind =>
          1 + countInTurn recognizer (isWord character) (rest.length - behind.length) rest
      | none => countInTurn recognizer (isWord character) 0 rest

/-- No phrase begins within a word, so that words which are found in turn are found at all their
places. -/
theorem countInTurn_afterWord {word : String} (run : IsWordRun word.toList) {text : List Char}
    {within : Bool} {toCome : Nat} (remains : toCome ≠ 0 → within = true)
    (words : ∀ character ∈ text.take toCome, isWord character = true) :
    countInTurn (afterWord word) within toCome text =
      countAtWordStart (afterWord word) within text := by
  induction text generalizing within toCome with
  | nil => cases toCome <;> rfl
  | cons character rest inductionHypothesis =>
      cases toCome with
      | succ more =>
          rw [List.take_succ_cons, List.forall_mem_cons] at words
          rw [countInTurn, countAtWordStart, remains (by simp),
            inductionHypothesis (fun _ => words.1) words.2]
          simp
      | zero =>
          rw [countInTurn, countAtWordStart]
          cases found : (if within then none else afterWord word (character :: rest)) with
          | none =>
              rw [inductionHypothesis (by simp) (by simp)]
              cases within with
              | true => simp
              | false =>
                  have unrecognised : afterWord word (character :: rest) = none := found
                  simp [unrecognised]
          | some behind =>
              cases within with
              | true => exact absurd found (by simp)
              | false =>
                  have recognised : afterWord word (character :: rest) = some behind := found
                  obtain ⟨others, rfl, first, further⟩ := exists_of_afterWord_cons run recognised
                  have left : (others ++ behind).length - behind.length = others.length := by
                    rw [List.length_append, Nat.add_sub_cancel_right]
                  dsimp only
                  rw [left, inductionHypothesis (fun _ => first) (by simpa using further)]
                  simp [recognised]

end RoutineAtlas
