/-
This file knows the letters with which the vendor's routine names begin.
-/

namespace RoutineAtlas

/-- The vendor's modules give their routines these first letters. -/
def builtinLeads : List String := [
  "MATA", "MATR", "MATC", "COMA", "ESTA",
  "FINA", "FINR", "FINC", "CTBA", "CTBR", "CTBC", "ATFA", "ATFR", "PCOA",
  "FISA", "FISR",
  "GPEA", "GPER", "GPEM", "PONA", "PONM", "APDA", "CSAA",
  "FATA", "FATR", "CRMA", "TMKA", "LOJA", "LOJR", "OMSA",
  "WMSA", "TMSA", "TECA", "MNTA",
  "QIEA", "QDOA", "CNTA", "EECA", "EICA"]

/-- A text begins with one of the leads. -/
def beginsWithAny (leads : List String) (text : List Char) : Bool :=
  leads.any fun lead => lead.toList.isPrefixOf text

/-- A key is the vendor's by a built-in or by a discovered lead. -/
def beginsWithKnownLead (key : String) (discovered : List String) : Bool :=
  beginsWithAny builtinLeads key.toList || beginsWithAny discovered key.toList

/-- An ASCII letter, large or small. -/
def isLetter (character : Char) : Bool :=
  character.isAlpha

/-- A name has a lead when it begins with at least three letters, of which four count. -/
def leadOf (stem : List Char) : Option String :=
  let letters := (stem.takeWhile isLetter).take 4
  if 3 ≤ letters.length then some (String.ofList (letters.map Char.toUpper)) else none

/-- A lead is three or four capital letters. -/
theorem leadOf_eq_some {stem : List Char} {lead : String} (found : leadOf stem = some lead) :
    3 ≤ lead.toList.length ∧ lead.toList.length ≤ 4 := by
  simp only [leadOf] at found
  split at found
  · rename_i long
    simp only [Option.some.injEq] at found
    subst found
    simp only [String.toList_ofList, List.length_map]
    exact ⟨long, List.length_take_le 4 _⟩
  · simp at found

end RoutineAtlas
