import RoutineAtlas.Outline.Basic

/-
This file draws a routine with its functions and tables as a flowchart.
-/

namespace RoutineAtlas

/-- A node stands for the routine, for a function or for a table. -/
inductive NodeKind where
  | routine
  | function
  | table
  deriving DecidableEq, Repr

/-- The letter of its kind begins the identifier of a node. -/
def NodeKind.letter : NodeKind → String
  | .routine => "R"
  | .function => "F"
  | .table => "T"

/-- In an identifier an underscore takes the place of whatever is no ASCII letter or digit. -/
def identifierCharacter (character : Char) : Char :=
  if character.isAlphanum then character else '_'

/-- This is the identifier of the node of a kind with a name. -/
def nodeIdentifier (kind : NodeKind) (name : String) : String :=
  kind.letter ++ "_" ++ name.map identifierCharacter

/-- A function is drawn, a class or a method is not. -/
def DeclarationKind.isDrawn : DeclarationKind → Bool
  | .userFunction => true
  | .staticFunction => true
  | .function => true
  | .classDefinition => false
  | .method => false

/-- The routine leads to each function. -/
def functionEdge (routine : String) (declaration : Declaration) : String :=
  "    " ++ nodeIdentifier .routine routine ++ " --> " ++
    nodeIdentifier .function declaration.name ++ "[\"" ++ declaration.name ++ "()\"]\n"

/-- The routine leads to each table by a dotted line. -/
def tableEdge (routine table : String) : String :=
  "    " ++ nodeIdentifier .routine routine ++ " -.-> " ++
    nodeIdentifier .table table ++ "[(\"" ++ table ++ "\")]\n"

/-- The nodes of a flowchart in the order in which they are drawn. -/
def Outline.nodes (outline : Outline) (routine : String) : List (NodeKind × String) :=
  (.routine, routine) ::
    ((outline.declarations.filter (·.kind.isDrawn)).map fun declaration =>
        (.function, declaration.name)) ++
      outline.tables.map fun table => (.table, table)

/-- The flowchart names the routine first, then its functions, then its tables. -/
def Outline.flowchart (outline : Outline) (routine : String) : String :=
  String.join (
    ["flowchart TD\n",
      "    " ++ nodeIdentifier .routine routine ++ "[\"" ++ routine ++ "\"]\n"] ++
    (outline.declarations.filter (·.kind.isDrawn)).map (functionEdge routine) ++
    outline.tables.map (tableEdge routine))

end RoutineAtlas
