import RoutineAtlas.Outline.Declaration
import RoutineAtlas.Outline.TableNames
import RoutineAtlas.Text.Lines

/-
This file outlines a source: what it declares, includes and documents, and the tables it touches.
-/

namespace RoutineAtlas

/-- An outline lists its finds in the order of the lines, and its tables in ascending order. -/
structure Outline where
  lines : Nat
  documentationBlocks : Nat
  includes : List String
  declarations : List Declaration
  tables : List String
  deriving DecidableEq, Repr

/-- A line documents, includes, declares, or does none of these. -/
inductive LineKind where
  | documentation
  | header (name : String)
  | declaration (kind : DeclarationKind) (name : String)
  | other
  deriving DecidableEq, Repr

/-- Documentation comes before an inclusion, and an inclusion before a declaration. -/
def LineKind.of (line : List Char) : LineKind :=
  if isDocumentation line then .documentation
  else match includeOf line with
    | some name => .header name
    | none => match declarationOf line with
      | some (kind, name) => .declaration kind name
      | none => .other

/-- The declarations are numbered from the given line on. -/
def declarationsFrom : (number : Nat) → (documented : Bool) → List LineKind → List Declaration
  | _, _, [] => []
  | number, documented, line :: rest =>
      match line with
      | .documentation => declarationsFrom (number + 1) true rest
      | .declaration kind name =>
          { kind, name, line := number, documented } :: declarationsFrom (number + 1) false rest
      | .header _ => declarationsFrom (number + 1) documented rest
      | .other => declarationsFrom (number + 1) documented rest

/-- This is the header of an inclusion. -/
def LineKind.header? : LineKind → Option String
  | .header name => some name
  | _ => none

/-- A declaration is documented when a mark stands between it and the declaration before. -/
def Outline.of (content : String) : Outline :=
  let lines := (textLines content.toList).map LineKind.of
  { lines := lines.length
    documentationBlocks := lines.count .documentation
    includes := lines.filterMap LineKind.header?
    declarations := declarationsFrom 1 false lines
    tables := tablesOf content }

/-- These are the names of one kind, in the order of the lines. -/
def Outline.names (outline : Outline) (kind : DeclarationKind) : List String :=
  (outline.declarations.filter fun declaration => declaration.kind == kind).map
    Declaration.name

/-- A method needs no documentation of its own. -/
def Outline.undocumented (outline : Outline) : List Declaration :=
  outline.declarations.filter fun declaration =>
    declaration.kind != .method && !declaration.documented

end RoutineAtlas
