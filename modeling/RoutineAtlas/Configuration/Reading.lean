import RoutineAtlas.Configuration.Basic
import RoutineAtlas.Fault
import RoutineAtlas.Files.Tree
import RoutineAtlas.Yaml.Node

/-
This file reads the configuration from a YAML document. Unknown keys are passed over, a known key
comes once at most, and what is not given keeps its usual value.
-/

namespace RoutineAtlas

/-- The numbers of a configuration have 64 bits. -/
def numberLimit : Nat := 18446744073709551616

/-- This is the value of a digit in bases up to sixteen. -/
def digitValue (base : Nat) (digit : Char) : Option Nat :=
  (hexadecimalValue digit).filter (· < base)

/-- Digits are read in a base, there is at least one, and the number has 64 bits. -/
def readDigits (base : Nat) (digits : List Char) : Option Nat :=
  if digits.isEmpty then none
  else
    (digits.foldlM (fun value digit =>
      (digitValue base digit).map fun unit => base * value + unit) 0).filter (· < numberLimit)

/-- A count is written in base ten, and it may be signed with a plus. -/
def readCount (text : List Char) : Option Nat :=
  readDigits 10 (if text.head? = some '+' then text.drop 1 else text)

/-- A number may be signed with a plus and written in base sixteen, eight, two or ten. In base ten
it has no needless zero in front. -/
def readUnsigned (text : List Char) : Option Nat :=
  let unsigned := if text.head? = some '+' then text.drop 1 else text
  match unsigned with
  | '0' :: 'x' :: digits => readDigits 16 digits
  | '0' :: 'o' :: digits => readDigits 8 digits
  | '0' :: 'b' :: digits => readDigits 2 digits
  | '0' :: _ :: _ => none
  | digits => readDigits 10 digits

/-- This tag marks a scalar that stands for nothing. -/
def nullTag : String := "tag:yaml.org,2002:null"

/-- This tag marks a scalar that is a number. -/
def integerTag : String := "tag:yaml.org,2002:int"

/-- These scalars stand for nothing. -/
def isNullText (text : String) : Bool :=
  ["null", "Null", "NULL", "~"].contains text

/-- A limit is a plain scalar, or a literal block that is tagged as a number. -/
def YamlDocument.limit? (document : YamlDocument) (node : YamlNode) : Option Nat :=
  match document.meaning node with
  | .scalar text .plain _ => readUnsigned text.toList
  | .scalar text .literal (some tag) => if tag = integerTag then readUnsigned text.toList else none
  | _ => none

/-- A root is any scalar, and an empty or a null one is no root. -/
def YamlDocument.root? (document : YamlDocument) (node : YamlNode) : Option (Option PathName) :=
  match document.meaning node with
  | .scalar text .plain none =>
      if text = "" || isNullText text then some none else some (some text)
  | .scalar text .plain (some tag) =>
      if tag = nullTag then (if isNullText text then some none else none) else some (some text)
  | .scalar text _ _ => some (some text)
  | _ => none

/-- The key of an entry is the text of a scalar. -/
def YamlDocument.keyText? (document : YamlDocument) (node : YamlNode) : Option String :=
  match document.meaning node with
  | .scalar text _ _ => some text
  | _ => none

/-- A record is a mapping with scalar keys, and an empty plain scalar is an empty record. -/
def YamlDocument.record? (document : YamlDocument) (node : YamlNode) :
    Option (List (String × YamlNode)) :=
  match document.meaning node with
  | .mapping entries =>
      entries.mapM fun (key, value) => (document.keyText? key).map fun text => (text, value)
  | .scalar text .plain _ => if text = "" then some [] else none
  | _ => none

/-- A field is read once at most, and an absent field keeps its usual value. -/
def readField {A : Type} (read : YamlNode → Option A) (usual : A) (name : String)
    (fields : List (String × YamlNode)) : Option A :=
  match fields.filter fun field => field.1 == name with
  | [] => some usual
  | [(_, value)] => read value
  | _ :: _ :: _ => none

/-- The roots are read from a record. -/
def Roots.ofNode (document : YamlDocument) (node : YamlNode) : Option Roots := do
  let fields ← document.record? node
  pure {
    staging := ← readField document.root? none "staging" fields
    production := ← readField document.root? none "production" fields
    standard := ← readField document.root? none "standard" fields }

/-- The limits are read from a record. -/
def SearchLimits.ofNode (document : YamlDocument) (node : YamlNode) : Option SearchLimits := do
  let fields ← document.record? node
  let usual := SearchLimits.usual
  pure {
    maxResults := ← readField document.limit? usual.maxResults "max-results" fields
    routineDepth := ← readField document.limit? usual.routineDepth "routine-depth" fields
    tableDepth := ← readField document.limit? usual.tableDepth "table-depth" fields
    discoveryDepth := ← readField document.limit? usual.discoveryDepth "discovery-depth" fields }

/-- The configuration is read from a record of two records. -/
def Configuration.ofDocument (document : YamlDocument) : Option Configuration := do
  let fields ← document.record? document.root
  pure {
    roots := ← readField (Roots.ofNode document) .unset "roots" fields
    search := ← readField (SearchLimits.ofNode document) .usual "search" fields }

/-- An empty document is the usual configuration. -/
def Configuration.ofText (text : String) : Option Configuration := do
  match ← YamlStream.read text with
  | .empty => pure .usual
  | .document content => Configuration.ofDocument content

/-- A configuration file is UTF-8 text and an acceptable document. -/
def Configuration.ofFile (tree : FileTree) (path : PathName) : Except Fault Configuration :=
  match tree.read path with
  | .error fault => .error (.access fault)
  | .ok content =>
      match readUtf8 content with
      | none => .error (.access .notUtf8)
      | some text =>
          match Configuration.ofText text with
          | some configuration => .ok configuration
          | none => .error (.configuration (.unacceptableDocument path))

end RoutineAtlas
