import EventMachine.Json.Document
import EventMachine.Yaml.Block
import EventMachine.Yaml.Quoted
import EventMachine.Yaml.Scalar

/-!
# Writing documents

Documents are written in block style: two spaces of indentation for a mapping inside a mapping, and
the dashes of a list as far in as its key.  Text is plain unless it would be read as something else
and single-quoted if it cannot be plain; text with line feeds is a literal block; and where none of
these can hold it, it is double-quoted.
-/

namespace EventMachine.Yaml

open EventMachine.Json

/-! ## Styles -/

inductive TextStyle
  | plain
  | single
  | double
  | literal
  deriving DecidableEq, Repr

def hasPair (p q : Char → Bool) : List Char → Bool
  | [] => false
  | c :: cs => (p c && cs.head?.any q) || hasPair p q cs

/-- Whether text can stand between double quotes only. -/
def isDelicate (cs : List Char) : Bool :=
  cs.any (!isVisible ·) || hasPair (· = ' ') isBreak cs

def isIndicator (c : Char) : Bool :=
  c ∈ ['{', '}', '[', ']', ',', '#', '&', '*', '!', '|', '>', '%', '@', '\x60', '"', '\'']

/-- A dash, colon or question mark that stands alone. -/
def isLoneMark : List Char → Bool
  | c :: cs => (c = '-' || c = ':' || c = '?') && cs.head?.all isBlank
  | [] => false

def hasKeyColon : List Char → Bool
  | [] => false
  | c :: cs => (c = ':' && cs.head?.all isBlank) || hasKeyColon cs

/-- Whether marks of the format, or white space at an end, keep text from being plain. -/
def needsQuotes (cs : List Char) : Bool :=
  cs.head?.any (fun c ↦ isIndicator c || c = ' ') || isLoneMark cs || hasKeyColon cs ||
    hasPair isBlank (· = '#') cs || cs.getLast? = some ' ' || cs.any isBreak ||
    ['-', '-', '-'].isPrefixOf cs || ['.', '.', '.'].isPrefixOf cs

def TextStyle.of (s : String) : TextStyle :=
  let cs := s.toList
  if '\n' ∈ cs then
    if isDelicate cs || cs.getLast? = some ' ' then .double else .literal
  else if isDelicate cs || hasPair isBreak (· = ' ') cs then .double
  else if looksOtherwise s || needsQuotes cs then .single
  else .plain

/-! ## Text -/

def literalMarks (cs : List Char) : String :=
  let depth := if cs.head?.any fun c ↦ c = ' ' || isBreak c then "2" else ""
  let chomping : Chomping :=
    if !cs.getLast?.any isBreak then .strip
    else if cs.dropLast.getLast?.all isBreak then .keep
    else .clip
  "|" ++ depth ++ chomping.mark

/-- The lines of a literal block; those that hold something are indented. -/
def literalBody (indent : Nat) (afterBreak : Bool) : List Char → List Char
  | [] => []
  | c :: cs =>
    (if afterBreak && !isBreak c then spaces indent else []) ++
      c :: literalBody indent (isBreak c) cs

def writeText (indent : Nat) (s : String) : String :=
  match TextStyle.of s with
  | .plain => s
  | .single => writeSingleQuoted indent s
  | .double => writeDoubleQuoted s
  | .literal => literalMarks s.toList ++ "\n" ++ String.ofList (literalBody indent true s.toList)

def writeKey (s : String) : String :=
  match TextStyle.of s with
  | .plain => s
  | .single => writeSingleQuoted 0 s
  | .double | .literal => writeDoubleQuoted s

def endLine (s : String) : String :=
  if s.toList.getLast?.any isBreak then s else s ++ "\n"

/-! ## Documents -/

def writeScalar (indent : Nat) : Json.Document → String
  | .null => "null"
  | .flag b => if b then "true" else "false"
  | .number n => String.ofList (Json.Document.numberText n)
  | .text s => writeText indent s
  | .list _ => "[]"
  | .object _ => "\x7b\x7d"

def pad (indent : Nat) : String := String.ofList (spaces indent)

mutual

/-- A document after the dash that ends `lead`; its own lines stand at `indent`. -/
def writeItem (lead : String) (indent : Nat) : Json.Document → String
  | .list (d :: ds) => writeItem (lead ++ "- ") (indent + 2) d ++ writeItems indent ds
  | .object ((k, d) :: ms) => writeMember lead indent k d ++ writeMembers indent ms
  | d => lead ++ endLine (writeScalar indent d)

def writeMember (lead : String) (indent : Nat) (k : String) : Json.Document → String
  | .list (d :: ds) => lead ++ writeKey k ++ ":\n" ++ writeItems indent (d :: ds)
  | .object (m :: ms) => lead ++ writeKey k ++ ":\n" ++ writeMembers (indent + 2) (m :: ms)
  | d => lead ++ writeKey k ++ ": " ++ endLine (writeScalar (indent + 2) d)

def writeItems (indent : Nat) : List Json.Document → String
  | [] => ""
  | d :: ds => writeItem (pad indent ++ "- ") (indent + 2) d ++ writeItems indent ds

def writeMembers (indent : Nat) : List (String × Json.Document) → String
  | [] => ""
  | (k, d) :: ms => writeMember (pad indent) indent k d ++ writeMembers indent ms

end

def write : Json.Document → String
  | .list (d :: ds) => writeItems 0 (d :: ds)
  | .object (m :: ms) => writeMembers 0 (m :: ms)
  | d => endLine (writeScalar 0 d)

end EventMachine.Yaml
