import ShieldedPool.Bytes

/-!
# Diagnostic text

Values are shown for inspection (`Debug`) as nested constructor applications. `Diagnostic` is the shape of such a text; it is
written on one line, or with every part on an indented line of its own and a comma after each.
-/

namespace ShieldedPool

/-- The shape of a value that `Debug` shows. -/
inductive Diagnostic
  /-- Text that stands as it is. -/
  | text (s : String)
  /-- A name applied to unnamed parts; without a name, the parts alone in parentheses. -/
  | tuple (name : String) (parts : List Diagnostic)
  /-- A name with named parts; when `more` is set, a mark says that further parts are not shown. -/
  | record (name : String) (parts : List (String × Diagnostic)) (more : Bool)
  /-- A list in brackets. -/
  | list (items : List Diagnostic)

namespace Diagnostic

def number (n : Nat) : Diagnostic := .text (toString n)

def bool (b : Bool) : Diagnostic := .text (toString b)

/-- Text in quotes that holds nothing to escape. -/
def quoted (s : String) : Diagnostic := .text ("\"" ++ s ++ "\"")

/-- A name applied to the hexadecimal digits of a byte string (`HexDebug`). -/
def hex (name : String) (bytes : List UInt8) : Diagnostic := .tuple name [quoted (Bytes.hex bytes)]

/-- The bytes of a byte string as a list of numbers. -/
def byteList (bytes : List UInt8) : Diagnostic := .list (bytes.map fun b => number b.toNat)

/-- The digits of a 32-byte string, under the name of its width. -/
def hex32 (bytes : Bytes 32) : Diagnostic := hex "[u8; 32]" bytes.toList

def option {α : Type} (f : α → Diagnostic) : Option α → Diagnostic
  | none => .text "None"
  | some a => .tuple "Some" [f a]

/-! ## On one line -/

/-- Encloses parts that are separated by commas; nothing is enclosed if there are none. -/
def enclose (name opening closing : String) (parts : List String) : String :=
  if parts.isEmpty then name else name ++ opening ++ ", ".intercalate parts ++ closing

mutual

/-- The text on one line. -/
def compact : Diagnostic → String
  | .text s => s
  | .tuple name parts => enclose name "(" ")" (compactAll parts)
  | .record name parts more => enclose name " \x7b " " \x7d" (compactFields parts ++ if more then [".."] else [])
  | .list items => "[" ++ ", ".intercalate (compactAll items) ++ "]"

def compactAll : List Diagnostic → List String
  | [] => []
  | d :: r => compact d :: compactAll r

def compactFields : List (String × Diagnostic) → List String
  | [] => []
  | (name, d) :: r => (name ++ ": " ++ compact d) :: compactFields r

end

/-! ## With one part a line -/

def indentation (depth : Nat) : String := String.ofList (List.replicate (4 * depth) ' ')

/-- Encloses parts that have a line each, one level deeper than the brackets. -/
def encloseLines (depth : Nat) (name opening closing : String) (parts : List String) : String :=
  if parts.isEmpty then name
  else name ++ opening ++ "\n" ++ String.join (parts.map fun p => indentation (depth + 1) ++ p ++ "\n")
    ++ indentation depth ++ closing

mutual

/-- The text with one part a line, for a value that stands `depth` levels deep. -/
def prettyAt (depth : Nat) : Diagnostic → String
  | .text s => s
  | .tuple name parts => encloseLines depth name "(" ")" (prettyAll (depth + 1) parts)
  | .record name parts more =>
    encloseLines depth name " \x7b" "\x7d" (prettyFields (depth + 1) parts ++ if more then [".."] else [])
  | .list [] => "[]"
  | .list (d :: r) => encloseLines depth "" "[" "]" ((prettyAt (depth + 1) d ++ ",") :: prettyAll (depth + 1) r)

def prettyAll (depth : Nat) : List Diagnostic → List String
  | [] => []
  | d :: r => (prettyAt depth d ++ ",") :: prettyAll depth r

def prettyFields (depth : Nat) : List (String × Diagnostic) → List String
  | [] => []
  | (name, d) :: r => (name ++ ": " ++ prettyAt depth d ++ ",") :: prettyFields depth r

end

def pretty (d : Diagnostic) : String := prettyAt 0 d

end Diagnostic

end ShieldedPool
