import ShieldedPool.Diagnostic
import ShieldedPool.Text.Quoted

/-!
# Memos

Every note carries 512 bytes for its recipient. A shorter memo is filled up with zeros; a lone `0xf6` followed by zeros says
that there is none.
-/

namespace ShieldedPool

/-- What a note carries for its recipient (`Memo`). -/
structure Memo where
  bytes : Bytes 512
deriving DecidableEq

namespace Memo

/-- The message for a memo of more than 512 bytes. -/
def tooLongMessage : String := "Memos have a max length of 512 bytes."

/-- The memo that says there is none (`Memo::default`). -/
def none : Memo := ⟨(Bytes.zero 512).modify 0 fun _ => 0xf6⟩

instance : Inhabited Memo := ⟨none⟩

/-- Fills up to 512 bytes with zeros, unless there are more already (`Memo::try_from`). -/
def ofList? (l : List UInt8) : Option Memo :=
  if l.length ≤ 512 then some ⟨Bytes.ofPadded 512 l⟩ else Option.none

/-- Whether there is no memo (`Memo::is_empty`). -/
def isNone (m : Memo) : Bool := m == none

/-- The memo as text without trailing zeros if it is valid UTF-8, and as hexadecimal digits if it is not (`Debug`). -/
def shown (m : Memo) : String :=
  if m.isNone then "(no memo)"
  else match String.fromUTF8? ⟨m.bytes.toArray⟩ with
    | some text => String.ofList (text.toList.reverse.dropWhile (· == '\x00')).reverse
    | Option.none => Bytes.hex m.bytes.toList

def diagnostic (m : Memo) : Diagnostic := .tuple "Memo" [.text (Quoted.ofText m.shown)]

end Memo

end ShieldedPool
