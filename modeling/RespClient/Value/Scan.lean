import RespClient.Decode.Scalar

/-!
# Pages of a scan

An incremental scan answers with pages. Each carries the cursor that asks for the next
one; the cursor zero ends the scan.
-/

namespace RespClient

/-- One page of a scan. -/
structure ScanPage (α : Type) where
  cursor : Nat64Value
  items : α
  deriving DecidableEq

/-- Is it the last page? -/
def ScanPage.isFinished {α : Type} (page : ScanPage α) : Bool := page.cursor.val = 0

/-- The cursor that the octets spell. -/
def cursorOfOctets (octets : Bytes) : Except Error Nat64Value :=
  if octets.isEmpty then .error (.malformed .emptyCursor)
  else
    match (Utf8.decode? octets).bind (Decimal.read? .nat64) with
    | some cursor => .ok cursor
    | none => .error (.malformed (.badCursor (Utf8.lossyString octets)))

/-- A page is an array of the cursor and the items. -/
def Decoder.scanPage {α : Type} (revision : Revision) (d : Decoder α) : Decoder (ScanPage α) :=
  ofReply fun reply => do
    let (cursor, items) ← twoItems .scanPage reply
    let cursor ← cursorOfOctets (← readText revision cursor)
    let items ← d.reply items
    .ok ⟨cursor, items⟩

end RespClient
