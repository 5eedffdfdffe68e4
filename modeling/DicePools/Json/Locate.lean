import DicePools.Json.Parse
import DicePools.Json.Decode

/-! Turning a decoding complaint into a byte offset, a line and a column of the text. -/

namespace DicePools
namespace Json

/-- The ranges of the value at a path of part positions, outermost first. -/
def Spans.find? : Spans → List Nat → Option Spans
  | sp, [] => some sp
  | .mk _ _ ps, i :: rest => (ps[i]?).bind fun p => p.find? rest

def isBlankByte (b : UInt8) : Bool := b == 32 || b == 9 || b == 10 || b == 13

def skipBlanksFrom (bytes : ByteArray) (i : Nat) : Nat :=
  i + ((bytes.toList.drop i).takeWhile isBlankByte).length

def skipBlanksBefore (bytes : ByteArray) (i : Nat) : Nat :=
  i - ((bytes.toList.take i).reverse.takeWhile isBlankByte).length - 1

/-- The byte offset a complaint points at, in a text read into `top`. -/
def Anchor.offset (bytes : ByteArray) (top : Spans) (a : Anchor) : Nat :=
  match top.find? a.path.reverse with
  | none => 0
  | some sp =>
    match a.spot with
    | .after => sp.stop
    | .before => sp.start
    | .afterKey => skipBlanksBefore bytes sp.start
    | .surfaced =>
      let next := skipBlanksFrom bytes sp.stop
      if bytes[next]? == some 125 || bytes[next]? == some 93 then next + 1 else next

/-- How far a reader going from the start must have read before the complaint arises. -/
def Anchor.reach (bytes : ByteArray) (top : Spans) (a : Anchor) : Nat :=
  match top.find? a.path.reverse with
  | none => bytes.size + 1
  | some sp =>
    match a.spot with
    | .before | .afterKey => sp.start
    | .after | .surfaced => sp.stop

/-- A decoding complaint with its line and column, as `message at line L column C`. -/
def DecodeError.describe (bytes : ByteArray) (top : Spans) (e : DecodeError) : String :=
  let p := positionAt bytes (e.anchor.offset bytes top)
  e.message ++ " at line " ++ toString p.line ++ " column " ++ toString p.column

/-- Reads a text and decodes it, failing with the first complaint a reader going from the start
meets. -/
def decodeText {α : Type} (d : Decoder α) (text : String) : Logged (Except String α) := do
  let bytes := text.toUTF8
  match parseSpans text with
  | .ok (j, top) =>
    match ← (d j []).run with
    | .ok v => pure (.ok v)
    | .error e => pure (.error (e.describe bytes top))
  | .error pe =>
    match pe.readSoFar with
    | none => pure (.error (pe.describe text))
    | some (j, top) =>
      match ← (d j []).run with
      | .error e =>
        let reach := e.anchor.reach bytes top
        if reach < pe.offset || (pe.offset = bytes.size && reach ≤ pe.offset) then
          pure (.error (e.describe bytes top))
        else pure (.error (pe.describe text))
      | .ok _ => pure (.error (pe.describe text))

end Json
end DicePools
