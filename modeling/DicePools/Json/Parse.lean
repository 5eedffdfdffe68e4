import DicePools.Json.Basic
import DicePools.Decimal.Read

/-! Reading JSON text into a value, recording the byte range of every value for later
complaints. -/

namespace DicePools
namespace Json

/-- The byte ranges of a value and of its parts, in the order written. -/
inductive Spans where
  | mk (start stop : Nat) (parts : List Spans)
  deriving Inhabited

def Spans.start : Spans → Nat
  | .mk s _ _ => s

def Spans.stop : Spans → Nat
  | .mk _ e _ => e

def Spans.parts : Spans → List Spans
  | .mk _ _ ps => ps

/-- A line and a column of a text. -/
structure Position where
  line : Nat
  column : Nat
  deriving DecidableEq, Repr

/-- The line and column after reading `i` bytes. -/
def positionAt (bytes : ByteArray) (i : Nat) : Position :=
  let before := (bytes.toList.take i)
  let lineStart := match before.reverse.findIdx? (· == 10) with
    | some k => i - k
    | none => 0
  ⟨1 + ((before.take lineStart).filter (· == 10)).length, i - lineStart⟩

/-- A complaint about a text, with the byte offset it points after and the value read before it. -/
structure ParseError where
  message : String
  offset : Nat
  readSoFar : Option (Json × Spans) := none
  deriving Inhabited

/-- The complaint, with the container it interrupts around what it read so far. -/
def ParseError.within (e : ParseError) (wrap : List Json → List Spans → Json × Spans) : ParseError :=
  match e.readSoFar with
  | some (j, sp) => { e with readSoFar := some (wrap [j] [sp]) }
  | none => { e with readSoFar := some (wrap [] []) }

/-- The reading state: the bytes and how many of them are read. -/
structure Reader where
  bytes : ByteArray
  pos : Nat

namespace Reader

def peek? (r : Reader) : Option UInt8 := r.bytes[r.pos]?

def next (r : Reader) : Reader := { r with pos := r.pos + 1 }

def fail {α : Type} (r : Reader) (message : String) : Except ParseError α :=
  .error ⟨message, r.pos, none⟩

def failNext {α : Type} (r : Reader) (message : String) : Except ParseError α :=
  .error ⟨message, min (r.pos + 1) r.bytes.size, none⟩

def skipBlank (r : Reader) : Reader :=
  let rec go (fuel : Nat) (r : Reader) : Reader :=
    match fuel with
    | 0 => r
    | fuel + 1 =>
      match r.peek? with
      | some b => if b == 32 || b == 9 || b == 10 || b == 13 then go fuel r.next else r
      | none => r
  go (r.bytes.size + 1) r

end Reader

/-- Reads the rest of a word such as `rue` after `t`. -/
def readWord (r : Reader) (rest : List UInt8) : Except ParseError Reader :=
  rest.foldlM (fun r b =>
    match r.peek? with
    | some c => if c == b then pure r.next else r.next.fail "expected ident"
    | none => r.fail "EOF while parsing a value") r

def isDigitByte (b : UInt8) : Bool := 48 ≤ b && b ≤ 57

def readDigits (r : Reader) : Reader × List Char :=
  let rec go (fuel : Nat) (r : Reader) (acc : List Char) : Reader × List Char :=
    match fuel with
    | 0 => (r, acc.reverse)
    | fuel + 1 =>
      match r.peek? with
      | some b => if isDigitByte b then go fuel r.next (Char.ofNat b.toNat :: acc) else (r, acc.reverse)
      | none => (r, acc.reverse)
  go (r.bytes.size + 1) r []

/-- Reads a number; the sign is already read when `negative`. Digits past 64 bits only scale the
value. -/
def readNumber (r : Reader) (negative : Bool) : Except ParseError (Number × Reader) := do
  let (r, whole) ← match r.peek? with
    | some 48 =>
      let r := r.next
      match r.peek? with
      | some b => if isDigitByte b then r.failNext "invalid number" else pure (r, ['0'])
      | none => pure (r, ['0'])
    | some b =>
      if isDigitByte b then pure (readDigits r)
      else if negative then r.next.fail "invalid number" else r.failNext "invalid number"
    | none => if negative then r.fail "EOF while parsing a value" else r.failNext "invalid number"
  let (sig, kept) := Decimal.keepDigits 0 whole
  let long := kept < whole.length
  let (r, sig, exp, isFloat) ← match r.peek? with
    | some 46 =>
      let r := r.next
      let (r', ds) := readDigits r
      if ds.isEmpty then
        match r.peek? with
        | some _ => r.failNext "invalid number"
        | none => r.failNext "EOF while parsing a value"
      else
        let (sig', kept') := Decimal.keepDigits sig ds
        pure (r', sig', ((whole.length - kept : Nat) : Int) - kept', true)
    | _ => pure (r, sig, ((whole.length - kept : Nat) : Int), long)
  -- the exponent; `none` stands for a power so far down that the value is zero
  let (r, power, isFloat) ← match r.peek? with
    | some b =>
      if b == 101 || b == 69 then
        let r := r.next
        let (r, expNegative) := match r.peek? with
          | some 43 => (r.next, false)
          | some 45 => (r.next, true)
          | _ => (r, false)
        match r.peek? with
        | some d =>
          if isDigitByte d then
            let (r', ds) := readDigits r
            match Decimal.boundedRun 2147483647 ds with
            | .ok v => pure (r', some (if expNegative then exp - v else exp + v), true)
            | .error n =>
              if sig ≠ 0 && !expNegative then ({ r with pos := r.pos + n } : Reader).fail "number out of range"
              else pure (r', none, true)
          else r.next.fail "invalid number"
        | none => r.fail "EOF while parsing a value"
      else pure (r, some exp, isFloat)
    | none => pure (r, some exp, isFloat)
  let signed (f : Float) : Float := if negative then -f else f
  if !isFloat then pure (integral negative sig, r)
  else match power with
    | none => pure (.float (signed 0), r)
    | some p =>
      match Decimal.scaleByTen (Float.ofNat sig) p with
      | some f => pure (.float (signed f), r)
      | none => r.fail "number out of range"
where
  /-- An integer below `2 ^ 64` in its class: a negative one below `-2 ^ 63`, and minus zero,
  are floats. -/
  integral (negative : Bool) (sig : Nat) : Number :=
    if !negative then .nat sig
    else if sig = 0 then .float (-0)
    else if sig ≤ Nat.pow 2 63 then .neg (-(sig : Int))
    else .float (-(Float.ofNat sig))

/-- The value of a hex digit. -/
def hexValue? (b : UInt8) : Option Nat :=
  if 48 ≤ b && b ≤ 57 then some (b.toNat - 48)
  else if 97 ≤ b && b ≤ 102 then some (b.toNat - 87)
  else if 65 ≤ b && b ≤ 70 then some (b.toNat - 55)
  else none

/-- Reads four hex digits of a `\u` escape. -/
def readHex4 (r : Reader) : Except ParseError (Nat × Reader) :=
  if r.pos + 4 > r.bytes.size then .error ⟨"EOF while parsing a string", r.bytes.size, none⟩
  else
    [0, 1, 2, 3].foldlM (fun (acc, r) _ =>
      match r.peek?.bind hexValue? with
      | some v => pure (16 * acc + v, r.next)
      | none => r.next.fail "invalid escape") (0, r)

def utf8Bytes (c : Char) : List UInt8 := (String.singleton c).toUTF8.toList

/-- Reads the body of a string after its opening quote, up to and including the closing quote. -/
def readString (r : Reader) : Except ParseError (String × Reader) :=
  let rec go (fuel : Nat) (r : Reader) (acc : Array UInt8) : Except ParseError (String × Reader) :=
    match fuel with
    | 0 => r.fail "EOF while parsing a string"
    | fuel + 1 =>
      match r.peek? with
      | none => r.fail "EOF while parsing a string"
      | some 34 =>
        match String.fromUTF8? (ByteArray.mk acc) with
        | some s => pure (s, r.next)
        | none => r.next.fail "invalid unicode code point"
      | some 92 =>
        let r := r.next
        match r.peek? with
        | none => r.fail "EOF while parsing a string"
        | some e =>
          let simple : Option UInt8 := match e with
            | 34 => some 34 | 92 => some 92 | 47 => some 47 | 98 => some 8 | 102 => some 12
            | 110 => some 10 | 114 => some 13 | 116 => some 9 | _ => none
          match simple with
          | some b => go fuel r.next (acc.push b)
          | none =>
            if e != 117 then r.next.fail "invalid escape"
            else do
              let (n, r) ← readHex4 r.next
              if 0xD800 ≤ n ∧ n ≤ 0xDBFF then
                match r.peek?, r.bytes[r.pos + 1]? with
                | some 92, some 117 =>
                  let (n2, r) ← readHex4 r.next.next
                  if 0xDC00 ≤ n2 ∧ n2 ≤ 0xDFFF then
                    let c := Char.ofNat (0x10000 + (n - 0xD800) * 0x400 + (n2 - 0xDC00))
                    go fuel r (acc ++ (utf8Bytes c).toArray)
                  else r.fail "lone leading surrogate in hex escape"
                | none, _ => r.fail "EOF while parsing a string"
                | _, _ => r.next.fail "unexpected end of hex escape"
              else if 0xDC00 ≤ n ∧ n ≤ 0xDFFF then r.fail "lone leading surrogate in hex escape"
              else go fuel r (acc ++ (utf8Bytes (Char.ofNat n)).toArray)
      | some b =>
        if b < 0x20 then r.next.fail "control character (\\u0000-\\u001F) found while parsing a string"
        else go fuel r.next (acc.push b)
  go (r.bytes.size + 1) r #[]

/-- Reads one value after blanks, with its byte range; `depth` is the nesting left. -/
def readValue (fuel depth : Nat) (r : Reader) : Except ParseError (Json × Spans × Reader) :=
  match fuel with
  | 0 => r.failNext "recursion limit exceeded"
  | fuel + 1 =>
    let r := r.skipBlank
    let start := r.pos
    match r.peek? with
    | none => r.failNext "EOF while parsing a value"
    | some b =>
      if b == 110 then do
        let r ← readWord r.next [117, 108, 108]
        pure (null, .mk start r.pos [], r)
      else if b == 116 then do
        let r ← readWord r.next [114, 117, 101]
        pure (bool true, .mk start r.pos [], r)
      else if b == 102 then do
        let r ← readWord r.next [97, 108, 115, 101]
        pure (bool false, .mk start r.pos [], r)
      else if b == 45 then do
        let (n, r) ← readNumber r.next true
        pure (num n, .mk start r.pos [], r)
      else if isDigitByte b then do
        let (n, r) ← readNumber r false
        pure (num n, .mk start r.pos [], r)
      else if b == 34 then do
        let (s, r) ← readString r.next
        pure (str s, .mk start r.pos [], r)
      else if b == 91 then
        if depth ≤ 1 then r.failNext "recursion limit exceeded" else
        readItems fuel (depth - 1) start r.next [] [] true
      else if b == 123 then
        if depth ≤ 1 then r.failNext "recursion limit exceeded" else
        readMembers fuel (depth - 1) start r.next [] [] true
      else r.failNext "expected value"
where
  /-- The items of an array after its opening bracket. -/
  readItems (fuel depth start : Nat) (r : Reader) (items : List Json) (spans : List Spans)
      (first : Bool) : Except ParseError (Json × Spans × Reader) :=
    let unfinished (more : List Json) (moreSpans : List Spans) : Json × Spans :=
      (arr (items.reverse ++ more), .mk start (r.bytes.size + 1) (spans.reverse ++ moreSpans))
    match fuel with
    | 0 => r.failNext "recursion limit exceeded"
    | fuel + 1 =>
      let r := r.skipBlank
      match r.peek? with
      | some 93 =>
        if first then pure (arr [], .mk start (r.pos + 1) [], r.next)
        else pure (arr items.reverse, .mk start (r.pos + 1) spans.reverse, r.next)
      | none => .error ((ParseError.mk "EOF while parsing a list" (min (r.pos + 1) r.bytes.size) none).within unfinished)
      | some b =>
        let after : Except ParseError Reader :=
          if first then pure r
          else if b == 44 then pure r.next.skipBlank
          else r.failNext "expected `,` or `]`"
        match after with
        | .error e => .error (e.within unfinished)
        | .ok r =>
          match r.peek? with
          | some 93 => .error ((ParseError.mk "trailing comma" (min (r.pos + 1) r.bytes.size) none).within unfinished)
          | none => .error ((ParseError.mk "EOF while parsing a value" (min (r.pos + 1) r.bytes.size) none).within unfinished)
          | some _ =>
            match readValue fuel depth r with
            | .error e => .error (e.within unfinished)
            | .ok (v, sp, r) => readItems fuel depth start r (v :: items) (sp :: spans) false
  /-- The members of an object after its opening brace. -/
  readMembers (fuel depth start : Nat) (r : Reader) (members : List (String × Json))
      (spans : List Spans) (first : Bool) : Except ParseError (Json × Spans × Reader) :=
    let unfinished (key : String) (more : List Json) (moreSpans : List Spans) : Json × Spans :=
      (obj (members.reverse ++ more.map (key, ·)), .mk start (r.bytes.size + 1) (spans.reverse ++ moreSpans))
    match fuel with
    | 0 => r.failNext "recursion limit exceeded"
    | fuel + 1 =>
      let r := r.skipBlank
      match r.peek? with
      | some 125 =>
        if first then pure (obj [], .mk start (r.pos + 1) [], r.next)
        else pure (obj members.reverse, .mk start (r.pos + 1) spans.reverse, r.next)
      | none => .error ((ParseError.mk "EOF while parsing an object" (min (r.pos + 1) r.bytes.size) none).within (unfinished ""))
      | some b =>
        let after : Except ParseError Reader :=
          if first then pure r
          else if b == 44 then pure r.next.skipBlank
          else r.failNext "expected `,` or `\x7d`"
        match after with
        | .error e => .error (e.within (unfinished ""))
        | .ok r =>
          let stop (message : String) : Except ParseError (Json × Spans × Reader) :=
            .error ((ParseError.mk message (min (r.pos + 1) r.bytes.size) none).within (unfinished ""))
          match r.peek? with
          | some 34 =>
            match readString r.next with
            | .error e => .error (e.within (unfinished ""))
            | .ok (k, r) =>
              let r := r.skipBlank
              let stopHere (message : String) : Except ParseError (Json × Spans × Reader) :=
                .error ((ParseError.mk message (min (r.pos + 1) r.bytes.size) none).within (unfinished ""))
              match r.peek? with
              | some 58 =>
                match readValue fuel depth r.next with
                | .error e => .error (e.within (unfinished k))
                | .ok (v, sp, r) => readMembers fuel depth start r ((k, v) :: members) (sp :: spans) false
              | some _ => stopHere "expected `:`"
              | none => stopHere "EOF while parsing an object"
          | some 125 => stop "trailing comma"
          | some _ => stop "key must be a string"
          | none => stop "EOF while parsing a value"

/-- Reads a whole text as one value with its byte ranges; only blanks may follow it. -/
def parseSpans (text : String) : Except ParseError (Json × Spans) := do
  let bytes := text.toUTF8
  let (v, sp, r) ← readValue (bytes.size + 2) 128 ⟨bytes, 0⟩
  let r := r.skipBlank
  match r.peek? with
  | none => pure (v, sp)
  | some _ => .error ⟨"trailing characters", min (r.pos + 1) r.bytes.size, some (v, sp)⟩

def parse (text : String) : Except ParseError Json := (parseSpans text).map (·.1)

/-- A complaint with its line and column, as `message at line L column C`. -/
def ParseError.describe (text : String) (e : ParseError) : String :=
  let p := positionAt text.toUTF8 e.offset
  e.message ++ " at line " ++ toString p.line ++ " column " ++ toString p.column

end Json
end DicePools
