import DicePools.Text.Split

/-! Bordered ASCII text tables, with widths counted in terminal columns. -/

namespace DicePools
namespace Text

/-- Characters that take no column: combining marks, zero-width spaces and joiners, and
variation selectors. -/
def isZeroWidth (c : Char) : Bool :=
  let n := c.toNat
  (0x0300 ≤ n && n ≤ 0x036F) || (0x0483 ≤ n && n ≤ 0x0489) || (0x0591 ≤ n && n ≤ 0x05BD) ||
  (0x0610 ≤ n && n ≤ 0x061A) || (0x064B ≤ n && n ≤ 0x065F) || (0x1AB0 ≤ n && n ≤ 0x1AFF) ||
  (0x1DC0 ≤ n && n ≤ 0x1DFF) || (0x200B ≤ n && n ≤ 0x200F) || (0x20D0 ≤ n && n ≤ 0x20FF) ||
  (0xFE00 ≤ n && n ≤ 0xFE0F) || (0xFE20 ≤ n && n ≤ 0xFE2F) || n = 0x00AD

/-- Characters that take two columns: wide and full-width East Asian characters and the
pictographs drawn as emoji. -/
def isWide (c : Char) : Bool :=
  let n := c.toNat
  (0x1100 ≤ n && n ≤ 0x115F) || (0x2E80 ≤ n && n ≤ 0x303E) || (0x3041 ≤ n && n ≤ 0x33FF) ||
  (0x3400 ≤ n && n ≤ 0x4DBF) || (0x4E00 ≤ n && n ≤ 0x9FFF) || (0xA000 ≤ n && n ≤ 0xA4CF) ||
  (0xAC00 ≤ n && n ≤ 0xD7A3) || (0xF900 ≤ n && n ≤ 0xFAFF) || (0xFE30 ≤ n && n ≤ 0xFE4F) ||
  (0xFF00 ≤ n && n ≤ 0xFF60) || (0xFFE0 ≤ n && n ≤ 0xFFE6) || (0x1F300 ≤ n && n ≤ 0x1F64F) ||
  (0x1F900 ≤ n && n ≤ 0x1F9FF) || (0x20000 ≤ n && n ≤ 0x3FFFD)

def width (s : String) : Nat :=
  s.toList.foldl (fun w c => w + if isZeroWidth c then 0 else if isWide c then 2 else 1) 0

def padTo (w : Nat) (s : String) : String :=
  s ++ String.ofList (List.replicate (w - width s) ' ')

end Text

/-- A table: a header row and body rows of cells. -/
structure Table where
  header : List String
  rows : List (List String)
  deriving Inhabited

namespace Table

def cellLines (s : String) : List String := Text.splitAll s '\n'

/-- The width of each column: its widest line of text, header included. -/
def widths (t : Table) : List Nat :=
  (t.header.zipIdx).map fun (h, i) =>
    (t.rows.map fun r => ((cellLines (r.getD i "")).map Text.width).foldl max 0).foldl max
      ((cellLines h).map Text.width |>.foldl max 0)

def rule (ws : List Nat) (edge cross fill : Char) : String :=
  String.ofList ([edge] ++ List.intercalate [cross] (ws.map fun w => List.replicate (w + 2) fill) ++ [edge])

/-- The text lines of a row, as tall as its tallest cell. -/
def rowLines (ws : List Nat) (cells : List String) : List String :=
  let parts := (ws.zipIdx).map fun (_, i) => cellLines (cells.getD i "")
  let height := parts.foldl (fun h p => max h p.length) 1
  (List.range height).map fun k =>
    "|" ++ String.join ((ws.zip parts).map fun (w, p) => " " ++ Text.padTo w (p.getD k "") ++ " |")

/-- The table drawn as text, one line per entry. -/
def render (t : Table) : List String :=
  let ws := t.widths
  let body := List.intercalate [rule ws '|' '+' '-'] (t.rows.map (rowLines ws))
  [rule ws '+' '+' '-'] ++ rowLines ws t.header ++ [rule ws '+' '=' '='] ++ body ++ [rule ws '+' '+' '-']

end Table

end DicePools
