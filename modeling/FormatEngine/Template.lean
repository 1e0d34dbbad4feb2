import FormatEngine.Directive
import FormatEngine.Config
import FormatEngine.Room
import FormatEngine.Cursor
/-!
# Templates and their rendering plan

A template is its bytes before the first NUL, read as a sequence of pieces: a run of literal
bytes, a directive, or a `%` whose directive never ends (the template ends inside it).

Rendering a template with arguments gives a `Plan`: the writes that go to the sink, in order,
and the error that ends the call early, if any. A literal run is one write; `%%` and an unknown
conversion write the `%` and the byte and take no argument; every other directive takes the
next argument, converts it in the scratch room, and lays it out as a field: a prefix (the `-` of
a signed text or the `0x` of a pointer), the body, and padding up to the width. Padding is a
fill write, which a sink delivers in chunks. Empty writes are never made.
-/
namespace FormatEngine

inductive Piece where
  /-- A run of bytes without `%`, written as it is. -/
  | literal (b : Bytes)
  /-- A directive. -/
  | directive (d : Directive)
  /-- A `%` whose directive runs to the end of the template: written as a lone `%`. -/
  | dangling
deriving DecidableEq, Inhabited

/-- One write a formatting call makes: some bytes, or `count` copies of a byte. -/
inductive Write where
  | bytes (b : Bytes)
  | fill (byte : UInt8) (count : Nat)
deriving DecidableEq, Inhabited

def Write.toBytes : Write → Bytes
  | .bytes b => b
  | .fill c n => List.replicate n c

/-- The writes of a formatting call, and the error that ended it early, if any. -/
structure Plan where
  writes : List Write
  stop : Option FmtError
deriving Inhabited

namespace Template

/-- The pieces of the bytes `t`, reading at most `fuel` directives. -/
def piecesAux : Nat → Bytes → List Piece
  | 0, _ => []
  | fuel + 1, t =>
    let run := t.takeWhile (· != 37)
    let lit := if run = [] then [] else [Piece.literal run]
    match t.dropWhile (· != 37) with
    | [] => lit
    | _ :: r =>
      match Directive.parse? r with
      | none => lit ++ [Piece.dangling]
      | some (d, m) => lit ++ Piece.directive d :: piecesAux fuel (r.drop m)

/-- The pieces of a template: its bytes before the first NUL, split at each `%`. Every
directive takes at least one byte, so the template's length bounds how many there are. -/
def pieces (t : Bytes) : List Piece :=
  let t := Bytes.beforeNul t
  piecesAux (t.length + 1) t

end Template

namespace Field

/-- A write of some bytes, or none when they are empty. -/
def emit (b : Bytes) : List Write := if b = [] then [] else [.bytes b]

/-- A fill write, or none when the count is zero. -/
def pad (c : UInt8) (n : Nat) : List Write := if n = 0 then [] else [.fill c n]

/-- The writes of a field: `prefix` and `body` padded to the directive's width when `pads`. A
left-aligned field pads with spaces after; a zero-filled numeric field puts zeros between the
prefix and the body; any other field pads with spaces before. -/
def writes (pads : Bool) (d : Directive) (pre body : Bytes) : List Write :=
  let n := if pads then d.width - (pre.length + body.length) else 0
  if d.leftAlign then emit pre ++ emit body ++ pad 32 n
  else if d.zeroPad && d.conversion.isNumeric then emit pre ++ pad 48 n ++ emit body
  else pad 32 n ++ emit pre ++ emit body

/-- A signed text moves its leading `-` into the prefix. -/
def signedWrites (pads : Bool) (d : Directive) (text : Bytes) : List Write :=
  match text with
  | 45 :: digits => writes pads d [45] digits
  | _ => writes pads d [] text

end Field

namespace Template

/-- The writes of one argument-taking directive, or the error that stops the call there. -/
def convert (c : FormatConfig) (room : Nat) (d : Directive) (cur : Cursor) :
    Except FmtError (List Write × Cursor) :=
  let pads := c.width.pads
  let lift {α : Type} (r : Except Overflow α) : Except FmtError α := r.mapError FmtError.ofOverflow
  match d.conversion with
  | .str => do
    let (s, cur) ← cur.next .str
    pure (Field.writes pads d [] (Bytes.beforeNul s), cur)
  | .char => do
    let (v, cur) ← cur.next .int
    pure (Field.writes pads d [] [UInt8.ofNat (v.toInt % 256).toNat], cur)
  | .signed => do
    let (v, cur) ← cur.next .int
    let t ← lift (Convert.signed room v)
    pure (Field.signedWrites pads d t, cur)
  | .unsigned => do
    let (v, cur) ← cur.next .uint
    let t ← lift (Convert.unsigned room v)
    pure (Field.writes pads d [] t, cur)
  | .hex upper => do
    let (v, cur) ← cur.next .uint
    let t ← lift (Convert.hex room upper v.toUInt64)
    pure (Field.writes pads d [] t, cur)
  | .octal => do
    let (v, cur) ← cur.next .uint
    let t ← lift (Convert.octal room v)
    pure (Field.writes pads d [] t, cur)
  | .float => do
    let (v, cur) ← cur.next .double
    let t ← lift (Fixed.render? room v c.precision c.floatStyle)
    pure (Field.signedWrites pads d t, cur)
  | .pointer => do
    let (v, cur) ← cur.next .ptr
    let t ← lift (Convert.hex room false v)
    pure (Field.writes pads d [48, 120] t, cur)
  | .percent => pure ([.bytes [37]], cur)
  | .unknown b => pure ([.bytes [37, b]], cur)

/-- The plan of a piece list, the writes before an error kept. -/
def planPieces (c : FormatConfig) (room : Nat) : List Piece → Cursor → Plan
  | [], _ => ⟨[], none⟩
  | .literal b :: ps, cur =>
    let p := planPieces c room ps cur
    ⟨Field.emit b ++ p.writes, p.stop⟩
  | .dangling :: _, _ => ⟨[.bytes [37]], none⟩
  | .directive d :: ps, cur =>
    match convert c room d cur with
    | .error e => ⟨[], some e⟩
    | .ok (ws, cur) =>
      let p := planPieces c room ps cur
      ⟨ws ++ p.writes, p.stop⟩

/-- The plan of a template with arguments, converters given `room` bytes of scratch. -/
def plan (c : FormatConfig) (room : Nat) (t : Bytes) (args : List Arg) : Plan :=
  planPieces c room (pieces t) (Cursor.start args)

end Template
end FormatEngine
