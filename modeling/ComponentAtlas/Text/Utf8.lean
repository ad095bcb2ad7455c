/-!
# UTF-8 byte runs

A byte list is cut into pieces, each a character or a run of bytes that starts
no character. A bad run is as long as possible: it is the longest prefix that a
well-formed sequence could have had, or a single byte. Lenient reading writes one
replacement character for each bad run, strict reading reports the first.

The second byte after `E0`, `ED`, `F0` and `F4` is restricted, so overlong forms
and surrogates are bad runs of one byte.
-/

namespace ComponentAtlas.Text.Utf8

/-- Why a run of bytes is no character. -/
inductive Fault where
  | invalidStart
  | invalidContinuation
  | unexpectedEnd
  deriving Repr, DecidableEq

/-- The wording of a fault in a decoding report. -/
def Fault.message : Fault → String
  | .invalidStart => "invalid start byte"
  | .invalidContinuation => "invalid continuation byte"
  | .unexpectedEnd => "unexpected end of data"

/-- One piece of a byte list: a character, or a run of `width` bytes that is none. -/
inductive Piece where
  | char (c : Char) (width : Nat)
  | bad (width : Nat) (fault : Fault)
  deriving Repr, DecidableEq

/-- The number of bytes that a piece covers. -/
def Piece.width : Piece → Nat
  | .char _ width => width
  | .bad width _ => width

/-- A byte of the form `10xxxxxx`. -/
def isContinuation (b : UInt8) : Bool := 0x80 ≤ b && b < 0xC0

/-- The six payload bits of a continuation byte. -/
def payload (b : UInt8) : Nat := b.toNat % 64

/-- The bytes that may follow `lead` directly. -/
def mayFollow (lead second : UInt8) : Bool :=
  isContinuation second &&
    !((lead == 0xE0 && second < 0xA0) || (lead == 0xED && 0xA0 ≤ second) ||
      (lead == 0xF0 && second < 0x90) || (lead == 0xF4 && 0x90 ≤ second))

/-- The piece at the head of a byte list that starts with `lead`. -/
def leading (lead : UInt8) (rest : List UInt8) : Piece :=
  if lead < 0x80 then .char (Char.ofNat lead.toNat) 1
  else if lead < 0xC2 then .bad 1 .invalidStart
  else if lead < 0xE0 then
    match rest with
    | [] => .bad 1 .unexpectedEnd
    | b :: _ =>
      if isContinuation b then .char (Char.ofNat ((lead.toNat - 0xC0) * 64 + payload b)) 2
      else .bad 1 .invalidContinuation
  else if lead < 0xF0 then
    match rest with
    | [] => .bad 1 .unexpectedEnd
    | b :: rest =>
      if mayFollow lead b then
        match rest with
        | [] => .bad 2 .unexpectedEnd
        | c :: _ =>
          if isContinuation c then
            .char (Char.ofNat (((lead.toNat - 0xE0) * 64 + payload b) * 64 + payload c)) 3
          else .bad 2 .invalidContinuation
      else .bad 1 .invalidContinuation
  else if lead < 0xF5 then
    match rest with
    | [] => .bad 1 .unexpectedEnd
    | b :: rest =>
      if mayFollow lead b then
        match rest with
        | [] => .bad 2 .unexpectedEnd
        | c :: rest =>
          if isContinuation c then
            match rest with
            | [] => .bad 3 .unexpectedEnd
            | d :: _ =>
              if isContinuation d then
                .char (Char.ofNat ((((lead.toNat - 0xF0) * 64 + payload b) * 64 + payload c) * 64
                  + payload d)) 4
              else .bad 3 .invalidContinuation
          else .bad 2 .invalidContinuation
      else .bad 1 .invalidContinuation
  else .bad 1 .invalidStart

/-- Cuts a byte list into its pieces. The first byte of a piece is consumed whatever its
width, so each step shortens the list. -/
def pieces : List UInt8 → List Piece
  | [] => []
  | lead :: rest =>
    let piece := leading lead rest
    piece :: pieces (rest.drop (piece.width - 1))
termination_by bytes => bytes.length
decreasing_by simp only [List.length_drop, List.length_cons]; omega

/-- Lenient reading: each bad run becomes one replacement character. -/
def decodeLossy (bytes : List UInt8) : String :=
  String.ofList ((pieces bytes).map fun
    | .char c _ => c
    | .bad _ _ => '\uFFFD')

/-- A bad run and where it starts, in bytes. -/
structure Report where
  start : Nat
  width : Nat
  fault : Fault
  bytes : List UInt8
  deriving Repr, DecidableEq

/-- The characters of the pieces, or the first bad run; `start` counts the bytes before them. -/
def collect (bytes : List UInt8) : Nat → List Piece → Except Report (List Char)
  | _, [] => .ok []
  | start, .char c width :: rest => do
    let chars ← collect bytes (start + width) rest
    return c :: chars
  | start, .bad width fault :: _ =>
    .error ⟨start, width, fault, (bytes.drop start).take width⟩

/-- Strict reading: the text, or the first bad run. -/
def decode (bytes : List UInt8) : Except Report String :=
  (collect bytes 0 (pieces bytes)).map String.ofList

/-- A byte as two small hexadecimal digits. -/
def hexByte (b : UInt8) : String :=
  String.ofList [Nat.digitChar (b.toNat / 16), Nat.digitChar (b.toNat % 16)]

/-- The report in words. A single byte is shown, a longer run only by its position. -/
def Report.message (r : Report) : String :=
  match r.bytes with
  | [b] =>
    s!"'utf-8' codec can't decode byte 0x{hexByte b} in position {r.start}: {r.fault.message}"
  | _ =>
    s!"'utf-8' codec can't decode bytes in position {r.start}-{r.start + r.width - 1}: "
      ++ r.fault.message

/-- The bytes of a text. -/
def encode (s : String) : List UInt8 := s.toUTF8.toList

/-- The three bytes that mark a text as UTF-8. -/
def byteOrderMark : List UInt8 := [0xEF, 0xBB, 0xBF]

/-- Drops one leading byte order mark. Bytes that stop inside the mark read as nothing. -/
def dropByteOrderMark (bytes : List UInt8) : List UInt8 :=
  if bytes.length < 3 && bytes.isPrefixOf byteOrderMark then []
  else if byteOrderMark.isPrefixOf bytes then bytes.drop 3
  else bytes

end ComponentAtlas.Text.Utf8
