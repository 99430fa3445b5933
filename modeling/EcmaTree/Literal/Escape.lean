import EcmaTree.Literal.Error
import EcmaTree.Text.Units

/-!
# String escapes

The body of a string, between the quotes, is cut into pieces: escapes, which start with a
backslash, and single code points. `Piece.segment` does the cutting and `Piece.decodeAll` gives
the text that the pieces stand for, or the leftmost escape that stands for nothing. At last
`Text.joinSurrogates` joins surrogate pairs, which consecutive `\u` escapes can leave behind.
-/

namespace EcmaTree

/-- What stands behind the backslash of an escape. -/
inductive Escape where
  /-- The letter `u`, an opening brace, hexadecimal digits and a closing brace. -/
  | braced (digits : Text)
  /-- The letter `u` and four hexadecimal digits. -/
  | unit (digits : Text)
  /-- The letter `x` and two hexadecimal digits. -/
  | byte (digits : Text)
  /-- One to three octal digits of a number below 256. -/
  | octal (digits : Text)
  /-- A line end; the line goes on behind it. -/
  | lineEnd (terminator : Text)
  /-- Any code point that does not start one of the other escapes. -/
  | single (c : CodePoint)
deriving DecidableEq

namespace Escape

/-- The code points of an escape behind its backslash. -/
def spelling : Escape → Text
  | braced digits => Text.ofString "u\x7b" ++ digits ++ Text.ofString "\x7d"
  | unit digits => Text.ofString "u" ++ digits
  | byte digits => Text.ofString "x" ++ digits
  | octal digits => digits
  | lineEnd terminator => terminator
  | single c => [c]

/-- Whether the code point is an ASCII hexadecimal digit. -/
def isHexDigit (c : CodePoint) : Bool := c.hexDigit?.isSome

/-- Whether the code point is an ASCII octal digit. -/
def isOctalDigit (c : CodePoint) : Bool := (c.digitIn? 8).isSome

/-- The first `count` code points of a text, if they are hexadecimal digits. -/
def hexDigits? (count : Nat) (t : Text) : Option Text :=
  if (t.take count).length = count && (t.take count).all isHexDigit then some (t.take count)
  else none

/-- The hexadecimal digits between the braces at the front of a text. -/
def bracedDigits? : Text → Option Text
  | [] => none
  | c :: rest =>
    let digits := rest.takeWhile isHexDigit
    match rest.dropWhile isHexDigit with
    | [] => none
    | d :: _ => if c = '\x7b' && d = '\x7d' && !digits.isEmpty then some digits else none

/-- The octal digits at the front of a text: three of them below `400`, or else two. -/
def octalDigits (c : CodePoint) (rest : Text) : Text :=
  c :: (rest.take (if c.toNat ≤ 0x33 then 2 else 1)).takeWhile isOctalDigit

/-- The escape that starts with `c` behind the backslash. -/
def scanFrom (c : CodePoint) (rest : Text) : Escape :=
  if c = 'u' then
    match bracedDigits? rest, hexDigits? 4 rest with
    | some digits, _ => braced digits
    | none, some digits => unit digits
    | none, none => single c
  else if c = 'x' then
    match hexDigits? 2 rest with
    | some digits => byte digits
    | none => single c
  else if isOctalDigit c then octal (octalDigits c rest)
  else if c = CodePoint.carriageReturn && rest.take 1 = [CodePoint.lineFeed] then
    lineEnd [c, CodePoint.lineFeed]
  else if c = CodePoint.lineFeed || c = CodePoint.carriageReturn
      || c = CodePoint.lineSeparator || c = CodePoint.paragraphSeparator then lineEnd [c]
  else single c

/-- The escape at the front of a text, which is what follows a backslash. -/
def scan? : Text → Option Escape
  | [] => none
  | c :: rest => some (scanFrom c rest)

/-- The code point that a letter or sign behind a backslash stands for. -/
def ofSingle (c : CodePoint) : CodePoint :=
  if c = 'b' then CodePoint.backspace
  else if c = 'f' then CodePoint.formFeed
  else if c = 'n' then CodePoint.lineFeed
  else if c = 'r' then CodePoint.carriageReturn
  else if c = 't' then CodePoint.tab
  else if c = 'v' then CodePoint.verticalTab
  else c

/-- The code point numbered `n`, which the escape in column `column` asks for. -/
def numbered (escape : Escape) (column n : Nat) : Except LiteralError Text :=
  match CodePoint.ofNat? n with
  | some c => .ok [c]
  | none => .error (.outOfRange (Text.ofString "\\" ++ escape.spelling) column)

/-- The text that an escape in column `column` stands for. -/
def decode (column : Nat) : Escape → Except LiteralError Text
  | braced digits =>
    (braced digits).numbered column (Text.valueOf 16 CodePoint.hexDigit? digits)
  | unit digits => (unit digits).numbered column (Text.valueOf 16 CodePoint.hexDigit? digits)
  | byte digits => (byte digits).numbered column (Text.valueOf 16 CodePoint.hexDigit? digits)
  | octal digits => (octal digits).numbered column (Text.valueOf 8 CodePoint.hexDigit? digits)
  | lineEnd _ => .ok []
  | single c =>
    if c = 'x' || c = 'u' then .error (.malformedEscape c column) else .ok [ofSingle c]

end Escape

/-- A piece of the body of a string. -/
inductive Piece where
  /-- A code point that stands for itself. -/
  | plain (c : CodePoint)
  /-- A backslash and what belongs to it. -/
  | escape (e : Escape)
deriving DecidableEq

namespace Piece

/-- The code points of a piece. -/
def spelling : Piece → Text
  | plain c => [c]
  | escape e => Text.ofString "\\" ++ e.spelling

/-- The pieces of a text behind its first `skipped` code points, which belong to an escape that
has been recognised already. A backslash at the very end stands for itself. -/
def segmentFrom : Nat → Text → List Piece
  | _, [] => []
  | skipped + 1, _ :: rest => segmentFrom skipped rest
  | 0, c :: rest =>
    if c = '\\' then
      match Escape.scan? rest with
      | some e => escape e :: segmentFrom e.spelling.length rest
      | none => plain c :: segmentFrom 0 rest
    else plain c :: segmentFrom 0 rest

/-- The pieces of the body of a string, left to right. -/
def segment (body : Text) : List Piece := segmentFrom 0 body

/-- The text that a piece in column `column` stands for. -/
def decode (column : Nat) : Piece → Except LiteralError Text
  | plain c => .ok [c]
  | escape e => e.decode column

/-- The text that pieces stand for, the first of them in column `column`. The first piece that
stands for nothing decides the error. -/
def decodeAll : Nat → List Piece → Except LiteralError Text
  | _, [] => .ok []
  | column, piece :: rest =>
    match piece.decode column with
    | .error e => .error e
    | .ok here =>
      match decodeAll (column + piece.spelling.length) rest with
      | .error e => .error e
      | .ok behind => .ok (here ++ behind)

end Piece

/-- The text that the body of a string stands for. The quote in front of it is in column one. -/
def Text.unescape (body : Text) : Except LiteralError Text :=
  match Piece.decodeAll 2 (Piece.segment body) with
  | .ok t => .ok t.joinSurrogates
  | .error e => .error e

end EcmaTree
