import ClusterDiagnosis.Text.Lines
import ClusterDiagnosis.Yaml.Flaw

/-!
A text as it is read from a file: its bytes are taken in chunks and turned into characters, and the
characters are looked over in pieces. A chunk with bytes that are no characters, or a piece with a
character that may not occur, is not read at all; what is in front of it is read all the same.
-/

set_option autoImplicit false
set_option relaxedAutoImplicit false

namespace ClusterDiagnosis.Yaml

namespace Utf8

/-- The bytes behind the first one of a character. -/
def isFollower (b : UInt8) : Bool :=
  0x80 ≤ b && b ≤ 0xBF

/-- Whether a character of more than two bytes can start with the two bytes. -/
def isStart (a b : UInt8) : Bool :=
  isFollower b && !(a == 0xE0 && b < 0xA0) && !(a == 0xED && 0xA0 ≤ b) &&
    !(a == 0xF0 && b < 0x90) && !(a == 0xF4 && 0x90 ≤ b)

/-- Whether the bytes are a part of a character that lacks some at its end. -/
def isOpen : List UInt8 → Bool
  | [a] => 0xC2 ≤ a && a ≤ 0xF4
  | [a, b] => 0xE0 ≤ a && a ≤ 0xF4 && isStart a b
  | [a, b, c] => 0xF0 ≤ a && a ≤ 0xF4 && isStart a b && isFollower c
  | _ => false

/-- The characters of bytes, where the last `open` bytes are a part of one. -/
def splitAt? (bytes : List UInt8) (lacking : Nat) : Option (List Char × List UInt8) :=
  let count := bytes.length - lacking
  let rest := bytes.drop count
  if lacking = 0 || isOpen rest then
    (String.fromUTF8? ⟨(bytes.take count).toArray⟩).map fun s ↦ (s.toList, rest)
  else none

/-- The characters of bytes, and the bytes at the end that are a part of a character. -/
def decode? (bytes : List UInt8) : Option (List Char × List UInt8) :=
  [0, 1, 2, 3].findSome? (splitAt? bytes)

end Utf8

/-- A file that is being read: its bytes from here on, the part of a character in front of them,
whether a carriage return is held back because a line feed may follow, the characters that wait to
be taken, and how many bytes and characters the last chunk had. -/
structure Feed where
  bytes : List UInt8
  part : List UInt8 := []
  holdsReturn : Bool := false
  waiting : List Char := []
  chunkBytes : Nat := 0
  chunkChars : Nat := 0

namespace Feed

/-- The least number of bytes of a chunk. -/
def minChunk : Nat := 8192

/-- The number of characters of a piece. -/
def pieceLength : Nat := 4096

/-- The number of bytes of the next chunk, when so many characters are wanted: as many as such
characters had in the last chunk. -/
def chunkLength (f : Feed) (wanted : Nat) : Nat :=
  max minChunk
    (if f.chunkBytes ≤ f.chunkChars || f.chunkChars = 0 then wanted
      else wanted * f.chunkBytes / f.chunkChars)

/-- Reads the next chunk, and tells whether it brought anything. -/
def readChunk (f : Feed) (wanted : Nat) : Except Trouble (Feed × Bool) :=
  let taken := f.bytes.take (f.chunkLength wanted)
  let atEnd := taken.isEmpty
  match Utf8.decode? (f.part ++ taken) with
  | none => .error (.mismatch .undecodable)
  | some (cs, part) =>
    if atEnd && !part.isEmpty then .error (.mismatch .undecodable)
    else
      let freed := f.holdsReturn && (atEnd || !cs.isEmpty)
      let cs := if freed then '\r' :: cs else cs
      let held := !atEnd && cs.getLast? == some '\r'
      let cs := Text.withLineFeeds (if held then cs.dropLast else cs)
      .ok ({
        bytes := f.bytes.drop taken.length
        part
        holdsReturn := held || (f.holdsReturn && !freed)
        waiting := f.waiting ++ cs
        chunkBytes := taken.length
        chunkChars := cs.length }, !(atEnd && cs.isEmpty))

/-- Takes a piece of the text; it is shorter only at the end of the file. At most `chunks` chunks
are read for it. -/
def takePiece (f : Feed) : Nat → Except Trouble (List Char × Feed)
  | 0 => .ok (f.waiting.take pieceLength, { f with waiting := f.waiting.drop pieceLength })
  | chunks + 1 =>
    if pieceLength ≤ f.waiting.length then f.takePiece 0
    else do
      let (f, more) ← f.readChunk (pieceLength - f.waiting.length)
      if more then f.takePiece chunks else f.takePiece 0

end Feed

/-- The characters that a text may be made of. -/
def isAcceptable (c : Char) : Bool :=
  let n := c.toNat
  n == 9 || n == 10 || n == 13 || (0x20 ≤ n && n ≤ 0x7E) || n == 0x85 ||
    (0xA0 ≤ n && n ≤ 0xFFFD) || 0x10000 ≤ n

/-- A text as far as it can be read, and the trouble behind it if there is any. -/
structure Source where
  chars : List Char
  behind : Option Trouble := none

namespace Source

/-- The text with one more piece, if that may be read. -/
def append (before piece : List Char) : Except Source (List Char) :=
  match piece.find? fun c ↦ !isAcceptable c with
  | some c => .error ⟨before, some (.flaw (.character c))⟩
  | none => .ok (before ++ piece)

/-- Reads on behind the text so far, at most so many pieces. -/
def readOn (chunks : Nat) : Nat → List Char → Feed → Source
  | 0, before, _ => ⟨before, none⟩
  | pieces + 1, before, f =>
    match f.takePiece chunks with
    | .error t => ⟨before, some t⟩
    | .ok ([], _) => ⟨before, none⟩
    | .ok (piece, f) =>
      match append before piece with
      | .error s => s
      | .ok text => readOn chunks pieces text f

/-- The text of a file. Its first two pieces are read as one. -/
def ofBytes (bytes : List UInt8) : Source :=
  let most := bytes.length + 2
  let opening := do
    let (first, f) ← Feed.takePiece { bytes } most
    let (second, f) ← f.takePiece most
    return (first ++ second, f)
  match opening with
  | .error t => ⟨[], some t⟩
  | .ok (piece, f) =>
    match append [] piece with
    | .error s => s
    | .ok text => readOn most most text f

end Source

end ClusterDiagnosis.Yaml
