import C4Diagram.Deflate.Inflate
import C4Diagram.Sextet

/-!
The form of a text in the address of a rendering server: its UTF-8 bytes, compressed, in letters of
six bits. Decoding undoes encoding and tells apart the ways in which a code can be wrong.
-/

namespace C4Diagram

structure Compression where
  compress : List UInt8 → List UInt8
  inflate : List UInt8 → Except Deflate.InflateError (List UInt8)

def Deflate.compression : Compression := ⟨compress, inflate⟩

namespace DiagramCode

inductive DecodeError where
  | unpack (e : UnpackError)
  | inflate (e : Deflate.InflateError)
  | notUtf8
deriving DecidableEq

namespace DecodeError

def message : DecodeError → Text
  | unpack (.invalidLength bytes) =>
    "encoded length ".toList ++ Text.ofNat bytes ++ " is not a multiple of 4".toList
  | unpack (.invalidCharacter character position) =>
    "invalid character `".toList ++ [character] ++ "` at position ".toList ++ Text.ofNat position
  | inflate .endOfInput => "corrupt compressed data: incomplete deflate stream".toList
  | inflate .corrupt => "corrupt compressed data: corrupt deflate stream".toList
  | notUtf8 => "corrupt compressed data: stream did not contain valid UTF-8".toList

end DecodeError

end DiagramCode

namespace Compression

def encode (z : Compression) (t : Text) : Text := pack (z.compress t.utf8.toList)

def decode (z : Compression) (code : Text) : Except DiagramCode.DecodeError Text := do
  let bytes ← (unpack code).mapError .unpack
  let content ← (z.inflate bytes).mapError .inflate
  match Text.ofUtf8? ⟨content.toArray⟩ with
  | some text => .ok text
  | none => .error .notUtf8

end Compression

namespace DiagramCode

def encode (t : Text) : Text := Deflate.compression.encode t

def decode (code : Text) : Except DecodeError Text := Deflate.compression.decode code

end DiagramCode
end C4Diagram
