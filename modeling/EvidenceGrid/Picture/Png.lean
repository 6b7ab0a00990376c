import EvidenceGrid.Picture
import EvidenceGrid.Picture.Checksum

/-!
A gray picture as a PNG file of eight bits to the pixel. The pixel stream is
stored without compression: every row follows a byte that says it is not
filtered, and the stream is cut into stored blocks of at most 65535 bytes.
-/

set_option autoImplicit false

namespace EvidenceGrid

namespace Png

def bigEndian (word : UInt32) : ByteArray :=
  ⟨#[(word >>> 24).toUInt8, (word >>> 16).toUInt8, (word >>> 8).toUInt8, word.toUInt8]⟩

def littleEndian (half : UInt16) : ByteArray := ⟨#[half.toUInt8, (half >>> 8).toUInt8]⟩

def signature : ByteArray := ⟨#[0x89, 0x50, 0x4E, 0x47, 0x0D, 0x0A, 0x1A, 0x0A]⟩

def chunk (kind : String) (contents : ByteArray) : ByteArray :=
  let checked := kind.toUTF8 ++ contents
  bigEndian contents.size.toUInt32 ++ checked ++ bigEndian (Checksum.cyclic checked)

/-- Size, eight bits of gray, and the only compression, filtering and order
without interlacing. -/
def header (picture : Picture) : ByteArray :=
  bigEndian picture.width ++ bigEndian picture.height ++ ⟨#[8, 0, 0, 0, 0]⟩

def scanlines (picture : Picture) : ByteArray :=
  let width := picture.width.toNat
  (List.range picture.height.toNat).foldl
    (fun bytes row =>
      (picture.pixels.extract (row * width) ((row + 1) * width)).foldl ByteArray.push
        (bytes.push 0))
    ByteArray.empty

def blockSize : Nat := 65535

def storedBlocks (bytes : ByteArray) : ByteArray :=
  let count := max 1 ((bytes.size + blockSize - 1) / blockSize)
  (List.range count).foldl
    (fun stored block =>
      let body := bytes.extract (block * blockSize) ((block + 1) * blockSize)
      let length := body.size.toUInt16
      (stored.push (if block + 1 = count then 1 else 0)) ++ littleEndian length
        ++ littleEndian (~~~length) ++ body)
    ByteArray.empty

def pixelStream (bytes : ByteArray) : ByteArray :=
  ⟨#[0x78, 0x01]⟩ ++ storedBlocks bytes ++ bigEndian (Checksum.sums bytes)

def encode (picture : Picture) : ByteArray :=
  signature ++ chunk "IHDR" (header picture) ++ chunk "IDAT" (pixelStream (scanlines picture))
    ++ chunk "IEND" ByteArray.empty

def isNamed (name : String) : Bool :=
  let file := (name.splitOn "/").getLastD ""
  match (file.splitOn ".").reverse with
  | extension :: _ :: _ =>
    String.map Char.toLower extension = "png" && String.map Char.toLower file ≠ ".png"
  | _ => false

end Png

/-- The file of a published map under a given name. There has to be one value
for each cell, the name has to be that of a picture file, and a picture without
pixels has no file. -/
def Snapshot.file (snapshot : Snapshot) (name : String) : Except Fault ByteArray :=
  if snapshot.values.size ≠ snapshot.lattice.area then
    .error (.shape
      (.snapshot snapshot.values.size snapshot.lattice.width snapshot.lattice.height))
  else if !Png.isNamed name || snapshot.lattice.area = 0 then .error .picture
  else .ok (Png.encode snapshot.picture)

end EvidenceGrid
