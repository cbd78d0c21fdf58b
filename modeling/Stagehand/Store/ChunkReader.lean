import Stagehand.Store.Basic
import Stagehand.Store.RemoteError

/-! # Chunks of a fixed size

The network hands out an object in parts of any size.  A chunk reader keeps the bytes that were not
asked for yet and fetches parts until it can fill the next chunk, so chunks have the size asked for
except the last.  A failure among the parts is reported once, before the bytes held so far, which
stay for later chunks.
-/

set_option autoImplicit false

namespace Stagehand

/-- What the network hands out next. -/
inductive Part where
  | content (bytes : Bytes)
  | fault (failure : RemoteError)
deriving DecidableEq, Inhabited, Repr

/-- Bytes held back, and the parts to come; none once they have ended or were given up. -/
structure ChunkReader where
  held : Bytes
  parts : Option (List Part)
deriving DecidableEq, Inhabited, Repr

inductive ChunkAnswer where
  | chunk (bytes : Bytes)
  | failed (reason : StoreError)
  | ended
deriving DecidableEq, Inhabited, Repr

namespace ChunkReader

def ofParts (parts : List Part) : ChunkReader := ⟨[], some parts⟩

/-- What fetching parts gave: their bytes, the parts left, and the failure that stopped it. -/
structure Gathered where
  bytes : Bytes
  left : Option (List Part)
  fault : Option RemoteError
deriving DecidableEq, Inhabited, Repr

/-- Parts fetched until at least `missing` bytes are there. -/
def gather : Nat → List Part → Gathered
  | 0, parts => ⟨[], some parts, none⟩
  | _ + 1, [] => ⟨[], none, none⟩
  | missing + 1, .content bytes :: parts =>
      let more := gather (missing + 1 - bytes.length) parts
      { more with bytes := bytes ++ more.bytes }
  | _ + 1, .fault failure :: parts => ⟨[], some parts, some failure⟩

/-- The reader with enough bytes for a chunk, as far as there are any, and the failure met. -/
def fill (reader : ChunkReader) (size : Nat) : ChunkReader × Option RemoteError :=
  match reader.parts with
  | none => (reader, none)
  | some parts =>
      let gathered := gather (size - reader.held.length) parts
      (⟨reader.held ++ gathered.bytes, gathered.left⟩, gathered.fault)

def next (reader : ChunkReader) (size : Nat) : ChunkReader × ChunkAnswer :=
  match reader.fill size with
  | (filled, some failure) => (filled, .failed (.backend failure.message))
  | (filled, none) =>
      if filled.held.isEmpty then (filled, .ended)
      else ({ filled with held := filled.held.drop size }, .chunk (filled.held.take size))

def release (_ : ChunkReader) : ChunkReader := ⟨[], none⟩

/-- Chunks of a size up to the end, the first failure, or `bound` of them. -/
def readUpTo (size : Nat) : Nat → ChunkReader → Download
  | 0, _ => ⟨[], none⟩
  | bound + 1, reader =>
      match reader.next size with
      | (_, .ended) => ⟨[], none⟩
      | (_, .failed reason) => ⟨[], some reason⟩
      | (later, .chunk bytes) =>
          let rest := readUpTo size bound later
          { rest with chunks := bytes :: rest.chunks }

def partSizes (parts : List Part) : Nat :=
  (parts.map fun part => match part with
    | .content bytes => bytes.length
    | .fault _ => 0).foldr (· + ·) 0

/-- The object read to its end in chunks of a size.  Each chunk takes a byte at least, so there are
no more chunks than bytes. -/
def download (reader : ChunkReader) (size : Nat) : Download :=
  readUpTo size (reader.held.length + partSizes (reader.parts.getD []) + 1) reader

end ChunkReader
end Stagehand
