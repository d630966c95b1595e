import TextRecords.Config
import TextRecords.Document.Assembly
import TextRecords.Document.Block

/-!
# Reading and writing databases

A record text is read block by block; the first fault ends the reading. Bytes are read as UTF-8.
-/

namespace TextRecords

namespace Document

/-- A database with a block of lines added. -/
def addBlock (joins : Bool) (assembly : Assembly) (block : List Line) : Except Fault Assembly :=
  match block with
  | [] => .ok assembly
  | first :: _ => do
    let items ← Block.itemsOf joins block
    (assembly.add ⟨items, some ⟨first.number, first.offset⟩⟩).mapError (.read first.number)

end Document

namespace Database

/-- The database that a text denotes. -/
def ofText (config : Config) (text : List Char) : Except Fault Database := do
  let assembly ← (Document.blocks (Document.lines text)).foldlM
    (Document.addBlock config.joinsLines) {}
  return assembly.database

/-- The database that the bytes of a text denote. A fault in the encoding is reported with the line
where it is. -/
def ofBytes (config : Config) (bytes : List UInt8) : Except Fault Database :=
  match Text.decodeUtf8 bytes with
  | .ok text => ofText config text
  | .error fault =>
    .error (.encoding ((bytes.take fault.validLength).count 10 + 1) fault)

/-- The database that a source of bytes denotes, which may fail with a reason of its own. -/
def ofSource (config : Config) (source : Except String (List UInt8)) : Except Fault Database :=
  match source with
  | .ok bytes => ofBytes config bytes
  | .error reason => .error (.io reason)

/-- Writing a database to a sink, which takes the whole text at once or fails with a reason of its
own. -/
def writeTo (db : Database) (sink : String → Except String Unit) : Except Fault Unit :=
  (sink db.text).mapError .io

end Database

end TextRecords
