import TcOtel.Ads.Dispatcher

/-!
# The symbol table of a PLC

`browse.rs`: the two reads of the symbol table and what their answers are parsed to.
-/

namespace TcOtel.Client

open Ads Decoding Memory

/-- The errors that this part makes. -/
inductive ClientError where
  | ads (text : String)
  | decode (text : String)
deriving DecidableEq

def adsigrpSymUploadinfo2 : UInt32 := 0xF00F
def adsigrpSymUpload : UInt32 := 0xF00B

/-! ### Reads -/

def readRequest (indexGroup indexOffset length : UInt32) : List UInt8 :=
  leBytes 4 indexGroup.toNat ++ (leBytes 4 indexOffset.toNat ++ leBytes 4 length.toNat)

def readData (indexGroup : UInt32) (raw : List UInt8) : Except ClientError (List UInt8) :=
  if raw.length < 8 then .error (.decode s!"ADS read response too short: {raw.length} bytes")
  else if Push.readU32 raw 0 ≠ 0 then
    .error (.ads s!"ADS read ig=0x{AmsDispatcher.lowerHex indexGroup} returned error 0x{AmsDispatcher.lowerHex (Push.readU32 raw 0)}")
  else
    let declared := (Push.readU32 raw 4).toNat
    let data := raw.drop 8
    if data.length < declared then
      .error (.decode s!"ADS read payload truncated: declared {declared} bytes, got {data.length}")
    else .ok (data.take declared)

/-! ### The size of the table -/

structure UploadInfo where
  symbolCount : UInt32
  symbolLength : UInt32
  datatypeCount : UInt32
  datatypeLength : UInt32
  extraCount : UInt32
  extraLength : UInt32
deriving DecidableEq

def uploadInfoLength : UInt32 := 24

def parseUploadInfo (bytes : List UInt8) : Except ClientError UploadInfo :=
  if bytes.length < 24 then .error (.decode s!"upload_info: need 24 bytes, got {bytes.length}")
  else .ok {
    symbolCount := Push.readU32 bytes 0
    symbolLength := Push.readU32 bytes 4
    datatypeCount := Push.readU32 bytes 8
    datatypeLength := Push.readU32 bytes 12
    extraCount := Push.readU32 bytes 16
    extraLength := Push.readU32 bytes 20 }

/-! ### The table -/

structure SymbolNode where
  name : String
  typeName : String
  comment : String
  igroup : UInt32
  ioffset : UInt32
  size : UInt32
  datatype : UInt32
  flags : UInt32
deriving DecidableEq

structure SymbolTree where
  nodes : List SymbolNode
  indexByName : HashMap String Nat
deriving DecidableEq

def SymbolTree.empty : SymbolTree := ⟨[], ∅⟩

def SymbolTree.get (tree : SymbolTree) (name : String) : Option SymbolNode :=
  (tree.indexByName.lookup name).bind fun i => tree.nodes[i]?

/-- `index_by_name.insert` and `nodes.push`: of two symbols with one name the later one is found. -/
def SymbolTree.push (tree : SymbolTree) (node : SymbolNode) : SymbolTree :=
  ⟨tree.nodes ++ [node], tree.indexByName.insert node.name tree.nodes.length⟩

structure EntryHeader where
  entryLength : UInt32
  igroup : UInt32
  ioffset : UInt32
  size : UInt32
  datatype : UInt32
  flags : UInt32
  nameLength : UInt16
  typeLength : UInt16
  commentLength : UInt16

def parseEntryHeader (bytes : List UInt8) : Except ClientError EntryHeader :=
  if bytes.length < 30 then .error (.decode s!"entry header: need 30 bytes, got {bytes.length}")
  else .ok {
    entryLength := Push.readU32 bytes 0
    igroup := Push.readU32 bytes 4
    ioffset := Push.readU32 bytes 8
    size := Push.readU32 bytes 12
    datatype := Push.readU32 bytes 16
    flags := Push.readU32 bytes 20
    nameLength := Push.readU16 bytes 24
    typeLength := Push.readU16 bytes 26
    commentLength := Push.readU16 bytes 28 }

/-- `read_ascii`. Where the text breaks off is left out of the error. -/
def readAscii (bytes : List UInt8) : Except ClientError String :=
  match fromUtf8 bytes with
  | some s => .ok s
  | none => .error (.decode "non-utf8 in symbol string")

def parseEntry (bytes : List UInt8) (cursor : Nat) : Except ClientError (SymbolNode × Nat) := do
  let limit := bytes.length
  let hdr ← parseEntryHeader (bytes.drop cursor)
  let entryEnd := cursor + hdr.entryLength.toNat
  if entryEnd > limit then
    throw (.decode s!"entry at {cursor} overruns buffer (ends at {entryEnd}, limit {limit})")
  let stringsStart := cursor + 30
  -- behind every text is a zero
  let nameEnd := stringsStart + hdr.nameLength.toNat
  let typeEnd := nameEnd + 1 + hdr.typeLength.toNat
  let commentEnd := typeEnd + 1 + hdr.commentLength.toNat
  if commentEnd > entryEnd then
    throw (.decode s!"strings overrun entry at cursor {cursor}")
  let name ← readAscii (extract bytes stringsStart hdr.nameLength.toNat)
  let typeName ← readAscii (extract bytes (nameEnd + 1) hdr.typeLength.toNat)
  let comment ← readAscii (extract bytes (typeEnd + 1) hdr.commentLength.toNat)
  return (⟨name, typeName, comment, hdr.igroup, hdr.ioffset, hdr.size, hdr.datatype, hdr.flags⟩, entryEnd)

def parseEntries (bytes : List UInt8) : Nat → Nat → SymbolTree → Except ClientError SymbolTree
  | 0, _, tree => .ok tree
  | remaining + 1, cursor, tree =>
    if bytes.length < cursor + 30 then .ok tree
    else
      match parseEntry bytes cursor with
      | .error e => .error e
      | .ok (node, entryEnd) => parseEntries bytes remaining entryEnd (tree.push node)

/-- `parse_upload`. The limit of the cursor is the larger of the announced and the real length,
and behind the first check that is the real one. -/
def parseUpload (bytes : List UInt8) (info : UploadInfo) : Except ClientError SymbolTree :=
  if bytes.length < info.symbolLength.toNat then
    .error (.decode s!"symbol upload: info says {info.symbolLength.toNat} bytes, buffer has {bytes.length}")
  else parseEntries bytes info.symbolCount.toNat 0 .empty

end TcOtel.Client
