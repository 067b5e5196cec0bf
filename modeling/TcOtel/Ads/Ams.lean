import TcOtel.Ads.DiagnosticsPush

/-!
# AMS frames

The header that every frame of the transport starts with, and the request of an ADS write
behind it, as `ams.rs` has them. Both are read back from what they are written as.
-/

namespace TcOtel.Ads

open Decoding Memory

/-! ### Addresses -/

/-- `str::parse::<u8>`: digits, perhaps behind a plus, of a number that fits. -/
def parseOctet (text : List Char) : Option UInt8 :=
  let digits := if text.head? = some '+' then text.tail else text
  if digits.isEmpty ∨ ¬digits.all Char.isDigit then none
  else
    let n := digits.foldl (fun n c => 10 * n + (c.toNat - '0'.toNat)) 0
    if n < 256 then some (UInt8.ofNat n) else none

def octet (part : List Char) : Except AdsError UInt8 :=
  match parseOctet part with
  | some b => .ok b
  | none => .error (.parseError s!"Invalid AMS Net ID octet: {String.ofList part}")

def AmsNetId.fromBytes (a b c d e f : UInt8) : AmsNetId := ⟨[a, b, c, d, e, f], rfl⟩

def AmsNetId.fromStrRef (s : String) : Except AdsError AmsNetId :=
  match s.toList.splitOn '.' with
  | [p₀, p₁, p₂, p₃, p₄, p₅] => do
    let b₀ ← octet p₀
    let b₁ ← octet p₁
    let b₂ ← octet p₂
    let b₃ ← octet p₃
    let b₄ ← octet p₄
    let b₅ ← octet p₅
    pure ⟨[b₀, b₁, b₂, b₃, b₄, b₅], rfl⟩
  | parts => .error (.parseError s!"Invalid AMS Net ID format: expected 6 parts, got {parts.length}")

theorem octet_toString (b : UInt8) : '.' ∉ (toString b).toList ∧ octet (toString b).toList = .ok b := by
  have all : ∀ n < 256, '.' ∉ (toString (UInt8.ofNat n)).toList ∧
      parseOctet (toString (UInt8.ofNat n)).toList = some (UInt8.ofNat n) := by decide +kernel
  obtain ⟨dot, parsed⟩ := all b.toNat b.toNat_lt
  rw [UInt8.ofNat_toNat] at dot parsed
  exact ⟨dot, by rw [octet, parsed]⟩

theorem AmsNetId.fromStrRef_display (netId : AmsNetId) : AmsNetId.fromStrRef netId.display = .ok netId := by
  have parts : netId.display.toList.splitOn '.' = (netId.val.map toString).map String.toList := by
    rw [AmsNetId.display, String.toList_intercalate]
    refine List.splitOn_intercalate '.' ?_ ?_
    · intro part inside
      simp only [List.map_map, List.mem_map] at inside
      obtain ⟨b, -, rfl⟩ := inside
      exact (octet_toString b).1
    · intro empty
      have length := congrArg List.length empty
      rw [List.length_map, List.length_map, netId.property] at length
      cases length
  obtain ⟨bytes, length⟩ := netId
  rw [AmsNetId.fromStrRef, parts]
  -- only a list of six bytes is left
  rcases bytes with _ | ⟨b₀, _ | ⟨b₁, _ | ⟨b₂, _ | ⟨b₃, _ | ⟨b₄, _ | ⟨b₅, _ | ⟨_, _⟩⟩⟩⟩⟩⟩⟩ <;>
    simp only [List.length_nil, List.length_cons] at length <;> try omega
  simp only [List.map_cons, List.map_nil, (octet_toString _).2]
  rfl

/-! ### Headers -/

def adsCmdReadDeviceInfo : UInt16 := 1
def adsCmdRead : UInt16 := 2
def adsCmdWrite : UInt16 := 3
def adsCmdReadState : UInt16 := 4
def adsCmdAddNotification : UInt16 := 6
def adsCmdNotification : UInt16 := 8
def adsCmdReadWrite : UInt16 := 9
def adsStateResponse : UInt16 := 0x0005
def adserrDeviceSrvnotsupp : UInt32 := 0x0701

structure AmsHeader where
  targetNetId : AmsNetId
  targetPort : UInt16
  sourceNetId : AmsNetId
  sourcePort : UInt16
  commandId : UInt16
  stateFlags : UInt16
  dataLength : UInt32
  errorCode : UInt32
  invokeId : UInt32
deriving DecidableEq

def netIdAt (data : List UInt8) (off : Nat) (inside : off + 6 ≤ data.length) : AmsNetId :=
  ⟨extract data off 6, length_extract inside⟩

namespace AmsHeader

def parse (data : List UInt8) : Except AdsError AmsHeader :=
  if short : data.length < 32 then .error (.parseError s!"AMS header too short: {data.length} bytes")
  else .ok {
    targetNetId := netIdAt data 0 (by omega)
    targetPort := Push.readU16 data 6
    sourceNetId := netIdAt data 8 (by omega)
    sourcePort := Push.readU16 data 14
    commandId := Push.readU16 data 16
    stateFlags := Push.readU16 data 18
    dataLength := Push.readU32 data 20
    errorCode := Push.readU32 data 24
    invokeId := Push.readU32 data 28 }

def serialize (h : AmsHeader) : List UInt8 :=
  h.targetNetId.val ++ (leBytes 2 h.targetPort.toNat ++ (h.sourceNetId.val ++ (leBytes 2 h.sourcePort.toNat ++
  (leBytes 2 h.commandId.toNat ++ (leBytes 2 h.stateFlags.toNat ++ (leBytes 4 h.dataLength.toNat ++
  (leBytes 4 h.errorCode.toNat ++ leBytes 4 h.invokeId.toNat)))))))

def makeResponse (h : AmsHeader) (errorCode : UInt32) : AmsHeader where
  targetNetId := h.sourceNetId
  targetPort := h.sourcePort
  sourceNetId := h.targetNetId
  sourcePort := h.targetPort
  commandId := h.commandId
  stateFlags := adsStateResponse
  dataLength := 4
  errorCode := errorCode
  invokeId := h.invokeId

theorem length_serialize (h : AmsHeader) : h.serialize.length = 32 := by
  simp [serialize, h.targetNetId.property, h.sourceNetId.property]

theorem parse_serialize (h : AmsHeader) (rest : List UInt8) : parse (h.serialize ++ rest) = .ok h := by
  have long : ¬(h.serialize ++ rest).length < 32 := by
    rw [List.length_append, h.length_serialize]
    omega
  have target := h.targetNetId.property
  have source := h.sourceNetId.property
  rw [parse, dif_neg long]
  simp [netIdAt, serialize, Push.readU16_behind, Push.readU32_behind, Push.readU16_start, Push.readU32_start,
    extract_behind, extract_start, target, source]

end AmsHeader

/-! ### Write requests -/

structure AdsWriteRequest where
  indexGroup : UInt32
  indexOffset : UInt32
  data : List UInt8
deriving DecidableEq

namespace AdsWriteRequest

def parse (data : List UInt8) : Except AdsError AdsWriteRequest :=
  if data.length < 12 then .error (.parseError s!"ADS Write request too short: {data.length} bytes")
  else if data.length < 12 + (Push.readU32 data 8).toNat then
    .error (.parseError s!"ADS Write data incomplete: expected {(Push.readU32 data 8).toNat} bytes")
  else .ok {
    indexGroup := Push.readU32 data 0
    indexOffset := Push.readU32 data 4
    data := extract data 12 (Push.readU32 data 8).toNat }

def serialize (w : AdsWriteRequest) : List UInt8 :=
  leBytes 4 w.indexGroup.toNat ++ (leBytes 4 w.indexOffset.toNat ++
    (leBytes 4 (UInt32.ofNat w.data.length).toNat ++ w.data))

theorem parse_serialize (fits : w.data.length < 2 ^ 32) : parse w.serialize = .ok w := by
  have size : (UInt32.ofNat w.data.length).toNat = w.data.length := Nat.mod_eq_of_lt fits
  have length : w.serialize.length = 12 + w.data.length := by simp [serialize]; omega
  have announced : Push.readU32 w.serialize 8 = UInt32.ofNat w.data.length := by
    simp only [serialize, Push.readU32_behind, Push.readU32_start, length_leBytes, Nat.reduceSub, Nat.reduceLeDiff]
  have group : Push.readU32 w.serialize 0 = w.indexGroup := Push.readU32_start _
  have offset : Push.readU32 w.serialize 4 = w.indexOffset := by
    simp [serialize, Push.readU32_behind, Push.readU32_start]
  have data : extract w.serialize 12 w.data.length = w.data := by
    have start : extract (w.data ++ []) 0 w.data.length = w.data := extract_start rfl
    rw [List.append_nil] at start
    simp [serialize, extract_behind, start]
  rw [parse, announced, size, if_neg (by omega), if_neg (by omega), group, offset, data]

end AdsWriteRequest

end TcOtel.Ads
