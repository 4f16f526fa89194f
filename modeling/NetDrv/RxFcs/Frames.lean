import NetDrv.Filter.VlanFilter
import NetDrv.Lib.Crc

/-! The test `rx_path/rx_fcs`. Packets captured on the IUT are to have the frame check sequence
behind their payload if and only if the feature is enabled. What the test accepts is compared
with the check an Ethernet receiver makes over the whole frame. -/

namespace NetDrv.RxFcs
open Crc ByteOrder
open NetDrv.Filter (Feature setIfFeature checked)

abbrev Bytes := List Byte

/-- The polynomial of IEEE 802.3, the highest coefficient in the lowest bit. -/
def crcPoly : BitVec 32 := 0xEDB88320

def crc32 (crc : BitVec 32) (buf : Bytes) : BitVec 32 := ~~~run crcPoly (~~~crc) (bitsOfBytes buf)

example : crc32 0 [0x31, 0x32, 0x33, 0x34, 0x35, 0x36, 0x37, 0x38, 0x39] = 0xCBF43926 := by decide +kernel

/-- A MAC address as an Ethernet frame has it. -/
structure EthAddr where
  octets : Bytes
  six : octets.length = 6

/-- A captured packet, as far as its fields can be read. -/
structure CapturedPkt where
  payload : Bytes
  /-- `asn_get_length()` and `TE_VEC_APPEND()` succeed. -/
  noted : Bool
  /-- The buffer is allocated and filled. -/
  payloadRead : Except TeErrno Unit
  dstAddr : Except TeErrno EthAddr
  srcAddr : Except TeErrno EthAddr
  lengthType : Except TeErrno (BitVec 32)

structure PktInData where
  payloadLen : Nat
  computedFcs : BitVec 32
  pktFcs : BitVec 32
  deriving DecidableEq, Repr

/-- `pkts_info`; `α` is what is kept about a packet. -/
structure PktsInfo (α : Type) where
  pktsNum : Nat
  pkts : List α
  failed : Bool

def PktsInfo.empty {α : Type} : PktsInfo α := ⟨0, [], false⟩

def PktsInfo.fail {α : Type} (info : PktsInfo α) : PktsInfo α := { info with failed := true }

def PktsInfo.add {α : Type} (info : PktsInfo α) (pkt : α) : PktsInfo α :=
  { info with pkts := info.pkts ++ [pkt], pktsNum := info.pktsNum + 1 }

def processOut (info : PktsInfo Nat) (pkt : CapturedPkt) : PktsInfo Nat :=
  if pkt.noted then info.add pkt.payload.length else info.fail

/-- The bytes of `htons()` of a value. -/
def typeBytes (lengthType : BitVec 32) : Bytes := [lengthType.extractLsb' 8 8, lengthType.extractLsb' 0 8]

/-- The buffer `process_in()` fills. -/
def frameOf (dst src : EthAddr) (lengthType : BitVec 32) (payload : Bytes) : Bytes :=
  dst.octets ++ src.octets ++ typeBytes lengthType ++ payload

def CapturedPkt.frame (pkt : CapturedPkt) : Except TeErrno Bytes := do
  pkt.payloadRead
  let dst ← pkt.dstAddr
  let src ← pkt.srcAddr
  let lengthType ← pkt.lengthType
  pure (frameOf dst src lengthType pkt.payload)

def fcsLen : Nat := 4
def dataOff : Nat := 14
def minPayloadLen : Nat := 46

def processIn (expectFcs : Bool) (info : PktsInfo PktInData) (pkt : CapturedPkt) : PktsInfo PktInData :=
  if ¬pkt.noted then info.fail
  else if expectFcs then
    match pkt.frame with
    | .error _ => info.fail
    | .ok buf =>
      let pktLen := pkt.payload.length + dataOff - fcsLen
      info.add ⟨pkt.payload.length, crc32 0 (buf.take pktLen), load .little 4 ((buf.drop pktLen).take 4)⟩
  else info.add ⟨pkt.payload.length, 0, 0⟩

def checkPkt (rxFcs : Bool) (pktOutLen : Nat) (pktIn : PktInData) : Except Jump Unit :=
  let paddedPktLen := max pktOutLen minPayloadLen
  if pktOutLen = pktIn.payloadLen ∨ paddedPktLen = pktIn.payloadLen then
    if rxFcs then .error (.verdict "No FCS was reported for a captured packet on IUT") else .ok ()
  else if (paddedPktLen : Int) = pktIn.payloadLen - fcsLen then
    if ¬rxFcs then .error (.verdict "rx-fcs is disabled but incoming packet has four extra bytes")
    else if pktIn.computedFcs ≠ pktIn.pktFcs then
      .error (.verdict "Computed FCS does not match the last four bytes of the incoming packet")
    else .ok ()
  else .error (.verdict "Length of outgoing packet on Tester does not match length of incoming packet on IUT")

def checkPkts (rxFcs : Bool) : List Nat → List PktInData → Except Jump Unit
  | pktOutLen :: outPkts, pktIn :: inPkts => do
    checkPkt rxFcs pktOutLen pktIn
    checkPkts rxFcs outPkts inPkts
  | _, _ => .ok ()

def checkTester (tester : List CapturedPkt) : Except Jump (PktsInfo Nat) :=
  let out := tester.foldl processOut .empty
  if out.failed then .error (.fail "Failed to process some packets on Tester")
  else if out.pktsNum = 0 then .error (.fail "Failed to capture any packets on Tester")
  else .ok out

def checkIut (rxFcs : Bool) (out : PktsInfo Nat) (iut : List CapturedPkt) : Except Jump Unit :=
  let in_ := iut.foldl (processIn rxFcs) .empty
  if in_.failed then .error (.fail "Failed to process some packets on IUT")
  else if in_.pktsNum = 0 then .error (.fail "Failed to capture any packets on IUT")
  else if in_.pktsNum ≠ out.pktsNum then
    .error (.fail "Numbers of packets captured by two CSAPs are different")
  else checkPkts rxFcs out.pkts in_.pkts

/-- The parameters of `rx_fcs` and what it gets from the agents. -/
structure Env where
  rxFcs : Bool
  smallFrame : Bool
  ipv6 : Bool
  stream : Bool
  feature : Feature
  timestamps : Except TeErrno Unit
  /-- `GEN_CONNECTION()`. -/
  connection : Except Jump Unit
  csapRx : Except TeErrno Unit
  startRx : Except TeErrno Unit
  csapTx : Except TeErrno Unit
  startTx : Except TeErrno Unit
  raw : Nat
  fill : Nat → Byte
  send : Except Jump Unit
  recv : Except Jump Bytes
  stopTx : Except TeErrno Unit
  tester : List CapturedPkt
  stopRx : Except TeErrno Unit
  iut : List CapturedPkt

section
variable (env : Env)

/-- `TAD_IP4_HDR_LEN` or `TAD_IP6_HDR_LEN`, and `TAD_TCP_HDR_LEN` or `TAD_UDP_HDR_LEN`. -/
def Env.hdrsLen : Nat := (if env.ipv6 then 40 else 20) + if env.stream then 20 else 8

def maxPktLen : Nat := 1024

/-- `min_len` and `max_len`. -/
def Env.lenBounds : Except Jump (Int × Int) :=
  if env.smallFrame then
    if env.ipv6 then .error (.fail "Impossible to send so small IPv6 TCP or UDP packet")
    else .ok (1, minPayloadLen - env.hdrsLen - 1)
  else
    let minLen : Int := minPayloadLen - env.hdrsLen
    .ok (if minLen ≤ 0 then 1 else minLen, maxPktLen)

def Env.lenRange : Except Jump (Int × Int) := do
  let range ← env.lenBounds
  if range.2 ≤ range.1 then .error (.fail "Cannot construct Ethernet frame with payload of requested length")
  else .ok range

def Env.noTimestamps : Except Jump Unit := if env.smallFrame then checked env.timestamps else .ok ()

def Env.sendLen (range : Int × Int) : Nat := randRange range.1.toNat range.2.toNat env.raw

/-- `te_fill_buf()`. -/
def Env.sendBuf (sendLen : Nat) : Bytes := (List.range sendLen).map env.fill

def Env.compare (sendBuf recvBuf : Bytes) : Except Jump Unit :=
  if recvBuf ≠ sendBuf then .error (.verdict "Data received on IUT does not match data sent from Tester") else .ok ()

/-- `main()`. -/
def rxFcs : Except Jump Unit := do
  setIfFeature env.feature "rx-fcs" (if env.rxFcs then 1 else 0)
  let range ← env.lenRange
  env.noTimestamps
  env.connection
  checked env.csapRx
  checked env.startRx
  checked env.csapTx
  checked env.startTx
  env.send
  let recvBuf ← env.recv
  Env.compare (env.sendBuf (env.sendLen range)) recvBuf
  checked env.stopTx
  let out ← checkTester env.tester
  checked env.stopRx
  checkIut env.rxFcs out env.iut

end

end NetDrv.RxFcs
