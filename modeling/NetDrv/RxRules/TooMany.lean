import NetDrv.Lib.ByteOrder
import NetDrv.Lib.Script
import NetDrv.Te

/-! `too_many_rx_rules()` of the agent: Rx classification rules are inserted for one
port pair after another until the driver refuses one, and then all of them are
deleted. One `ethtool_rxnfc` buffer serves all the requests; the driver answers in
its field `location`. -/

namespace NetDrv.RxRules
open Script ByteOrder

inductive Cmd where
  | srxclsrlins
  | srxclsrldel
  deriving DecidableEq, Repr

inductive FlowType where
  | udpV4
  | udpV6
  | tcpV4
  | tcpV6
  deriving DecidableEq, Repr

/-- `ethtool_tcpip4_spec` or `ethtool_tcpip6_spec`; the ports are in network byte order. -/
structure TcpipSpec where
  src : List Byte
  dst : List Byte
  psrc : BitVec (8 * 2)
  pdst : BitVec (8 * 2)
  deriving DecidableEq, Repr

/-- `ethtool_rxnfc`; a union that was zeroed is `none`. -/
structure Rxnfc where
  cmd : Cmd
  flowType : FlowType
  hU : Option TcpipSpec
  mU : Option TcpipSpec
  location : BitVec 32
  ringCookie : BitVec 64
  deriving DecidableEq, Repr

inductive Family where
  | inet
  | inet6
  deriving DecidableEq, Repr

/-- A converted address: its family and the bytes of its storage from the network address on. -/
structure SockAddr where
  family : Family
  storage : List Byte
  deriving DecidableEq, Repr

inductive SockType where
  | dgram
  | stream
  | other (code : Int)
  deriving DecidableEq, Repr

/-- `tarpc_net_drv_too_many_rx_rules_in`; the addresses are what `sockaddr_rpc2h()` makes of them. -/
structure RulesIn where
  srcAddr : Except TeError SockAddr
  dstAddr : Except TeError SockAddr
  sockType : SockType
  anyLocation : Bool

structure Host where
  endian : Endian
  /-- Whether `ETHTOOL_SRXCLSRLINS` is known. -/
  srxclsrlins : Bool

/-- A request and the answer to it: the location in the buffer afterwards, or an error. -/
structure Ioctl where
  rule : Rxnfc
  answer : Except TeError (BitVec 32)

/-- The driver, as it behaves in the `n`th request, and the random choice of a queue. A successful
insertion may write back another location. -/
structure Env where
  insert : Nat → List (BitVec 32) → Rxnfc → Except TeError (Option (BitVec 32))
  delete : Nat → Rxnfc → Option TeError
  randRange : Nat → BitVec 32

structure Agent where
  rule : Rxnfc
  /-- Locations of the rules the driver has. -/
  table : List (BitVec 32)
  log : List Ioctl
  rulesCount : BitVec 32
  location : BitVec 64
  addedRules : List (BitVec 32)
  addErrno : Option TeError
  result : Int
  error : Option RpcError

/-- `RX_CLS_LOC_ANY | RX_CLS_LOC_SPECIAL`. -/
def locAny : BitVec 64 := 0xffffffff ||| 0x80000000

abbrev RulesScript (ε : Type) := Script ε Agent

section
variable {ε : Type} (env : Env) (host : Host) (inp : RulesIn)

/-- `ioctl()` with the command `ETHTOOL_SRXCLSRLINS`. -/
def ioctlInsert : RulesScript ε (Except TeError (BitVec 32)) := fun w =>
  match env.insert w.log.length w.table w.rule with
  | .error errno => (.ok (.error errno), { w with log := w.log ++ [⟨w.rule, .error errno⟩] })
  | .ok written =>
    let location := written.getD w.rule.location
    (.ok (.ok location), { w with
      log := w.log ++ [⟨w.rule, .ok location⟩]
      table := w.table ++ [location]
      rule := { w.rule with location := location } })

/-- `ioctl()` with the command `ETHTOOL_SRXCLSRLDEL`. -/
def ioctlDelete : RulesScript ε (Option TeError) := fun w =>
  match env.delete w.log.length w.rule with
  | some errno => (.ok (some errno), { w with log := w.log ++ [⟨w.rule, .error errno⟩] })
  | none => (.ok none, { w with
      log := w.log ++ [⟨w.rule, .ok w.rule.location⟩]
      table := w.table.filter (· ≠ w.rule.location) })

def htons (port : Nat) : BitVec (8 * 2) := toNetwork host.endian (BitVec.ofNat (8 * 2) port)

def TcpipSpec.setPorts (srcPort dstPort : Nat) (spec : TcpipSpec) : TcpipSpec :=
  { spec with psrc := htons host srcPort, pdst := htons host dstPort }

def Rxnfc.prepare (location : BitVec 64) (queue : BitVec 32) (srcPort dstPort : Nat) (rule : Rxnfc) : Rxnfc :=
  { rule with
    location := location.setWidth 32
    ringCookie := queue.setWidth 64
    hU := rule.hU.map (TcpipSpec.setPorts host srcPort dstPort) }

/-- The body of the two nested loops; it stops with `goto finish`. -/
def insertRule (srcPort dstPort : Nat) : RulesScript Unit Unit := do
  update (fun w => { w with
    rule := w.rule.prepare host w.location (env.randRange w.log.length) srcPort dstPort })
  match ← ioctlInsert env with
  | .error errno => do
    update (fun w => { w with addErrno := some errno })
    fail ()
  | .ok realLoc => do
    update (fun w => { w with addedRules := w.addedRules ++ [realLoc], rulesCount := w.rulesCount + 1 })
    when (!inp.anyLocation) (update (fun w => { w with location := w.rulesCount.setWidth 64 }))

/-- `UINT16_MAX`. -/
def maxPort : Nat := 65535

def insertRules : RulesScript Unit Unit :=
  forEach (List.range' 1 maxPort) (fun srcPort =>
    forEach (List.range' 1 maxPort) (fun dstPort => insertRule env host inp srcPort dstPort))

def deleteRule (location : BitVec 32) : RulesScript ε Unit := do
  update (fun w => { w with rule := { w.rule with location := location } })
  match ← ioctlDelete env with
  | none => pure ()
  | some errno =>
    update (fun w => { w with
      error := some ⟨teRc .taUnix errno, "Failed to remove Rx rule"⟩
      result := -1 })

def deleteRules : RulesScript ε Unit := do
  update (fun w => { w with rule := { w.rule with hU := none, mU := none, cmd := .srxclsrldel } })
  let addedRules ← gets Agent.addedRules
  forEach addedRules (deleteRule env)

/-- Insertions up to the label `finish` and deletions after it. -/
def flood : RulesScript ε Unit := do
  let _ ← attempt (insertRules env host inp)
  deleteRules env

def flowType (sockType : SockType) (family : Family) : Option FlowType :=
  match sockType, family with
  | .dgram, .inet => some .udpV4
  | .dgram, .inet6 => some .udpV6
  | .stream, .inet => some .tcpV4
  | .stream, .inet6 => some .tcpV6
  | .other _, _ => none

/-- Number of bytes of an address that are copied into the rule. -/
def Family.addrLen : Family → Nat
  | .inet => 4
  | .inet6 => 16

/-- The mask and the header of the rule before the first insertion. -/
def initialRule (flow : FlowType) (src dst : SockAddr) : Rxnfc where
  cmd := .srxclsrlins
  flowType := flow
  mU := some ⟨List.replicate src.family.addrLen 0xff, List.replicate src.family.addrLen 0xff, 0xffff, 0xffff⟩
  hU := some ⟨src.storage.take src.family.addrLen, dst.storage.take src.family.addrLen, 0, 0⟩
  location := 0
  ringCookie := 0

/-- The agent before the first insertion, with a table that has the given rules. -/
def Agent.start (flow : FlowType) (src dst : SockAddr) (table : List (BitVec 32)) : Agent where
  rule := initialRule flow src dst
  table := table
  log := []
  rulesCount := 0
  location := if inp.anyLocation then locAny else 0
  addedRules := []
  addErrno := none
  result := 0
  error := none

/-- `tarpc_net_drv_too_many_rx_rules_out` and the requests the driver has seen. -/
structure RulesOut where
  rulesCount : BitVec 32
  addErrno : Option TeError
  retval : Int
  error : Option RpcError
  log : List Ioctl
  table : List (BitVec 32)

def RulesOut.refused (rc : TeError) (message : String) (table : List (BitVec 32)) : RulesOut :=
  ⟨0, none, -1, some ⟨teRc .taUnix rc, message⟩, [], table⟩

def tooManyRxRules (table : List (BitVec 32)) : RulesOut :=
  if host.srxclsrlins = false then .refused .eopnotsupp "ETHTOOL_SRXCLSRLINS is not supported" table
  else match inp.srcAddr with
  | .error err => .refused err "Failed to convert source address" table
  | .ok src =>
    match inp.dstAddr with
    | .error err => .refused err "Failed to convert destination address" table
    | .ok dst =>
      match flowType inp.sockType src.family with
      | none => .refused .epfnosupport "Not supported socket type" table
      | some flow =>
        let done := ((flood env host inp : RulesScript Unit Unit) (Agent.start inp flow src dst table)).2
        ⟨done.rulesCount, done.addErrno, done.result, done.error, done.log, done.table⟩

end
end NetDrv.RxRules
