import NetDrv.Lib.Ledger
import NetDrv.Lib.Script
import NetDrv.Te
import Mathlib.Algebra.Group.Nat.Defs
import Mathlib.Logic.Function.Basic

/-! AF_XDP sockets of `common_rss.c`. The agent keeps memory blocks, UMEMs over them
and sockets over those in one ledger; the structures of the test live at numbered
addresses. Every RPC is logged with its result. -/

namespace NetDrv.Xdp
open Script

def rpcNull : Nat := 0

/-- `net_drv_xdp_sock`. -/
structure XdpSock where
  queueId : Nat
  txCapable : Bool
  mem : Nat
  umem : Nat
  sock : Nat
  fd : Int
  deriving DecidableEq, Repr

def XdpSock.init : XdpSock := ⟨0, false, rpcNull, rpcNull, rpcNull, -1⟩

/-- `net_drv_xdp_sock` out of `tapi_calloc()`. -/
def XdpSock.zero : XdpSock := ⟨0, false, 0, 0, 0, 0⟩

/-- `net_drv_xdp_cfg`. -/
structure XdpCfg where
  frameLen : BitVec 32
  framesNum : BitVec 64
  rxFrames : BitVec 32
  fillSize : BitVec 32
  compSize : BitVec 32
  rxSize : BitVec 32
  txSize : BitVec 32
  bindFlags : BitVec 32
  deriving DecidableEq, Repr

/-- `NET_DRV_XDP_CFG_DEF`. -/
def XdpCfg.default : XdpCfg := ⟨1 <<< 12, 128, 64, 128, 128, 128, 128, 0⟩

structure UmemConfig where
  fillSize : BitVec 32
  compSize : BitVec 32
  frameSize : BitVec 32
  deriving DecidableEq, Repr

/-- The socket configuration; `RPC_XSK_LIBXDP_FLAGS__INHIBIT_PROG_LOAD` is always set in it. -/
structure SocketConfig where
  rxSize : BitVec 32
  txSize : BitVec 32
  bindFlags : BitVec 32
  deriving DecidableEq, Repr

def XdpCfg.umemConfig (cfg : XdpCfg) : UmemConfig := ⟨cfg.fillSize, cfg.compSize, cfg.frameLen⟩
def XdpCfg.socketConfig (cfg : XdpCfg) : SocketConfig := ⟨cfg.rxSize, cfg.txSize, cfg.bindFlags⟩

/-- Length of the memory for UMEM in `size_t`. -/
def XdpCfg.memLen (cfg : XdpCfg) : BitVec 64 := cfg.framesNum * cfg.frameLen.setWidth 64

inductive Rpc where
  | posixMemalign (alignment : BitVec 32) (len : BitVec 64)
  | umemCreate (mem : Nat) (len : BitVec 64) (conf : UmemConfig)
  | rxFillSimple (umem : Nat) (ifName : String) (queueId : Nat) (framesCnt : BitVec 32)
  | socketCreate (ifName : String) (queueId umem : Nat) (shared : Bool) (conf : SocketConfig)
  | mapSet (mapFd : Int) (key : Nat) (fd : Int)
  | socketDelete (sock : Nat)
  | umemDelete (umem : Nat)
  | free (mem : Nat)
  deriving DecidableEq, Repr

/-- The RPCs that release a UMEM or a socket and may fail. -/
def Rpc.deletes : Rpc → Bool
  | .socketDelete _ => true
  | .umemDelete _ => true
  | _ => false

/-- What an RPC returns and, if that is negative, its error. -/
structure Reply where
  result : Int
  errno : TeErrno
  deriving DecidableEq, Repr

structure Exchange where
  rpc : Rpc
  reply : Reply
  deriving DecidableEq, Repr

inductive Message where
  | queueNumbers (rc : TeErrno)
  | queueOutOfRange (queueId rxQueues : Nat)
  | rpcFailed (name : String) (errno : TeErrno)
  | noBuffers
  deriving DecidableEq, Repr

inductive Kind where
  | memory
  | umem
  | socket (queueId : Nat) (fd : Int)
  deriving DecidableEq, Repr

structure World where
  agent : Ledger Kind
  /-- XSK maps by their descriptors. -/
  map : Int → Nat → Option Int
  log : List Exchange
  messages : List Message
  /-- Number of reads of the channel configuration so far. -/
  reads : Nat
  heap : Nat → XdpSock
  /-- First address that was not allocated yet. -/
  top : Nat
  /-- Pointer variables of the test. -/
  socksOut : Nat → Option Nat

inductive Channel where
  | rx
  | tx
  | combined
  deriving DecidableEq, Repr

structure Env where
  reply : Nat → Rpc → Reply
  /-- `tapi_cfg_if_chan_cur_get()`. -/
  chanCurGet : Nat → Channel → Except TeErrno Int
  /-- Whether the result of an RPC is below zero in a variable of type `te_errno`. -/
  negative : Int → Bool
  nonnegative : ∀ result, negative result = true → result < 0

/-- Parameters of `net_drv_xdp_create_sock()` that all sockets of an array share. -/
structure Params where
  ifName : String
  cfg : XdpCfg
  mapFd : Int
  deriving DecidableEq, Repr

section
variable {ε : Type} (env : Env)

def readSock (addr : Nat) : Script ε World XdpSock := fun w => (.ok (w.heap addr), w)

def setSock (addr : Nat) (change : XdpSock → XdpSock) : Script ε World Unit := fun w =>
  (.ok (), { w with heap := Function.update w.heap addr (change (w.heap addr)) })

def print (message : Message) : Script ε World Unit := fun w =>
  (.ok (), { w with messages := w.messages ++ [message] })

def rpc (request : Rpc) (effect : Int → World → World) : Script ε World Reply := fun w =>
  let reply := env.reply w.log.length request
  (.ok reply, { effect reply.result w with log := w.log ++ [⟨request, reply⟩] })

/-- A creation RPC stores its handle at `addr`; a failed one leaves `RPC_NULL` there. -/
def rpcCreate (request : Rpc) (addr parent : Nat) (kind : Int → Kind) (store : XdpSock → Nat → XdpSock) :
    Script ε World Reply :=
  rpc env request (fun result w =>
    if result < 0 then w
    else { w with
      agent := w.agent.create parent (kind result)
      heap := Function.update w.heap addr (store (w.heap addr) w.agent.next) })

def rpcPosixMemalign (addr : Nat) (alignment : BitVec 32) (len : BitVec 64) : Script ε World Reply :=
  rpcCreate env (.posixMemalign alignment len) addr rpcNull (fun _ => .memory)
    (fun sock handle => { sock with mem := handle })

def rpcUmemCreate (addr mem : Nat) (len : BitVec 64) (conf : UmemConfig) : Script ε World Reply :=
  rpcCreate env (.umemCreate mem len conf) addr mem (fun _ => .umem)
    (fun sock handle => { sock with umem := handle })

/-- The result of `rpc_xsk_socket__create()` is the descriptor of the socket. -/
def rpcSocketCreate (addr : Nat) (ifName : String) (queueId umem : Nat) (conf : SocketConfig) :
    Script ε World Reply :=
  rpcCreate env (.socketCreate ifName queueId umem true conf) addr umem (fun fd => .socket queueId fd)
    (fun sock handle => { sock with sock := handle })

def rpcRxFillSimple (umem : Nat) (ifName : String) (queueId : Nat) (framesCnt : BitVec 32) :
    Script ε World Reply :=
  rpc env (.rxFillSimple umem ifName queueId framesCnt) (fun _ w => w)

def rpcMapSet (mapFd : Int) (key : Nat) (fd : Int) : Script ε World Reply :=
  rpc env (.mapSet mapFd key fd) (fun result w =>
    if result < 0 then w
    else { w with map := Function.update w.map mapFd (Function.update (w.map mapFd) key (some fd)) })

/-- `rpc_xsk_socket__delete()` and `rpc_xsk_umem__delete()`. -/
def rpcRelease (request : Rpc) (handle : Nat) : Script ε World Reply :=
  rpc env request (fun result w => { w with agent := w.agent.request handle (decide (0 ≤ result)) })

/-- `rpc_free()` cannot fail. -/
def rpcFree (mem : Nat) : Script ε World Unit := do
  let _ ← rpc env (.free mem) (fun _ w => { w with agent := w.agent.request mem true })
  pure ()

/-- `if (rc < 0)` in `net_drv_xdp_destroy_sock()`, where `rc` is a `te_errno`. -/
def checkDelete (name : String) (reply : Reply) : Script TeErrno World Unit :=
  if env.negative reply.result then do
    print (.rpcFailed name reply.errno)
    fail reply.errno
  else pure ()

/-- Release a UMEM or a socket, if there is one, and clear it in the structure. -/
def deleteStep (name : String) (request : Rpc) (handle addr : Nat) (clear : XdpSock → XdpSock) :
    Script TeErrno World Unit :=
  when (handle != rpcNull) (do
    let reply ← rpcRelease env request handle
    checkDelete env name reply
    setSock addr clear)

/-- `net_drv_xdp_destroy_sock()` up to the first delete that it takes for a failure. -/
def destroySteps (addr : Nat) : Script TeErrno World Unit := do
  let sock ← readSock addr
  deleteStep env "xsk_socket__delete()" (.socketDelete sock.sock) sock.sock addr
    (fun sock => { sock with sock := rpcNull, fd := -1, queueId := 0, txCapable := false })
  deleteStep env "xsk_umem__delete()" (.umemDelete sock.umem) sock.umem addr
    (fun sock => { sock with umem := rpcNull })
  when (sock.mem != rpcNull) (do
    rpcFree env sock.mem
    setSock addr (fun sock => { sock with mem := rpcNull }))

def destroySock (addr : Nat) : Script ε World (Option TeErrno) := do
  match ← attempt (destroySteps env addr) with
  | .ok _ => pure none
  | .error rc => pure (some rc)

def chanCurGet (channel : Channel) : Script TeErrno World Int := fun w =>
  (env.chanCurGet w.reads channel, { w with reads := w.reads + 1 })

/-- `net_drv_xdp_get_queues_num()`; the totals are of type `unsigned int`. -/
def getQueuesNum : Script TeErrno World (Nat × Nat) := do
  let rx ← chanCurGet env .rx
  let tx ← chanCurGet env .tx
  let combined ← chanCurGet env .combined
  if rx < 0 ∨ tx < 0 ∨ combined < 0 then fail (teRc .tapi .einval)
  else pure ((rx + combined).toNat % 2 ^ 32, (tx + combined).toNat % 2 ^ 32)

/-- A creation RPC failed: the verdict, and `goto cleanup`. -/
def checkCreate (name : String) (reply : Reply) : Script Unit World Unit :=
  if reply.result < 0 then do
    print (.rpcFailed name reply.errno)
    fail ()
  else pure ()

def memStep (params : Params) (addr : Nat) : Script Unit World Unit := do
  let reply ← rpcPosixMemalign env addr params.cfg.frameLen params.cfg.memLen
  checkCreate "posix_memalign()" reply

def umemStep (params : Params) (addr : Nat) : Script Unit World Unit := do
  let sock ← readSock addr
  let reply ← rpcUmemCreate env addr sock.mem params.cfg.memLen params.cfg.umemConfig
  checkCreate "xsk_umem__create()" reply

def fillStep (params : Params) (addr queueId : Nat) : Script Unit World Unit := do
  let sock ← readSock addr
  let reply ← rpcRxFillSimple env sock.umem params.ifName queueId params.cfg.rxFrames
  checkCreate "rpc_xsk_rx_fill_simple()" reply
  when (reply.result == 0) (do
    print .noBuffers
    fail ())

def socketStep (params : Params) (addr queueId : Nat) : Script Unit World Unit := do
  let sock ← readSock addr
  let reply ← rpcSocketCreate env addr params.ifName queueId sock.umem params.cfg.socketConfig
  checkCreate "xsk_socket__create()" reply
  setSock addr (fun sock => { sock with fd := reply.result })

def mapStep (params : Params) (addr queueId : Nat) : Script Unit World Unit := do
  let sock ← readSock addr
  let reply ← rpcMapSet env params.mapFd queueId sock.fd
  checkCreate "rpc_xsk_map_set()" reply

/-- `net_drv_xdp_create_sock()` from `posix_memalign()` to the label `cleanup`. -/
def createSteps (params : Params) (addr queueId : Nat) : Script Unit World Unit := do
  memStep env params addr
  umemStep env params addr
  fillStep env params addr queueId
  socketStep env params addr queueId
  mapStep env params addr queueId

/-- The steps and the code at the label `cleanup`. -/
def buildSock (params : Params) (addr queueId : Nat) : Script ε World (Option TeErrno) := do
  match ← attempt (createSteps env params addr queueId) with
  | .ok _ => pure none
  | .error _ => do
    let _ ← destroySock env addr
    pure (some TeError.efail)

def createSock (params : Params) (addr queueId : Nat) : Script ε World (Option TeErrno) := do
  setSock addr (fun _ => { XdpSock.init with queueId := queueId })
  match ← attempt (getQueuesNum env) with
  | .error rc => do
    print (.queueNumbers rc)
    pure (some rc)
  | .ok (rxQueues, txQueues) =>
    if rxQueues ≤ queueId then do
      print (.queueOutOfRange queueId rxQueues)
      pure (some (teRc .tapi .einval))
    else do
      setSock addr (fun sock => { sock with txCapable := queueId < txQueues })
      buildSock env params addr queueId

/-- What `TEST_STOP` throws. -/
inductive TestStop where
  | stop
  deriving DecidableEq, Repr

/-- The array at `base` becomes zero: it is fresh from `tapi_calloc()`, or it was freed and what
it held is lost. -/
def World.zeroed (w : World) (base num : Nat) : World :=
  { w with heap := fun addr => if base ≤ addr ∧ addr < base + num then .zero else w.heap addr }

def callocSocks (num : Nat) : Script ε World Nat := fun w =>
  (.ok w.top, { w.zeroed w.top num with top := w.top + num })

def freeSocks (base num : Nat) : Script ε World Unit := fun w => (.ok (), w.zeroed base num)

/-- The loop of `net_drv_xdp_create_socks()`; it stops with the index at which it failed. -/
def createEach (params : Params) (base socksNum : Nat) : Script Nat World Unit :=
  forEach (List.range socksNum) (fun i => do
    let rc ← createSock env params (base + i) i
    if rc.isSome then fail i else pure ())

/-- `net_drv_xdp_create_socks()`; `out` is the pointer variable `socks_out` refers to. -/
def createSocks (params : Params) (socksNum out : Nat) : Script TestStop World Unit := do
  let base ← callocSocks socksNum
  match ← attempt (createEach env params base socksNum) with
  | .ok _ => fun w => (.ok (), { w with socksOut := Function.update w.socksOut out (some base) })
  | .error i => do
    forEach (List.range i) (fun j => do
      let _ ← destroySock env (base + j)
      pure ())
    freeSocks base socksNum
    fail .stop

/-- The loop of `net_drv_xdp_destroy_socks()`; `res` keeps the first error. -/
def destroyEach (base : Nat) : List Nat → Option TeErrno → Script ε World (Option TeErrno)
  | [], res => pure res
  | i :: rest, res => do
    let rc ← destroySock env (base + i)
    destroyEach base rest (res.or rc)

def destroySocks (socks : Option Nat) (socksNum : Nat) : Script ε World (Option TeErrno) :=
  match socks with
  | none => pure none
  | some base => do
    let res ← destroyEach env base (List.range socksNum) none
    freeSocks base socksNum
    pure res

end
end NetDrv.Xdp
