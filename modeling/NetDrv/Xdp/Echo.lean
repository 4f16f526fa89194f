import NetDrv.Lib.Probe
import NetDrv.RxRules.Steering
import NetDrv.Xdp.Sock

/-! Echo over AF_XDP sockets: a UDP packet from the Tester is to come out of the socket of one Rx
queue, and the reply is to come back. The tests `af_xdp`, `af_xdp_rx_rule` and `af_xdp_two_rules`
are plans of such echoes. They are compared with a NIC that passes a packet to the socket of
the queue to which rules and RSS steer it. -/

namespace NetDrv.XdpEcho
open Script Probe Specific Steering Rss.PortSearch
open Xdp (XdpSock)
open Rss (checkRc wp_checkRc)

abbrev Bytes := List (BitVec 8)

/-- A jump to the cleanup, or `TEST_STOP` after an echo that failed, with its verdict if there was one. -/
inductive Stop where
  | jump (jump : Jump)
  | echo (verdict : Option String)
  deriving DecidableEq, Repr

structure XdpConf where
  rules : List Rule
  socks : List XdpSock

structure Packet where
  traffic : Traffic
  payload : Bytes

abbrev Events := BitVec 16

def rpcPollin : Events := 1

/-- What the RPCs of one echo return unless they jump. -/
structure Answers where
  sendto : Except Jump Int
  poll : Except Jump Nat
  revents : Nat → Events
  /-- `poll_event_rpc2str()`. -/
  eventsText : String
  recv : Except Jump Bytes
  /-- `te_ipstack_mirror_udp_packet()`. -/
  mirror : Except TeErrno Unit
  /-- Sending over the socket of an index, with the error as it is printed. -/
  xskSend : Nat → Except Jump (Except String Unit)
  readable : Except Jump Bool
  recvfrom : Except Jump Bytes
  recvAddr : NetAddr

def stopEcho {α : Type} (verdict : String) : Except Stop α := .error (.echo (some verdict))

def rpc {α : Type} (answer : Except Jump α) : Except Stop α := answer.mapError Stop.jump

/-- The socket for which `poll()` reports data, if it is the expected one. -/
def polledSock (socksNum expSock polled : Nat) (answers : Answers) : Except Stop Nat :=
  if polled = 0 then stopEcho "poll() did not report events for AF_XDP sockets"
  else if polled > 1 then stopEcho "poll() reported events for multiple AF_XDP sockets"
  else
    match (List.range socksNum).find? (fun i => answers.revents i ≠ 0) with
    | none => stopEcho "poll() returned positive number but all revents fields are zero"
    | some i =>
      if i ≠ expSock then stopEcho "poll() reported events for unexpected AF_XDP socket"
      else if answers.revents i ≠ rpcPollin then
        let text := answers.eventsText
        stopEcho s!"poll() reported unexpected events {text}"
      else .ok i

/-- The socket over which the reply is sent: the one that received, or else the first one that can send. -/
def sendSock (socks : List XdpSock) (i : Nat) : Option Nat :=
  if (socks[i]?).any XdpSock.txCapable then some i else socks.findIdx? XdpSock.txCapable

/-- What `net_drv_xdp_echo()` does with the reply. -/
def checkReply (packet : Packet) (answers : Answers) : Except Stop Unit := do
  if ¬(← rpc answers.readable) then stopEcho "UDP socket did not become readable after echo packet was sent to it"
  else if (← rpc answers.recvfrom) ≠ packet.payload then stopEcho "UDP socket got back unexpected data"
  else if answers.recvAddr ≠ packet.traffic.dst then
    stopEcho "Source address of received echo packet does not match destination address"
  else .ok ()

def sendReply (socks : List XdpSock) (i : Nat) (answers : Answers) : Except Stop Unit :=
  match sendSock socks i with
  | none => stopEcho "All AF_XDP sockets are RX-only"
  | some j =>
    match answers.xskSend j with
    | .error jump => .error (.jump jump)
    | .ok (.error err) => stopEcho s!"xsk_send_simple() failed with error {err}"
    | .ok (.ok ()) => .ok ()

/-- What `net_drv_xdp_echo()` does with the data from the AF_XDP socket. -/
def turnAround (socks : List XdpSock) (i : Nat) (packet : Packet) (answers : Answers) (received : Bytes) :
    Except Stop Unit :=
  if received.length ≤ packet.payload.length then stopEcho "AF_XDP socket received too few bytes"
  else
    match answers.mirror with
    | .error _ => .error (.echo none)
    | .ok () => do
      sendReply socks i answers
      checkReply packet answers

def xdpEcho (socks : List XdpSock) (expSock : Nat) (packet : Packet) (answers : Answers) : Except Stop Unit := do
  if (← rpc answers.sendto) ≠ packet.payload.length then
    .error (.jump (.fail "sendto() returned unexpected number"))
  else
    let polled ← rpc answers.poll
    let i ← polledSock socks.length expSock polled answers
    let received ← rpc answers.recv
    turnAround socks i packet answers received

/-- The reply goes out over the receiving socket, or over the first that can send if that one cannot. -/
structure ReplySock (socks : List XdpSock) (i j : Nat) : Prop where
  capable : ∃ sock, socks[j]? = some sock ∧ sock.txCapable = true
  preferred : (∃ sock, socks[i]? = some sock ∧ sock.txCapable = true) → j = i
  first : j ≠ i → ∀ k < j, ∀ sock, socks[k]? = some sock → sock.txCapable = false

/-- The echo of the reference NIC: the packet comes out of the socket of its queue, and nowhere else. -/
structure Echoed (rss : NetAddr → NetAddr → UInt32) (conf : XdpConf) (packet : Packet) (answers : Answers) : Prop where
  sent : answers.sendto = .ok packet.payload.length
  polled : answers.poll = .ok 1
  received : ∃ i sock j, conf.socks[i]? = some sock ∧ sock.queueId = (steer rss conf.rules packet.traffic).toNat ∧
    answers.revents i = rpcPollin ∧ (∀ k < i, answers.revents k = 0) ∧ ReplySock conf.socks i j ∧
    answers.xskSend j = .ok (.ok ())
  longer : ∃ received, answers.recv = .ok received ∧ packet.payload.length < received.length
  mirrored : answers.mirror = .ok ()
  readable : answers.readable = .ok true
  data : answers.recvfrom = .ok packet.payload
  source : answers.recvAddr = packet.traffic.dst

theorem any_txCapable {socks : List XdpSock} {i : Nat} :
    (socks[i]?).any XdpSock.txCapable = true ↔ ∃ sock, socks[i]? = some sock ∧ sock.txCapable = true := by
  cases socks[i]? with
  | none => simp
  | some sock => simp

theorem sendSock_iff (socks : List XdpSock) (i j : Nat) : sendSock socks i = some j ↔ ReplySock socks i j := by
  unfold sendSock
  split
  next own =>
    have here := any_txCapable.mp own
    constructor
    · intro same
      obtain rfl : i = j := Option.some.inj same
      exact ⟨here, fun _ => rfl, fun wrong => absurd rfl wrong⟩
    · intro reply
      rw [reply.preferred here]
  next other =>
    have none : ¬∃ sock, socks[i]? = some sock ∧ sock.txCapable = true := fun here => other (any_txCapable.mpr here)
    rw [List.findIdx?_eq_some_iff_getElem]
    constructor
    · intro ⟨below, capable, before⟩
      refine ⟨⟨socks[j], List.getElem?_eq_getElem below, capable⟩, fun here => absurd here none, ?_⟩
      intro _ k early sock found
      obtain ⟨inside, rfl⟩ := List.getElem?_eq_some_iff.mp found
      exact Bool.eq_false_iff.mpr (before k early)
    · intro reply
      obtain ⟨sock, found, capable⟩ := reply.capable
      obtain ⟨below, rfl⟩ := List.getElem?_eq_some_iff.mp found
      refine ⟨below, capable, fun k early => ?_⟩
      have different : j ≠ i := by
        rintro rfl
        exact none reply.capable
      exact Bool.eq_false_iff.mp (reply.first different k early _ (List.getElem?_eq_getElem (by omega)))

theorem rpc_ok_iff {α : Type} {answer : Except Jump α} {a : α} : rpc answer = .ok a ↔ answer = .ok a := by
  cases answer with
  | error jump => exact iff_of_false (fun wrong => nomatch wrong) (fun wrong => nomatch wrong)
  | ok b => exact Iff.of_eq (by simp [rpc, Except.mapError])

theorem polledSock_ok_iff (socksNum expSock polled : Nat) (answers : Answers) (i : Nat) :
    polledSock socksNum expSock polled answers = .ok i ↔ i = expSock ∧ expSock < socksNum ∧ polled = 1 ∧
      answers.revents expSock = rpcPollin ∧ ∀ k < expSock, answers.revents k = 0 := by
  unfold polledSock stopEcho
  constructor
  · intro passed
    split at passed
    next => cases passed
    next some =>
      split at passed
      next => cases passed
      next single =>
        split at passed
        next => cases passed
        next first found =>
          obtain ⟨-, inside, before⟩ := List.find?_range_eq_some.mp found
          split at passed
          next => cases passed
          next expected =>
            obtain rfl : first = expSock := not_not.mp expected
            split at passed
            next => cases passed
            next events =>
              refine ⟨(Except.ok.inj passed).symm, List.mem_range.mp inside, by omega, not_not.mp events, ?_⟩
              intro k early
              simpa using before k early
  · rintro ⟨rfl, below, one, events, before⟩
    have found : (List.range socksNum).find? (fun k => answers.revents k ≠ 0) = some i := by
      apply List.find?_range_eq_some.mpr
      refine ⟨?_, List.mem_range.mpr below, fun k early => by simp [before k early]⟩
      rw [events]
      decide
    rw [if_neg (by omega), if_neg (by omega), found]
    dsimp only
    rw [if_neg (not_not.mpr rfl), if_neg (not_not.mpr events)]

theorem sendReply_ok_iff (socks : List XdpSock) (i : Nat) (answers : Answers) :
    sendReply socks i answers = .ok () ↔ ∃ j, ReplySock socks i j ∧ answers.xskSend j = .ok (.ok ()) := by
  unfold sendReply stopEcho
  constructor
  · intro passed
    split at passed
    next => cases passed
    next j chosen =>
      split at passed
      next => cases passed
      next => cases passed
      next sent => exact ⟨j, (sendSock_iff socks i j).mp chosen, sent⟩
  · rintro ⟨j, reply, sent⟩
    rw [(sendSock_iff socks i j).mpr reply]
    dsimp only
    rw [sent]

theorem checkReply_ok_iff (packet : Packet) (answers : Answers) :
    checkReply packet answers = .ok () ↔ answers.readable = .ok true ∧ answers.recvfrom = .ok packet.payload ∧
      answers.recvAddr = packet.traffic.dst := by
  unfold checkReply stopEcho
  rw [bind_ok_iff]
  constructor
  · rintro ⟨readable, asked, passed⟩
    split at passed
    next => cases passed
    next isReadable =>
      obtain ⟨received, data, passed⟩ := bind_ok_iff.mp passed
      split at passed
      next => cases passed
      next same =>
        split at passed
        next => cases passed
        next source =>
          have yes : readable = true := not_not.mp isReadable
          exact ⟨yes ▸ rpc_ok_iff.mp asked, not_not.mp same ▸ rpc_ok_iff.mp data, not_not.mp source⟩
  · rintro ⟨readable, data, source⟩
    refine ⟨true, rpc_ok_iff.mpr readable, ?_⟩
    rw [if_neg (not_not.mpr rfl), bind_ok_iff]
    refine ⟨packet.payload, rpc_ok_iff.mpr data, ?_⟩
    rw [if_neg (not_not.mpr rfl), if_neg (not_not.mpr source)]

theorem turnAround_ok_iff (socks : List XdpSock) (i : Nat) (packet : Packet) (answers : Answers) (received : Bytes) :
    turnAround socks i packet answers received = .ok () ↔ packet.payload.length < received.length ∧
      answers.mirror = .ok () ∧ (∃ j, ReplySock socks i j ∧ answers.xskSend j = .ok (.ok ())) ∧
      answers.readable = .ok true ∧ answers.recvfrom = .ok packet.payload ∧ answers.recvAddr = packet.traffic.dst := by
  unfold turnAround stopEcho
  split
  next short => exact iff_of_false (fun wrong => nomatch wrong) (fun wrong => absurd wrong.1 (by omega))
  next long =>
    rw [and_iff_right (show packet.payload.length < received.length by omega)]
    cases answers.mirror with
    | error rc => exact iff_of_false (fun wrong => nomatch wrong) (fun wrong => nomatch wrong.1)
    | ok _ =>
      rw [and_iff_right rfl]
      dsimp only
      rw [seq_ok_iff, sendReply_ok_iff, checkReply_ok_iff]

/-- The socket that is expected is the only one for its queue. -/
structure ForQueue (conf : XdpConf) (expSock : Nat) (queueId : Nat) : Prop where
  socket : ∃ sock, conf.socks[expSock]? = some sock ∧ sock.queueId = queueId
  only : ∀ i sock, conf.socks[i]? = some sock → sock.queueId = queueId → i = expSock

/-- An echo succeeds if and only if it is that of the reference NIC, provided that the expected socket is the
one for the queue of the packet. -/
theorem xdpEcho_exact {rss : NetAddr → NetAddr → UInt32} (conf : XdpConf) {expSock : Nat} {packet : Packet}
    (expected : ForQueue conf expSock (steer rss conf.rules packet.traffic).toNat) (answers : Answers) :
    xdpEcho conf.socks expSock packet answers = .ok () ↔ Echoed rss conf packet answers := by
  unfold xdpEcho
  rw [bind_ok_iff]
  constructor
  · rintro ⟨sent, sending, passed⟩
    split at passed
    next => cases passed
    next whole =>
      obtain ⟨polled, polling, judged⟩ := bind_ok_iff.mp passed
      obtain ⟨i, found, taken⟩ := bind_ok_iff.mp judged
      obtain ⟨received, receiving, turned⟩ := bind_ok_iff.mp taken
      obtain ⟨rfl, below, rfl, events, before⟩ := (polledSock_ok_iff _ _ _ _ _).mp found
      obtain ⟨longer, mirrored, ⟨j, reply, sentBack⟩, readable, data, source⟩ := (turnAround_ok_iff _ _ _ _ _).mp turned
      obtain ⟨sock, here, queue⟩ := expected.socket
      exact ⟨not_not.mp whole ▸ rpc_ok_iff.mp sending, rpc_ok_iff.mp polling,
        ⟨i, sock, j, here, queue, events, before, reply, sentBack⟩, ⟨received, rpc_ok_iff.mp receiving, longer⟩, mirrored,
        readable, data, source⟩
  · intro echoed
    obtain ⟨i, sock, j, found, queue, events, before, reply, sentBack⟩ := echoed.received
    obtain ⟨received, receiving, longer⟩ := echoed.longer
    obtain rfl : i = expSock := expected.only i sock found queue
    obtain ⟨below, -⟩ := List.getElem?_eq_some_iff.mp found
    refine ⟨packet.payload.length, rpc_ok_iff.mpr echoed.sent, ?_⟩
    rw [if_neg (not_not.mpr rfl), bind_ok_iff]
    refine ⟨1, rpc_ok_iff.mpr echoed.polled, bind_ok_iff.mpr ⟨i, ?_, bind_ok_iff.mpr ⟨received, ?_, ?_⟩⟩⟩
    · exact (polledSock_ok_iff _ _ _ _ _).mpr ⟨rfl, below, rfl, events, before⟩
    · exact rpc_ok_iff.mpr receiving
    · exact (turnAround_ok_iff _ _ _ _ _).mpr
        ⟨longer, echoed.mirrored, ⟨j, reply, sentBack⟩, echoed.readable, echoed.data, echoed.source⟩

abbrev XdpStep := Step Stop Empty XdpConf Packet Answers

structure Bench where
  flow : Flow
  iutAddr : NetAddr
  tstAddr : NetAddr
  rc : Nat → Except Stop Unit
  payload : Nat → Bytes

/-- One attempt of `af_xdp` to find a port for a queue. -/
def tryQueuePort (search : Env) (tstAddr : NetAddr) (queue : Nat) (j : Nat) : Script Jump NetAddr Bool := do
  update (fun dst => dst.setPort (htons (search.randomPort j .iut)))
  let dst ← gets id
  let queueId ← checkRc (search.predict j tstAddr dst)
  pure (queueId.toNat == queue)

@[irreducible] def maxChangePortAttempts : Nat := 100000

def findQueuePort (search : Env) (iutAddr tstAddr : NetAddr) (queue : Nat) : Except Jump Unit × NetAddr :=
  attemptLoop maxChangePortAttempts (tryQueuePort search tstAddr queue) s!"Failed to find a port matching queue {queue}"
    (iutAddr.setPort 0)

section
variable (bench : Bench)

def Bench.step (apply : XdpConf → XdpConf) : XdpStep := .change bench.rc apply

/-- `TEST_FAIL` if there are too few Rx queues. -/
def needQueues (rxQueues least : Nat) (message : String) : XdpStep :=
  .change (fun _ => if rxQueues < least then .error (.jump (.fail message)) else .ok ()) id

/-- `net_drv_xdp_echo()` with a packet to an address of the IUT. -/
def Bench.echo (socks : List XdpSock) (expSock : Nat) (dst : NetAddr) (payload : Bytes) : XdpStep :=
  let packet : Packet := ⟨⟨bench.flow, bench.tstAddr, dst⟩, payload⟩
  .check packet (xdpEcho socks expSock packet)

/-- The loop of `af_xdp` over the queues. -/
def Bench.echoes (search : Nat → Env) (socks : List XdpSock) : List Nat → List XdpStep
  | [] => []
  | i :: rest =>
    match findQueuePort (search i) bench.iutAddr bench.tstAddr i with
    | (.error jump, _) => [.change (fun _ => .error (.jump jump)) id]
    | (.ok (), dst) => bench.echo socks i dst (bench.payload i) :: Bench.echoes search socks rest

def withSock (sock : XdpSock) (conf : XdpConf) : XdpConf := { conf with socks := conf.socks ++ [sock] }

def withRule (rule : Rule) (conf : XdpConf) : XdpConf := { conf with rules := conf.rules ++ [rule] }

end

/-- The three tests, with what they choose; sockets are bound to the queues they were created for. -/
inductive XdpTest where
  | afXdp (search : Nat → Env) (socks : List XdpSock)
      (bound : socks.map XdpSock.queueId = List.range socks.length)
  | afXdpRxRule (rxQueues : Nat) (location : Location) (ruleQueue : UInt32) (sock : XdpSock)
      (bound : sock.queueId = ruleQueue.toNat)
  | afXdpTwoRules (rxQueues : Nat) (first second : Env) (location1 location2 : Location)
      (queue1 queue2 : UInt32) (different : queue1 ≠ queue2) (sock1 sock2 : XdpSock)
      (bound1 : sock1.queueId = queue1.toNat) (bound2 : sock2.queueId = queue2.toNat)

/-- The test goes on with the two addresses that were found. -/
def withAddrs (chosen : Except Jump (NetAddr × NetAddr)) (rest : NetAddr → NetAddr → List XdpStep) : List XdpStep :=
  match chosen with
  | .error jump => [.change (fun _ => .error (.jump jump)) id]
  | .ok (iutAddr1, iutAddr2) => rest iutAddr1 iutAddr2

/-- What `af_xdp_two_rules` does once it has the two addresses. -/
def Bench.twoRulesRest (bench : Bench) (location1 location2 : Location) (queue1 queue2 : UInt32) (sock1 sock2 : XdpSock)
    (iutAddr1 iutAddr2 : NetAddr) : List XdpStep :=
  [bench.step id, bench.step (withSock sock1), bench.step (withSock sock2),
    bench.step (withRule ⟨location1, bench.flow, some bench.tstAddr, some iutAddr1, queue1⟩),
    bench.step (withRule ⟨location2, bench.flow, some bench.tstAddr, some iutAddr2, queue2⟩)] ++
  List.replicate 2 (bench.step id) ++
  [bench.echo [sock1, sock2] 0 iutAddr1 (bench.payload 0), bench.echo [sock1, sock2] 1 iutAddr2 (bench.payload 1)]

/-- The steps of the tests. What comes before the sockets and rules are calls that change nothing here:
the size of the Rx ring, the socket of the Tester, the RSS context, the BPF program and its map, and in
`af_xdp` the indirection table, in `af_xdp_rx_rule` the prediction. -/
def XdpTest.steps (bench : Bench) : XdpTest → List XdpStep
  | .afXdp search socks _ =>
    List.replicate 8 (bench.step id) ++ [bench.step (fun conf => { conf with socks := socks })] ++
    List.replicate 2 (bench.step id) ++ bench.echoes search socks (List.range socks.length)
  | .afXdpRxRule rxQueues location ruleQueue sock _ =>
    List.replicate 6 (bench.step id) ++ [needQueues rxQueues 2 "No alternative Rx queue is available"] ++
    [bench.step (withRule ⟨location, bench.flow, some bench.tstAddr, some bench.iutAddr, ruleQueue⟩)] ++
    List.replicate 2 (bench.step id) ++ [bench.step (withSock sock)] ++
    [bench.echo [sock] 0 bench.iutAddr (bench.payload 0)]
  | .afXdpTwoRules rxQueues first second location1 location2 queue1 queue2 _ sock1 sock2 _ _ =>
    List.replicate 2 (bench.step id) ++ [needQueues rxQueues 2 "At least two Rx queues should be available"] ++
    List.replicate 2 (bench.step id) ++
    withAddrs (chooseIutAddrs first second bench.iutAddr bench.tstAddr queue1 queue2)
      (bench.twoRulesRest location1 location2 queue1 queue2 sock1 sock2)

/-- What makes the choices of a test what they are meant to be: the predictions are right, and the two calls of
`get_iut_addr()` do not end with one address, which their check of the port does not rule out. -/
def XdpTest.Fits (bench : Bench) (rss : NetAddr → NetAddr → UInt32) : XdpTest → Prop
  | .afXdp search _ _ =>
    ∀ i j dst queueId, (search i).predict j bench.tstAddr dst = .ok queueId → queueId = rss bench.tstAddr dst
  | .afXdpRxRule .. => True
  | .afXdpTwoRules _ first second _ _ queue1 queue2 _ _ _ _ _ =>
    ∀ iutAddr1 iutAddr2, chooseIutAddrs first second bench.iutAddr bench.tstAddr queue1 queue2 =
      .ok (iutAddr1, iutAddr2) → iutAddr1 ≠ iutAddr2

section
variable {bench : Bench} {rss : NetAddr → NetAddr → UInt32}

theorem findQueuePort_steers {search : Env} {iutAddr tstAddr dst : NetAddr} {queue : Nat}
    (predicts : ∀ j dst queueId, search.predict j tstAddr dst = .ok queueId → queueId = rss tstAddr dst)
    (run : findQueuePort search iutAddr tstAddr queue = (.ok (), dst)) : (rss tstAddr dst).toNat = queue := by
  apply attemptLoop_success (fun dst => (rss tstAddr dst).toNat = queue) _ run
  intro j u
  unfold tryQueuePort
  rw [wp_bind, wp_update, wp_bind, wp_gets, wp_bind, wp_checkRc, id]
  cases predicted : search.predict j tstAddr (u.setPort (htons (search.randomPort j .iut))) with
  | error rc => trivial
  | ok queueId =>
    intro found
    change (queueId.toNat == queue) = true at found
    rw [beq_iff_eq, predicts _ _ _ predicted] at found
    exact found

theorem forQueue_numbered {socks : List XdpSock} (bound : socks.map XdpSock.queueId = List.range socks.length)
    (rules : List Rule) {i : Nat} (below : i < socks.length) : ForQueue ⟨rules, socks⟩ i i := by
  have numbered : ∀ (k : Nat) (sock : XdpSock), socks[k]? = some sock → sock.queueId = k := by
    intro k sock found
    have here : (socks.map XdpSock.queueId)[k]? = some sock.queueId := by rw [List.getElem?_map, found]; rfl
    obtain ⟨inside, -⟩ := List.getElem?_eq_some_iff.mp found
    rw [bound, List.getElem?_range inside] at here
    exact (Option.some.inj here).symm
  constructor
  · exact ⟨socks[i], List.getElem?_eq_getElem below, numbered i _ (List.getElem?_eq_getElem below)⟩
  · intro k sock found queue
    rw [← queue, numbered k sock found]

theorem echoes_sound {search : Nat → Env} {socks : List XdpSock}
    (bound : socks.map XdpSock.queueId = List.range socks.length)
    (predicts : ∀ i j dst queueId, (search i).predict j bench.tstAddr dst = .ok queueId → queueId = rss bench.tstAddr dst)
    (queues : List Nat) (inside : ∀ i ∈ queues, i < socks.length) :
    Sound (Echoed rss) silent (bench.echoes search socks queues) ⟨[], socks⟩ := by
  induction queues with
  | nil => trivial
  | cons i rest ih =>
    unfold Bench.echoes
    split
    next => trivial
    next dst found =>
      refine ⟨?_, ih (fun k member => inside k (List.mem_cons_of_mem i member))⟩
      have queue : (steer rss [] ⟨bench.flow, bench.tstAddr, dst⟩).toNat = i := findQueuePort_steers (predicts i) found
      refine check_exact (xdpEcho_exact ⟨[], socks⟩ ?_)
      change ForQueue _ _ (steer rss [] ⟨bench.flow, bench.tstAddr, dst⟩).toNat
      rw [queue]
      exact forQueue_numbered bound [] (inside i List.mem_cons_self)

theorem steer_rule {rules : List Rule} (rule : Rule) {src dst : NetAddr} {flow : Flow} (member : rule ∈ rules)
    (names : rule.flow = flow ∧ rule.src = some src ∧ rule.dst = some dst)
    (only : ∀ other ∈ rules, other ≠ rule → other.dst ≠ some dst ∧ other.dst.isSome = true) :
    steer rss rules ⟨flow, src, dst⟩ = rule.queue := by
  have decides : decisive Rule.applies Rule.weight rules ⟨flow, src, dst⟩ = some rule := by
    apply decisive_eq_some member
    · simp [Rule.applies, names]
    · intro other present applies different
      obtain ⟨apart, names⟩ := only other present different
      obtain ⟨end_, named⟩ := Option.isSome_iff_exists.mp names
      simp only [Rule.applies, named, Option.all_some, Bool.and_eq_true, beq_iff_eq] at applies
      rw [named, applies.2] at apart
      exact absurd rfl apart
  rw [steer, decides]

theorem steer_single (location : Location) (flow : Flow) (src dst : NetAddr) (queue : UInt32) :
    steer rss [⟨location, flow, some src, some dst, queue⟩] ⟨flow, src, dst⟩ = queue := by
  apply steer_rule ⟨location, flow, some src, some dst, queue⟩ List.mem_cons_self ⟨rfl, rfl, rfl⟩
  intro other member different
  exact absurd (List.mem_singleton.mp member) different

variable (rss) in
theorem steer_both (location1 location2 : Location) (flow : Flow) (src : NetAddr) {dst1 dst2 : NetAddr} (apart : dst1 ≠ dst2)
    (queue1 queue2 : UInt32) :
    let rules : List Rule := [⟨location1, flow, some src, some dst1, queue1⟩, ⟨location2, flow, some src, some dst2, queue2⟩]
    steer rss rules ⟨flow, src, dst1⟩ = queue1 ∧ steer rss rules ⟨flow, src, dst2⟩ = queue2 := by
  intro rules
  constructor
  · apply steer_rule ⟨location1, flow, some src, some dst1, queue1⟩ List.mem_cons_self ⟨rfl, rfl, rfl⟩
    intro other member different
    rcases List.mem_pair.mp member with rfl | rfl
    · exact absurd rfl different
    · exact ⟨fun same => apart (Option.some.inj same).symm, rfl⟩
  · apply steer_rule ⟨location2, flow, some src, some dst2, queue2⟩ (List.mem_pair.mpr (.inr rfl)) ⟨rfl, rfl, rfl⟩
    intro other member different
    rcases List.mem_pair.mp member with rfl | rfl
    · exact ⟨fun same => apart (Option.some.inj same), rfl⟩
    · exact absurd rfl different

theorem forQueue_pair (rules : List Rule) {sock1 sock2 : XdpSock} (different : sock1.queueId ≠ sock2.queueId) :
    ForQueue ⟨rules, [sock1, sock2]⟩ 0 sock1.queueId ∧ ForQueue ⟨rules, [sock1, sock2]⟩ 1 sock2.queueId := by
  have each : ∀ (i : Nat) (sock : XdpSock), [sock1, sock2][i]? = some sock → i = 0 ∧ sock1 = sock ∨ i = 1 ∧ sock2 = sock := by
    intro i sock found
    match i with
    | 0 => exact .inl ⟨rfl, Option.some.inj found⟩
    | 1 => exact .inr ⟨rfl, Option.some.inj found⟩
    | _ + 2 => cases found
  refine ⟨⟨⟨sock1, rfl, rfl⟩, ?_⟩, ⟨⟨sock2, rfl, rfl⟩, ?_⟩⟩
  · intro i sock found queue
    rcases each i sock found with ⟨zero, -⟩ | ⟨-, rfl⟩
    · exact zero
    · exact absurd queue.symm different
  · intro i sock found queue
    rcases each i sock found with ⟨-, rfl⟩ | ⟨one, -⟩
    · exact absurd queue different
    · exact one

theorem twoRulesRest_sound (location1 location2 : Location) {queue1 queue2 : UInt32} (different : queue1 ≠ queue2)
    {sock1 sock2 : XdpSock} (bound1 : sock1.queueId = queue1.toNat) (bound2 : sock2.queueId = queue2.toNat)
    {iutAddr1 iutAddr2 : NetAddr} (apart : iutAddr1 ≠ iutAddr2) :
    Sound (Echoed rss) silent
      (bench.twoRulesRest location1 location2 queue1 queue2 sock1 sock2 iutAddr1 iutAddr2) ⟨[], []⟩ := by
  let rule1 : Rule := ⟨location1, bench.flow, some bench.tstAddr, some iutAddr1, queue1⟩
  let rule2 : Rule := ⟨location2, bench.flow, some bench.tstAddr, some iutAddr2, queue2⟩
  let conf : XdpConf := ⟨[rule1, rule2], [sock1, sock2]⟩
  obtain ⟨first, second⟩ : steer rss conf.rules ⟨bench.flow, bench.tstAddr, iutAddr1⟩ = queue1 ∧
      steer rss conf.rules ⟨bench.flow, bench.tstAddr, iutAddr2⟩ = queue2 :=
    steer_both rss location1 location2 bench.flow bench.tstAddr apart queue1 queue2
  have queues : sock1.queueId ≠ sock2.queueId := by
    rw [bound1, bound2]
    exact fun same => different (UInt32.toNat_inj.mp same)
  have sockets := forQueue_pair conf.rules queues
  unfold Bench.twoRulesRest
  simp only [sound_append, reach_append]
  refine ⟨⟨trivial, trivial⟩, ?_, ?_, trivial⟩
  · refine check_exact (xdpEcho_exact conf ?_)
    change ForQueue _ _ (steer rss conf.rules ⟨bench.flow, bench.tstAddr, iutAddr1⟩).toNat
    rw [first, ← bound1]
    exact sockets.1
  · refine check_exact (xdpEcho_exact conf ?_)
    change ForQueue _ _ (steer rss conf.rules ⟨bench.flow, bench.tstAddr, iutAddr2⟩).toNat
    rw [second, ← bound2]
    exact sockets.2

theorem xdpTest_sound (test : XdpTest) (fits : test.Fits bench rss) :
    Sound (Echoed rss) silent (test.steps bench) ⟨[], []⟩ := by
  cases test with
  | afXdp search socks bound =>
    unfold XdpTest.steps
    simp only [sound_append, reach_append]
    refine ⟨⟨⟨trivial, trivial⟩, trivial⟩, ?_⟩
    exact echoes_sound bound fits _ (fun i member => List.mem_range.mp member)
  | afXdpRxRule rxQueues location ruleQueue sock bound =>
    let rule : Rule := ⟨location, bench.flow, some bench.tstAddr, some bench.iutAddr, ruleQueue⟩
    unfold XdpTest.steps
    simp only [sound_append, reach_append]
    refine ⟨⟨⟨⟨⟨trivial, trivial⟩, trivial⟩, trivial⟩, trivial⟩, ?_, trivial⟩
    refine check_exact (xdpEcho_exact ⟨[rule], [sock]⟩ ?_)
    change ForQueue _ _ (steer rss [rule] ⟨bench.flow, bench.tstAddr, bench.iutAddr⟩).toNat
    rw [steer_single]
    refine ⟨⟨sock, rfl, bound⟩, ?_⟩
    intro i found here _
    have below := (List.getElem?_eq_some_iff.mp here).1
    simpa using below
  | afXdpTwoRules rxQueues first second location1 location2 queue1 queue2 different sock1 sock2 bound1 bound2 =>
    unfold XdpTest.steps
    simp only [sound_append, reach_append]
    refine ⟨⟨⟨trivial, trivial⟩, trivial⟩, ?_⟩
    cases chosen : chooseIutAddrs first second bench.iutAddr bench.tstAddr queue1 queue2 with
    | error jump => trivial
    | ok addrs => exact twoRulesRest_sound location1 location2 different bound1 bound2 (fits addrs.1 addrs.2 chosen)

def XdpTest.queues : XdpTest → List Nat
  | .afXdp _ socks _ => List.range socks.length
  | .afXdpRxRule _ _ ruleQueue _ _ => [ruleQueue.toNat]
  | .afXdpTwoRules _ _ _ _ _ queue1 queue2 _ _ _ _ _ => [queue1.toNat, queue2.toNat]

def queueOf (rss : NetAddr → NetAddr → UInt32) (conf : XdpConf) (packet : Packet) : Nat :=
  (steer rss conf.rules packet.traffic).toNat

theorem echoes_queues {search : Nat → Env} {socks : List XdpSock}
    (predicts : ∀ i j dst queueId, (search i).predict j bench.tstAddr dst = .ok queueId → queueId = rss bench.tstAddr dst)
    (queues : List Nat) (possible : ∀ step ∈ bench.echoes search socks queues, step.Possible) :
    (trace (bench.echoes search socks queues) ⟨[], socks⟩).map (fun pair => queueOf rss pair.1 pair.2) = queues := by
  induction queues with
  | nil => rfl
  | cons i rest ih =>
    unfold Bench.echoes at possible ⊢
    split at possible
    next jump _ _ =>
      obtain ⟨moment, accepted⟩ := possible _ List.mem_cons_self
      cases accepted
    next dst found =>
      have here : (rss bench.tstAddr dst).toNat = i := findQueuePort_steers (predicts i) found
      have later := ih (fun step member => possible step (List.mem_cons_of_mem _ member))
      exact congrArg₂ List.cons here later

theorem steps_queues (test : XdpTest) (fits : test.Fits bench rss)
    (possible : ∀ step ∈ test.steps bench, step.Possible) :
    (trace (test.steps bench) ⟨[], []⟩).map (fun pair => queueOf rss pair.1 pair.2) = test.queues := by
  cases test with
  | afXdp search socks bound =>
    unfold XdpTest.steps
    simp only [trace_append, reach_append]
    exact echoes_queues fits _ (fun step member => possible step (List.mem_append_right _ member))
  | afXdpRxRule rxQueues location ruleQueue sock bound =>
    exact congrArg (fun queue : UInt32 => [queue.toNat]) (steer_single location _ _ _ ruleQueue)
  | afXdpTwoRules rxQueues first second location1 location2 queue1 queue2 different sock1 sock2 bound1 bound2 =>
    unfold XdpTest.steps at possible ⊢
    simp only [trace_append, reach_append]
    cases chosen : chooseIutAddrs first second bench.iutAddr bench.tstAddr queue1 queue2 with
    | error jump =>
      dsimp only at possible
      rw [chosen] at possible
      obtain ⟨moment, accepted⟩ := possible _ (List.mem_append_right _ List.mem_cons_self)
      cases accepted
    | ok addrs =>
      obtain ⟨toFirst, toSecond⟩ := steer_both rss location1 location2 bench.flow bench.tstAddr
        (fits addrs.1 addrs.2 chosen) queue1 queue2
      exact congrArg₂ (fun left right : UInt32 => [left.toNat, right.toNat]) toFirst toSecond

/-- Each of the AF_XDP tests reaches `TEST_SUCCESS` if and only if no call was refused, its Rx queues and ports
sufficed, and every echo was that of the reference NIC; it has then made an echo through each of the queues it is
about. That holds if `af_xdp` predicts the queues of the NIC and `af_xdp_two_rules` has found different addresses. -/
theorem xdpTest_passes_iff (test : XdpTest) (fits : test.Fits bench rss)
    (device : Nat → XdpConf → Packet → Answers) :
    let run := Probe.run device (test.steps bench) (.start ⟨[], []⟩)
    (run.1 = .ok () ↔ (∀ answer ∈ run.2.answers, answer = .ok ()) ∧
      ∀ o ∈ run.2.seen, Echoed rss o.conf o.stimulus o.outcome) ∧
    (run.1 = .ok () → run.2.seen.map (fun o => queueOf rss o.conf o.stimulus) = test.queues) := by
  intro run
  obtain ⟨passes, probes⟩ := Probe.passes_iff device _ _ (xdpTest_sound test fits)
  refine ⟨passes.trans World.clean_iff, ?_⟩
  intro passed
  have made := congrArg (List.map (fun pair : XdpConf × Packet => queueOf rss pair.1 pair.2)) (probes passed).1
  rw [probed, List.map_map] at made
  exact made.trans (steps_queues test fits (possible_of_passes passed))

end

/-- A NIC that passes packets to the socket of their queue, over a wire that loses nothing. -/
def referenceNic (rss : NetAddr → NetAddr → UInt32) (conf : XdpConf) (packet : Packet) : Answers where
  sendto := .ok packet.payload.length
  poll := .ok 1
  revents i := if (conf.socks[i]?).any (fun sock => sock.queueId == queueOf rss conf packet) then rpcPollin else 0
  eventsText := ""
  recv := .ok (0 :: packet.payload)
  mirror := .ok ()
  xskSend _ := .ok (.ok ())
  readable := .ok true
  recvfrom := .ok packet.payload
  recvAddr := packet.traffic.dst

/-- The IUT at 10.0.0.1 and the Tester at 10.0.0.2, and a single byte of data. -/
def smallBench : Bench := ⟨.udpV4, ⟨[10, 0, 0, 1], 0⟩, ⟨[10, 0, 0, 2], 7⟩, fun _ => .ok (), fun _ => [1]⟩

/-- A search that draws one port, whose packets go to the last queue. -/
def drawing (port : BitVec 16) : Env := offering (fun _ => port) 2

def txSock : XdpSock := { XdpSock.init with txCapable := true }

def rxSock : XdpSock := { XdpSock.init with queueId := 1 }

/-- Rules for two of three queues; the socket of the second one cannot send. -/
def twoRules : XdpTest :=
  .afXdpTwoRules 3 (drawing 8) (drawing 9) .any .any 0 1 UInt32.zero_ne_one txSock rxSock rfl rfl

theorem twoRules_addrs : chooseIutAddrs (drawing 8) (drawing 9) smallBench.iutAddr smallBench.tstAddr 0 1 =
    .ok (⟨[10, 0, 0, 1], htons 8⟩, ⟨[10, 0, 0, 1], htons 9⟩) := by
  apply (chooseIutAddrs_ok _ _).mpr
  constructor
  · exact getIutAddr_offering _ _ (by decide) (by decide)
  · exact getIutAddr_offering _ _ (by decide) (by decide)

theorem twoRules_steps : twoRules.steps smallBench =
    List.replicate 2 (smallBench.step id) ++ [needQueues 3 2 "At least two Rx queues should be available"] ++
      List.replicate 2 (smallBench.step id) ++
      smallBench.twoRulesRest .any .any 0 1 txSock rxSock ⟨[10, 0, 0, 1], htons 8⟩ ⟨[10, 0, 0, 1], htons 9⟩ := by
  change _ ++ withAddrs (chooseIutAddrs (drawing 8) (drawing 9) smallBench.iutAddr smallBench.tstAddr 0 1) _ = _
  rw [twoRules_addrs]
  rfl

theorem xdpTest_passes_twoRules :
    let run := Probe.run (fun _ => referenceNic (fun _ _ => 0)) (twoRules.steps smallBench) (.start ⟨[], []⟩)
    run.1 = .ok () ∧ run.2.seen.map (fun o => queueOf (fun _ _ => 0) o.conf o.stimulus) = [0, 1] := by
  have fits : twoRules.Fits smallBench (fun _ _ => 0) := by
    intro iutAddr1 iutAddr2 chosen
    rw [twoRules_addrs] at chosen
    cases chosen
    decide
  have queues : twoRules.queues = [0, 1] := rfl
  have passed : (Probe.run (fun _ => referenceNic (fun _ _ => 0)) (twoRules.steps smallBench) (.start ⟨[], []⟩)).1 =
      .ok () := by
    rw [twoRules_steps]
    decide +kernel
  have all := (xdpTest_passes_iff twoRules fits (fun _ => referenceNic (fun _ _ => 0))).2
  rw [queues] at all
  generalize Probe.run (fun _ => referenceNic (fun _ _ => 0)) (twoRules.steps smallBench) (.start ⟨[], []⟩) = run at *
  exact ⟨passed, all passed⟩

end NetDrv.XdpEcho
