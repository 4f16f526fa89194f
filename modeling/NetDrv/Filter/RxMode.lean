import NetDrv.Lib.Probe
import NetDrv.Te

/-! The tests `basic/rx_mode` and `basic/mac_change_rx` send frames to various MAC
addresses and look at a socket and at a capture on the IUT. They are compared with the
receive filter of an Ethernet interface. -/

namespace NetDrv.Filter
open Probe

abbrev Mac := BitVec 48

def broadcast : Mac := BitVec.allOnes 48

def Mac.isMulticast (mac : Mac) : Bool := mac.getLsbD 40

/-- The octets in the order in which they are sent. -/
def Mac.octets (mac : Mac) : List (BitVec 8) := (List.range 6).map (fun i => mac.extractLsb' (8 * (5 - i)) 8)

structure RxConf where
  own : Mac
  promisc : Bool
  allmulti : Bool
  /-- Multicast addresses added to the interface. -/
  mcast : List Mac
  multi : ∀ mac ∈ mcast, Mac.isMulticast mac = true

structure Frame where
  dst : Mac
  payload : List (BitVec 8)

/-- What `send_recv_pkt()` learns about a frame. Each of the two RPCs may jump; a failed `recv()` returns
its errno as `%r` prints it. -/
structure Delivery where
  readable : Except Jump Bool
  recv : Except Jump (Except String (List (BitVec 8)))
  pktsNum : Except TeErrno Nat

def RxConf.passes (conf : RxConf) (dst : Mac) : Bool :=
  dst == conf.own || dst == broadcast || conf.mcast.contains dst || conf.promisc || (conf.allmulti && Mac.isMulticast dst)

/-- Frames the host passes to the socket; a unicast address of another host is not for it. -/
def RxConf.delivers (conf : RxConf) (dst : Mac) : Bool :=
  conf.passes dst && (dst == conf.own || Mac.isMulticast dst)

structure Received (conf : RxConf) (frame : Frame) (delivery : Delivery) : Prop where
  readable : delivery.readable = .ok (conf.delivers frame.dst)
  recv : conf.delivers frame.dst = true → delivery.recv = .ok (.ok frame.payload)
  pktsNum : delivery.pktsNum = .ok (if conf.passes frame.dst then 1 else 0)

def checkReadable (stage : String) (expReceive readable : Bool) : Except Jump Unit :=
  if readable != expReceive then
    if readable then .error (.verdict s!"{stage}: socket is readable unexpectedly")
    else .error (.verdict s!"{stage}: socket is not readable unexpectedly")
  else .ok ()

def checkData (stage : String) (payload : List (BitVec 8)) (readable : Bool)
    (recv : Except Jump (Except String (List (BitVec 8)))) : Except Jump Unit :=
  if readable then
    match recv with
    | .error jump => .error jump
    | .ok (.error err) => .error (.verdict s!"{stage}: recv() failed unexpectedly with error {err}")
    | .ok (.ok data) => if data != payload then .error (.verdict s!"{stage}: recv() returned unexpected data") else .ok ()
  else .ok ()

def checkCapture (stage : String) (expCapture : Bool) : Except TeErrno Nat → Except Jump Unit
  | .error rc => .error (.checkRc rc)
  | .ok pktsNum =>
    if pktsNum > 1 then .error (.verdict s!"{stage}: CSAP on IUT captured more than one packet")
    else if expCapture then
      if pktsNum = 0 then .error (.verdict s!"{stage}: CSAP on IUT did not capture the packet") else .ok ()
    else if pktsNum ≠ 0 then .error (.verdict s!"{stage}: CSAP on IUT captured the packet")
    else .ok ()

/-- `send_recv_pkt()` after the frame was sent. The two tests differ in when they expect a capture. -/
def judgeDelivery (stage : String) (expReceive expCapture : Bool) (payload : List (BitVec 8)) (delivery : Delivery) :
    Except Jump Unit := do
  let readable ← delivery.readable
  checkReadable stage expReceive readable
  checkData stage payload readable delivery.recv
  checkCapture stage expCapture delivery.pktsNum

theorem checkReadable_ok_iff (stage : String) (expReceive readable : Bool) :
    checkReadable stage expReceive readable = .ok () ↔ readable = expReceive := by
  cases readable <;> cases expReceive <;> simp [checkReadable]

theorem checkData_ok_iff (stage : String) (payload : List (BitVec 8)) (readable : Bool)
    (recv : Except Jump (Except String (List (BitVec 8)))) :
    checkData stage payload readable recv = .ok () ↔ (readable = true → recv = .ok (.ok payload)) := by
  unfold checkData
  cases readable with
  | false => simp
  | true =>
    rcases recv with jump | err | data
    · simp
    · simp
    · by_cases same : data = payload <;> simp [same]

theorem checkCapture_ok_iff (stage : String) (expCapture : Bool) (pktsNum : Except TeErrno Nat) :
    checkCapture stage expCapture pktsNum = .ok () ↔ pktsNum = .ok (if expCapture then 1 else 0) := by
  cases pktsNum with
  | error rc => simp [checkCapture]
  | ok num =>
    simp only [checkCapture, Except.ok.injEq]
    cases expCapture with
    | true => grind
    | false => grind

theorem judgeDelivery_ok_iff (stage : String) (expReceive expCapture : Bool) (payload : List (BitVec 8))
    (delivery : Delivery) :
    judgeDelivery stage expReceive expCapture payload delivery = .ok () ↔ delivery.readable = .ok expReceive ∧
      (expReceive = true → delivery.recv = .ok (.ok payload)) ∧
      delivery.pktsNum = .ok (if expCapture then 1 else 0) := by
  unfold judgeDelivery
  cases asked : delivery.readable with
  | error jump => exact iff_of_false (fun wrong => nomatch wrong) (fun wrong => nomatch wrong.1)
  | ok readable =>
    change (do checkReadable stage expReceive readable; _) = _ ↔ _
    rw [seq_ok_iff, seq_ok_iff, checkReadable_ok_iff, checkData_ok_iff, checkCapture_ok_iff, Except.ok.injEq]
    refine and_congr_right (fun expected => ?_)
    rw [expected]

theorem judgeDelivery_exact {conf : RxConf} {dst : Mac} {expReceive expCapture : Bool} (stage : String)
    (payload : List (BitVec 8)) (receive : conf.delivers dst = expReceive) (capture : conf.passes dst = expCapture)
    (delivery : Delivery) :
    judgeDelivery stage expReceive expCapture payload delivery = .ok () ↔ Received conf ⟨dst, payload⟩ delivery := by
  rw [judgeDelivery_ok_iff, ← receive, ← capture]
  constructor
  · rintro ⟨readable, recv, pktsNum⟩
    exact ⟨readable, recv, pktsNum⟩
  · rintro ⟨readable, recv, pktsNum⟩
    exact ⟨readable, recv, pktsNum⟩

abbrev RxStep := Step Jump Empty RxConf Frame Delivery

/-- What the calls of a test are answered: the ones under `CHECK_RC()` and the RPCs, which jump. -/
structure Answers where
  rc : Nat → Except TeErrno Unit
  rpc : Nat → Except Jump Unit

section
variable (calls : Answers)

/-- A call under `CHECK_RC()` and its effect. -/
def checkedStep (apply : RxConf → RxConf) : RxStep :=
  .change (fun moment => (calls.rc moment).mapError Jump.checkRc) apply

/-- `rpc_socket()` and `rpc_bind()`, the creation of the two CSAPs, the start of the capture and the
preparation of the template. -/
def setupSteps : List RxStep :=
  List.replicate 2 (.change calls.rpc id) ++ List.replicate 5 (checkedStep calls id)

/-- `send_recv_pkt()`: payload and address are written to the template, the frame is sent, and what
becomes of it is judged. -/
def sendRecvPkt (stage : String) (dst : Mac) (expReceive expCapture : Bool) (payload : List (BitVec 8)) : List RxStep :=
  List.replicate 3 (checkedStep calls id) ++ [.check ⟨dst, payload⟩ (judgeDelivery stage expReceive expCapture payload)]

/-- The `send_recv_pkt()` of `rx_mode`. -/
def rxModeSend (promisc allmulti : Bool) (stage : String) (dst : Mac) (expReceive : Bool) (payload : List (BitVec 8)) :
    List RxStep :=
  sendRecvPkt calls stage dst expReceive (expReceive || promisc || (allmulti && Mac.isMulticast dst)) payload

/-- The `send_recv_pkt()` of `mac_change_rx`. -/
def macChangeSend (promisc : Bool) (stage : String) (dst : Mac) (expReceive : Bool) (payload : List (BitVec 8)) :
    List RxStep :=
  sendRecvPkt calls stage dst expReceive (expReceive || promisc) payload

end

def RxConf.addMcast (mac : Mac) (multi : Mac.isMulticast mac = true) (conf : RxConf) : RxConf :=
  { conf with
    mcast := mac :: conf.mcast
    multi := List.forall_mem_cons.mpr ⟨multi, conf.multi⟩ }

/-- The unicast addresses of the environment: that of the IUT and one which is not in use. -/
structure UnicastAddrs (own : Mac) where
  alien : Mac
  ownUnicast : Mac.isMulticast own = false
  alienUnicast : Mac.isMulticast alien = false
  alienOther : alien ≠ own

structure RxAddrs (own : Mac) extends UnicastAddrs own where
  mcast : Mac
  mcastMulti : Mac.isMulticast mcast = true
  mcastOther : mcast ≠ broadcast

/-- The steps of `rx_mode`; `payload` gives the data of each frame. -/
def rxMode (calls : Answers) (start : RxConf) (addrs : RxAddrs start.own) (promisc allmulti : Bool)
    (payload : Nat → List (BitVec 8)) : List RxStep :=
  [checkedStep calls (fun conf => { conf with promisc := promisc }),
    checkedStep calls (fun conf => { conf with allmulti := allmulti })] ++
  setupSteps calls ++
  rxModeSend calls promisc allmulti "Sending to the current MAC address" start.own true (payload 0) ++
  rxModeSend calls promisc allmulti "Sending to the broadcast MAC address" broadcast true (payload 1) ++
  rxModeSend calls promisc allmulti "Sending to the alien MAC address" addrs.alien false (payload 2) ++
  rxModeSend calls promisc allmulti "Sending to the alien multicast MAC address" addrs.mcast (promisc || allmulti)
    (payload 3) ++
  [checkedStep calls (RxConf.addMcast addrs.mcast addrs.mcastMulti)] ++
  rxModeSend calls promisc allmulti "Sending to the added multicast MAC address" addrs.mcast true (payload 4)

/-- What the agent answers when an address is set and read back. -/
structure Hwaddr where
  set : Nat → Except TeErrno Unit
  sync : Nat → Except TeErrno Unit
  get : Nat → Except TeErrno (List (BitVec 8))

def setCheckMac (hwaddr : Hwaddr) (macAddr : Mac) (moment : Nat) : Except TeErrno Unit := do
  hwaddr.set moment
  hwaddr.sync moment
  let gotAddr ← hwaddr.get moment
  if gotAddr.length ≠ 6 ∨ gotAddr ≠ Mac.octets macAddr then .error (teRc .tapi .einval) else .ok ()

/-- The steps of `mac_change_rx`. -/
def macChangeRx (calls : Answers) (hwaddr : Hwaddr) (start : RxConf) (addrs : UnicastAddrs start.own)
    (promisc : Bool) (payload : Nat → List (BitVec 8)) : List RxStep :=
  [checkedStep calls (fun conf => { conf with promisc := promisc })] ++
  setupSteps calls ++
  macChangeSend calls promisc "Sending to the old address before address change" start.own true (payload 0) ++
  macChangeSend calls promisc "Sending to the new address before address change" addrs.alien false (payload 1) ++
  [.change (fun moment => (setCheckMac hwaddr addrs.alien moment).mapError Jump.checkRc)
    (fun conf => { conf with own := addrs.alien })] ++
  macChangeSend calls promisc "Sending to the old address after address change" start.own false (payload 2) ++
  macChangeSend calls promisc "Sending to the new address after address change" addrs.alien true (payload 3)

section
variable {calls : Answers} {conf : RxConf}

theorem setupSteps_sound : Sound Received silent (setupSteps calls) conf := trivial

theorem sendRecvPkt_sound {dst : Mac} {expReceive expCapture : Bool} (stage : String) (payload : List (BitVec 8))
    (receive : conf.delivers dst = expReceive) (capture : conf.passes dst = expCapture) :
    Sound Received silent (sendRecvPkt calls stage dst expReceive expCapture payload) conf :=
  ⟨check_exact (judgeDelivery_exact stage payload receive capture), trivial⟩

theorem passes_own : conf.passes conf.own = true := by simp [RxConf.passes]

theorem delivers_own : conf.delivers conf.own = true := by simp [RxConf.delivers, passes_own]

theorem passes_alien {mac : Mac} (unicast : Mac.isMulticast mac = false) (other : mac ≠ conf.own) :
    conf.passes mac = conf.promisc := by
  have notBroadcast : mac ≠ broadcast := by
    intro same
    rw [same] at unicast
    exact absurd unicast (by decide)
  have notAdded : mac ∉ conf.mcast := by
    intro member
    rw [conf.multi mac member] at unicast
    cases unicast
  simp [RxConf.passes, other, notBroadcast, notAdded, unicast]

theorem delivers_alien {mac : Mac} (unicast : Mac.isMulticast mac = false) (other : mac ≠ conf.own) :
    conf.delivers mac = false := by
  simp [RxConf.delivers, unicast, other]

end

section
variable (calls : Answers) (start : RxConf) (promisc allmulti : Bool) (payload : Nat → List (BitVec 8))

theorem rxMode_sound (addrs : RxAddrs start.own) (mcastNew : addrs.mcast ∉ start.mcast) :
    Sound Received silent (rxMode calls start addrs promisc allmulti payload) start := by
  let conf : RxConf := { start with promisc := promisc, allmulti := allmulti }
  let added : RxConf := conf.addMcast addrs.mcast addrs.mcastMulti
  have own : conf.passes start.own = true ∧ conf.delivers start.own = true := ⟨passes_own, delivers_own⟩
  have all : conf.passes broadcast = true ∧ conf.delivers broadcast = true := by
    have multi : Mac.isMulticast broadcast = true := by decide
    simp [RxConf.passes, RxConf.delivers, multi]
  have alien : conf.passes addrs.alien = promisc ∧ conf.delivers addrs.alien = false :=
    ⟨passes_alien addrs.alienUnicast addrs.alienOther, delivers_alien addrs.alienUnicast addrs.alienOther⟩
  have notOwn : addrs.mcast ≠ start.own := by
    intro same
    have unicast := addrs.ownUnicast
    rw [← same, addrs.mcastMulti] at unicast
    cases unicast
  have group : conf.passes addrs.mcast = (promisc || allmulti) ∧ conf.delivers addrs.mcast = (promisc || allmulti) := by
    have strange : (addrs.mcast == start.own) = false ∧ (addrs.mcast == broadcast) = false :=
      ⟨beq_eq_false_iff_ne.mpr notOwn, beq_eq_false_iff_ne.mpr addrs.mcastOther⟩
    simp [RxConf.passes, RxConf.delivers, conf, strange, mcastNew, addrs.mcastMulti]
  have joined : added.passes addrs.mcast = true ∧ added.delivers addrs.mcast = true := by
    simp [RxConf.passes, RxConf.delivers, added, RxConf.addMcast, addrs.mcastMulti]
  unfold rxMode
  simp only [sound_append, reach_append]
  refine ⟨⟨⟨⟨⟨⟨⟨trivial, setupSteps_sound⟩, ?_⟩, ?_⟩, ?_⟩, ?_⟩, trivial⟩, ?_⟩
  · change Sound Received silent (rxModeSend calls promisc allmulti _ start.own true _) conf
    exact sendRecvPkt_sound _ _ own.2 (by simp [own.1])
  · change Sound Received silent (rxModeSend calls promisc allmulti _ broadcast true _) conf
    exact sendRecvPkt_sound _ _ all.2 (by simp [all.1])
  · change Sound Received silent (rxModeSend calls promisc allmulti _ addrs.alien false _) conf
    exact sendRecvPkt_sound _ _ alien.2 (by simp [alien.1, addrs.alienUnicast])
  · change Sound Received silent (rxModeSend calls promisc allmulti _ addrs.mcast (promisc || allmulti) _) conf
    exact sendRecvPkt_sound _ _ group.2 (by simp [group.1, addrs.mcastMulti, Bool.or_comm, Bool.or_left_comm])
  · change Sound Received silent (rxModeSend calls promisc allmulti _ addrs.mcast true _) added
    exact sendRecvPkt_sound _ _ joined.2 (by simp [joined.1])

theorem macChangeRx_sound (addrs : UnicastAddrs start.own) (hwaddr : Hwaddr) :
    Sound Received silent (macChangeRx calls hwaddr start addrs promisc payload) start := by
  let before : RxConf := { start with promisc := promisc }
  let after : RxConf := { before with own := addrs.alien }
  have oldBefore : before.passes start.own = true ∧ before.delivers start.own = true := ⟨passes_own, delivers_own⟩
  have newBefore : before.passes addrs.alien = promisc ∧ before.delivers addrs.alien = false :=
    ⟨passes_alien addrs.alienUnicast addrs.alienOther, delivers_alien addrs.alienUnicast addrs.alienOther⟩
  have oldAfter : after.passes start.own = promisc ∧ after.delivers start.own = false :=
    ⟨passes_alien addrs.ownUnicast addrs.alienOther.symm, delivers_alien addrs.ownUnicast addrs.alienOther.symm⟩
  have newAfter : after.passes addrs.alien = true ∧ after.delivers addrs.alien = true := ⟨passes_own, delivers_own⟩
  unfold macChangeRx
  simp only [sound_append, reach_append]
  refine ⟨⟨⟨⟨⟨⟨trivial, setupSteps_sound⟩, ?_⟩, ?_⟩, trivial⟩, ?_⟩, ?_⟩
  · change Sound Received silent (macChangeSend calls promisc _ start.own true _) before
    exact sendRecvPkt_sound _ _ oldBefore.2 (by simp [oldBefore.1])
  · change Sound Received silent (macChangeSend calls promisc _ addrs.alien false _) before
    exact sendRecvPkt_sound _ _ newBefore.2 (by simp [newBefore.1])
  · change Sound Received silent (macChangeSend calls promisc _ start.own false _) after
    exact sendRecvPkt_sound _ _ oldAfter.2 (by simp [oldAfter.1])
  · change Sound Received silent (macChangeSend calls promisc _ addrs.alien true _) after
    exact sendRecvPkt_sound _ _ newAfter.2 (by simp [newAfter.1])

variable (device : Nat → RxConf → Frame → Delivery)

/-- `rx_mode` reaches `TEST_SUCCESS` if and only if no call was refused and each of the frames got where the
receive filter of the interface, as it is configured at that time, lets it. The group is not to be joined yet. -/
theorem rxMode_passes_iff (addrs : RxAddrs start.own) (mcastNew : addrs.mcast ∉ start.mcast) :
    let run := Probe.run device (rxMode calls start addrs promisc allmulti payload) (.start start)
    (run.1 = .ok () ↔ (∀ answer ∈ run.2.answers, answer = .ok ()) ∧
      ∀ o ∈ run.2.seen, Received o.conf o.stimulus o.outcome) ∧
    (run.1 = .ok () → run.2.seen.map (fun o => (o.conf.promisc, o.conf.allmulti, o.conf.mcast, o.stimulus.dst)) =
      [(promisc, allmulti, start.mcast, start.own), (promisc, allmulti, start.mcast, broadcast),
        (promisc, allmulti, start.mcast, addrs.alien), (promisc, allmulti, start.mcast, addrs.mcast),
        (promisc, allmulti, addrs.mcast :: start.mcast, addrs.mcast)]) := by
  intro run
  obtain ⟨passes, probes⟩ := Probe.passes_iff device _ start
    (rxMode_sound calls start promisc allmulti payload addrs mcastNew)
  refine ⟨passes.trans World.clean_iff, ?_⟩
  intro passed
  have made := congrArg (List.map (fun pair : RxConf × Frame =>
    (pair.1.promisc, pair.1.allmulti, pair.1.mcast, pair.2.dst))) (probes passed).1
  rw [probed, List.map_map] at made
  exact made

/-- `mac_change_rx` reaches `TEST_SUCCESS` if and only if no call was refused, the new address was read back,
and each of the frames got where the receive filter lets it, before and after the change. -/
theorem macChangeRx_passes_iff (addrs : UnicastAddrs start.own) (hwaddr : Hwaddr) :
    let run := Probe.run device (macChangeRx calls hwaddr start addrs promisc payload) (.start start)
    (run.1 = .ok () ↔ (∀ answer ∈ run.2.answers, answer = .ok ()) ∧
      ∀ o ∈ run.2.seen, Received o.conf o.stimulus o.outcome) ∧
    (run.1 = .ok () → run.2.seen.map (fun o => (o.conf.own, o.conf.promisc, o.stimulus.dst)) =
      [(start.own, promisc, start.own), (start.own, promisc, addrs.alien), (addrs.alien, promisc, start.own),
        (addrs.alien, promisc, addrs.alien)]) := by
  intro run
  obtain ⟨passes, probes⟩ := Probe.passes_iff device _ start (macChangeRx_sound calls start promisc payload addrs hwaddr)
  refine ⟨passes.trans World.clean_iff, ?_⟩
  intro passed
  have made := congrArg (List.map (fun pair : RxConf × Frame => (pair.1.own, pair.1.promisc, pair.2.dst)))
    (probes passed).1
  rw [probed, List.map_map] at made
  exact made

end

/-- An interface with the receive filter, whose socket gets what it is sent. -/
def filteringDevice (conf : RxConf) (frame : Frame) : Delivery :=
  ⟨.ok (conf.delivers frame.dst), .ok (.ok frame.payload), .ok (if conf.passes frame.dst then 1 else 0)⟩

def willing : Answers := ⟨fun _ => .ok (), fun _ => .ok ()⟩

def plainConf : RxConf := ⟨0x020000000001, false, false, [], fun _ member => nomatch member⟩

/-- 02:00:00:00:00:02 is not in use, and 01:00:5e:00:00:07 is a group. -/
def plainAddrs : RxAddrs plainConf.own where
  alien := 0x020000000002
  ownUnicast := rfl
  alienUnicast := rfl
  alienOther := (BitVec.ne_of_lt (by decide)).symm
  mcast := 0x01005e000007
  mcastMulti := rfl
  mcastOther := BitVec.ne_of_lt (by decide)

theorem rxMode_passes_allmulti :
    let run := Probe.run (fun _ => filteringDevice) (rxMode willing plainConf plainAddrs false true (fun _ => [1]))
      (.start plainConf)
    run.1 = .ok () ∧ run.2.seen.map (fun o => (o.conf.promisc, o.conf.allmulti, o.conf.mcast, o.stimulus.dst)) =
      [(false, true, [], plainConf.own), (false, true, [], broadcast), (false, true, [], plainAddrs.alien),
        (false, true, [], plainAddrs.mcast), (false, true, [plainAddrs.mcast], plainAddrs.mcast)] := by
  have passed : (Probe.run (fun _ => filteringDevice)
      (rxMode willing plainConf plainAddrs false true (fun _ => [1])) (.start plainConf)).1 = .ok () := by
    decide +kernel
  have all := (rxMode_passes_iff willing plainConf false true (fun _ => [1]) (fun _ => filteringDevice) plainAddrs
    List.not_mem_nil).2
  generalize Probe.run (fun _ => filteringDevice) _ _ = run at *
  exact ⟨passed, all passed⟩

def obedient : Hwaddr := ⟨fun _ => .ok (), fun _ => .ok (), fun _ => .ok (Mac.octets plainAddrs.alien)⟩

theorem macChangeRx_passes_promisc :
    let run := Probe.run (fun _ => filteringDevice)
      (macChangeRx willing obedient plainConf plainAddrs.toUnicastAddrs true (fun _ => [1])) (.start plainConf)
    run.1 = .ok () ∧ run.2.seen.map (fun o => (o.conf.own, o.conf.promisc, o.stimulus.dst)) =
      [(plainConf.own, true, plainConf.own), (plainConf.own, true, plainAddrs.alien),
        (plainAddrs.alien, true, plainConf.own), (plainAddrs.alien, true, plainAddrs.alien)] := by
  have passed : (Probe.run (fun _ => filteringDevice)
      (macChangeRx willing obedient plainConf plainAddrs.toUnicastAddrs true (fun _ => [1])) (.start plainConf)).1 =
      .ok () := by
    decide +kernel
  have all := (macChangeRx_passes_iff willing plainConf true (fun _ => [1]) (fun _ => filteringDevice)
    plainAddrs.toUnicastAddrs obedient).2
  generalize Probe.run (fun _ => filteringDevice) _ _ = run at *
  exact ⟨passed, all passed⟩

end NetDrv.Filter
