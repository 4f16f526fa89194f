import NetDrv.Rss.Toeplitz
import NetDrv.Lib.ByteOrder

/-! Search for the port of a second connection. The tests draw random ports until one
fits, and skip the port that the first connection has. A candidate is compared with
the port as the address stores it, in network byte order, before it is converted
itself, so what is skipped is the wrong port unless its two bytes are equal. -/

namespace NetDrv.Rss.PortSearch
open Script ByteOrder

/-- A socket address; the port is in network byte order. -/
structure NetAddr where
  netaddr : List (BitVec 8)
  sinPort : BitVec 16
  deriving DecidableEq, Repr

def NetAddr.getPort (addr : NetAddr) : BitVec 16 := addr.sinPort

def NetAddr.setPort (addr : NetAddr) (port : BitVec 16) : NetAddr := { addr with sinPort := port }

def htons (port : BitVec 16) : BitVec 16 := toNetwork .little (n := 2) port

theorem htons_htons (port : BitVec 16) : htons (htons port) = port := toNetwork_toNetwork .little (n := 2) port

structure Addrs where
  iut : NetAddr
  tst : NetAddr
  deriving DecidableEq, Repr

def Addrs.get (addrs : Addrs) : Side → NetAddr
  | .iut => addrs.iut
  | .tst => addrs.tst

def Addrs.setPort (addrs : Addrs) (side : Side) (port : BitVec 16) : Addrs :=
  match side with
  | .iut => { addrs with iut := addrs.iut.setPort port }
  | .tst => { addrs with tst := addrs.tst.setPort port }

/-- What a search gets from chance, from the prediction for packets from the second address to the
first, and from the hosts. -/
structure Env where
  randomPort : Nat → Side → BitVec 16
  predict : Nat → NetAddr → NetAddr → Except TeErrno UInt32
  portIsFree : Nat → Side → Except TeErrno Bool

/-- A loop over the attempts that must be left through its `break`. -/
def attemptLoop {σ : Type} (attempts : Nat) (tryPort : Nat → Script Jump σ Bool) (message : String) :
    Script Jump σ Unit := do
  let found ← findFirst (List.range attempts) tryPort
  if found then pure () else fail (.fail message)

section
variable (env : Env) (iutAddr tstAddr : NetAddr)

/-- One attempt in `rx_rule_tcp_udp`; `true` leaves the loop. -/
def tryPortPair (initQueue : UInt32) (i : Nat) : Script Jump Addrs Bool := do
  let newIutPort := env.randomPort i .iut
  let newTstPort := env.randomPort i .tst
  if newIutPort = iutAddr.getPort ∨ newTstPort = tstAddr.getPort then pure false
  else
    update (fun new => (new.setPort .iut (htons newIutPort)).setPort .tst (htons newTstPort))
    let new ← gets id
    let curQueue ← checkRc (env.predict i new.tst new.iut)
    if curQueue = initQueue then
      if ← checkRc (env.portIsFree i .iut) then checkRc (env.portIsFree i .tst) else pure false
    else pure false

/-- The search of `rx_rule_tcp_udp`. -/
def rxRuleTcpUdp (initQueue : UInt32) : Except Jump Unit × Addrs :=
  attemptLoop maxAttempts (tryPortPair env iutAddr tstAddr initQueue)
    "Cannot find ports for the second connection" ⟨iutAddr, tstAddr⟩

/-- The side on which `rx_rules_full_part` changes the port. -/
def changedSide (partialSrc : Bool) : Side := if partialSrc then .iut else .tst

/-- One attempt in `rx_rules_full_part`. -/
def tryOnePort (side : Side) (initPort : BitVec 16) (defQueue : UInt32) (i : Nat) : Script Jump Addrs Bool := do
  let newPort := env.randomPort i side
  if newPort = initPort then pure false
  else
    update (fun new => new.setPort side (htons newPort))
    let new ← gets id
    let curQueue ← checkRc (env.predict i new.tst new.iut)
    if curQueue = defQueue then checkRc (env.portIsFree i side) else pure false

/-- The search of `rx_rules_full_part`. -/
def rxRulesFullPart (partialSrc : Bool) (defQueue : UInt32) : Except Jump Unit × Addrs :=
  let side := changedSide partialSrc
  let initPort := (Addrs.get ⟨iutAddr, tstAddr⟩ side).getPort
  attemptLoop maxAttempts (tryOnePort env side initPort defQueue)
    "Failed to pick up a port for the second connection" ⟨iutAddr, tstAddr⟩

/-- `MAX_ATTEMPTS` of `af_xdp_two_rules`. -/
@[irreducible] def maxRuleAttempts : Nat := 100000

/-- One attempt in `get_iut_addr()`. -/
def tryIutPort (ruleQueue : UInt32) (excludePort : BitVec 16) (i : Nat) : Script Jump NetAddr Bool := do
  let port := env.randomPort i .iut
  if port = excludePort then pure false
  else
    update (fun new => new.setPort (htons port))
    let new ← gets id
    let queueId ← checkRc (env.predict i tstAddr new)
    pure (queueId != ruleQueue)

def getIutAddr (ruleQueue : UInt32) (excludePort : BitVec 16) : Except Jump Unit × NetAddr :=
  attemptLoop maxRuleAttempts (tryIutPort env tstAddr ruleQueue excludePort)
    ("Failed to find IUT port for which incomping packets are not directed to queue " ++
      toString ruleQueue.toNat ++ " by default") iutAddr

end

/-- The test goes on with the address that was found. -/
def goOn {β : Type} (run : Except Jump Unit × NetAddr) (next : NetAddr → Except Jump β) : Except Jump β :=
  match run with
  | (.error jump, _) => .error jump
  | (.ok (), new) => next new

/-- The two calls of `get_iut_addr()` in `main()` of `af_xdp_two_rules`. -/
def chooseIutAddrs (first second : Env) (iutAddr tstAddr : NetAddr) (queue1 queue2 : UInt32) :
    Except Jump (NetAddr × NetAddr) :=
  goOn (getIutAddr first iutAddr tstAddr queue1 0) (fun iutAddr1 =>
    goOn (getIutAddr second iutAddr tstAddr queue2 iutAddr1.getPort) (fun iutAddr2 => .ok (iutAddr1, iutAddr2)))

section Loop
variable {σ : Type} {tryPort : Nat → Script Jump σ Bool} {message : String} {attempts : Nat} {s t : σ}

theorem attemptLoop_success (hit : σ → Prop)
    (each : ∀ i u, (tryPort i).wp (fun found v => found = true → hit v) (fun _ _ => True) u)
    (run : attemptLoop attempts tryPort message s = (.ok (), t)) : hit t := by
  have search : (findFirst (List.range attempts) tryPort).wp
      (fun found u => if found then ∃ i ∈ List.range attempts, hit u else True) (fun _ _ => True) s := by
    apply wp_search (fun _ _ => True) (fun _ => hit) (List.range attempts) _ trivial
    intro _ i _ u _ _
    apply wp_weaken (each i u)
    intro found v holds
    cases found with
    | true => exact holds rfl
    | false => trivial
  have loop : (attemptLoop attempts tryPort message).wp (fun _ => hit) (fun _ _ => True) s := by
    apply wp_seq search _ (fun _ _ _ => trivial)
    intro found u after
    cases found with
    | true =>
      obtain ⟨-, -, holds⟩ := after
      exact holds
    | false => trivial
  exact wp_ok loop run

theorem attemptLoop_first (some : 0 < attempts) (hit : tryPort 0 s = (.ok true, t)) :
    attemptLoop attempts tryPort message s = (.ok (), t) := by
  obtain ⟨more, rfl⟩ : ∃ more, attempts = more + 1 := ⟨attempts - 1, by omega⟩
  have found : findFirst (List.range (more + 1)) tryPort s = (.ok true, t) := by
    rw [List.range_succ_eq_map]
    exact bind_ok hit
  exact bind_ok found

end Loop

def Palindromic (port : BitVec 16) : Prop := htons port = port

/-- A candidate that is not skipped differs from the excluded port once it is stored, if the excluded port
is the same in both byte orders. -/
theorem htons_ne {excluded port : BitVec 16} (same : Palindromic excluded) (kept : port ≠ excluded) :
    htons port ≠ excluded := by
  intro stored
  apply kept
  calc
    port = htons (htons port) := (htons_htons port).symm
    _ = htons excluded := by rw [stored]
    _ = excluded := same

/-- An environment that offers a port for each side and accepts what it is offered. -/
def offering (port : Side → BitVec 16) (queue : UInt32) : Env :=
  ⟨fun _ => port, fun _ _ _ => .ok queue, fun _ _ => .ok true⟩

section
variable (iutAddr tstAddr : NetAddr)

/-- Whatever the search of `rx_rule_tcp_udp` accepts has other ports than the first connection. -/
def TcpUdpDiffers : Prop :=
  ∀ env initQueue new, rxRuleTcpUdp env iutAddr tstAddr initQueue = (.ok (), new) →
    new.iut.getPort ≠ iutAddr.getPort ∧ new.tst.getPort ≠ tstAddr.getPort

theorem tryPortPair_wp (iutSame : Palindromic iutAddr.getPort) (tstSame : Palindromic tstAddr.getPort) (env : Env)
    (initQueue : UInt32) (i : Nat) (u : Addrs) :
    (tryPortPair env iutAddr tstAddr initQueue i).wp
      (fun found new => found = true → new.iut.getPort ≠ iutAddr.getPort ∧ new.tst.getPort ≠ tstAddr.getPort)
      (fun _ _ => True) u := by
  unfold tryPortPair
  dsimp only
  split
  next => exact fun found => Bool.noConfusion found
  next kept =>
    obtain ⟨iutKept, tstKept⟩ := not_or.mp kept
    have stored : htons (env.randomPort i .iut) ≠ iutAddr.getPort ∧ htons (env.randomPort i .tst) ≠ tstAddr.getPort :=
      ⟨htons_ne iutSame iutKept, htons_ne tstSame tstKept⟩
    rw [wp_bind, wp_update, wp_bind, wp_gets, wp_bind]
    refine wp_checkRc_any (fun curQueue => ?_) (fun _ => trivial)
    split
    next =>
      rw [wp_bind]
      refine wp_checkRc_any (fun free => ?_) (fun _ => trivial)
      cases free with
      | true => exact wp_checkRc_any (fun _ _ => stored) (fun _ => trivial)
      | false => exact fun found => Bool.noConfusion found
    next => exact fun found => Bool.noConfusion found

theorem rxRuleTcpUdp_offering (port : Side → BitVec 16) (iutKept : port .iut ≠ iutAddr.getPort)
    (tstKept : port .tst ≠ tstAddr.getPort) (initQueue : UInt32) :
    rxRuleTcpUdp (offering port initQueue) iutAddr tstAddr initQueue =
      (.ok (), ⟨iutAddr.setPort (htons (port .iut)), tstAddr.setPort (htons (port .tst))⟩) := by
  apply attemptLoop_first
  · unfold maxAttempts
    decide
  · have kept : ¬((offering port initQueue).randomPort 0 .iut = iutAddr.getPort ∨
        (offering port initQueue).randomPort 0 .tst = tstAddr.getPort) := not_or.mpr ⟨iutKept, tstKept⟩
    simp only [tryPortPair, if_neg kept]
    simp only [offering, checkRc, pure_bind, if_true]
    rfl

theorem tcpUdpDiffers_iff :
    TcpUdpDiffers iutAddr tstAddr ↔ Palindromic iutAddr.getPort ∧ Palindromic tstAddr.getPort := by
  constructor
  · intro differs
    have other : ∀ port : BitVec 16, port + 1 ≠ port := by
      intro port
      simp
    constructor
    · by_contra asymmetric
      have run := rxRuleTcpUdp_offering iutAddr tstAddr (fun
        | .iut => htons iutAddr.getPort
        | .tst => tstAddr.getPort + 1) asymmetric (other _) 0
      exact (differs _ _ _ run).1 (htons_htons _)
    · by_contra asymmetric
      have run := rxRuleTcpUdp_offering iutAddr tstAddr (fun
        | .iut => iutAddr.getPort + 1
        | .tst => htons tstAddr.getPort) (other _) asymmetric 0
      exact (differs _ _ _ run).2 (htons_htons _)
  · intro ⟨iutSame, tstSame⟩ env initQueue new run
    apply attemptLoop_success (fun new => new.iut.getPort ≠ iutAddr.getPort ∧ new.tst.getPort ≠ tstAddr.getPort) _ run
    exact tryPortPair_wp iutAddr tstAddr iutSame tstSame env initQueue

/-- Whatever the search of `rx_rules_full_part` accepts has another port than the first connection on the
side whose port it changes. -/
def FullPartDiffers (partialSrc : Bool) : Prop :=
  ∀ env defQueue new, rxRulesFullPart env iutAddr tstAddr partialSrc defQueue = (.ok (), new) →
    (new.get (changedSide partialSrc)).getPort ≠ (Addrs.get ⟨iutAddr, tstAddr⟩ (changedSide partialSrc)).getPort

omit iutAddr tstAddr in
theorem getPort_setPort (addrs : Addrs) (side : Side) (port : BitVec 16) :
    ((addrs.setPort side port).get side).getPort = port := by
  cases side <;> rfl

omit iutAddr tstAddr in
theorem tryOnePort_wp {initPort : BitVec 16} (same : Palindromic initPort) (env : Env) (side : Side)
    (defQueue : UInt32) (i : Nat) (u : Addrs) :
    (tryOnePort env side initPort defQueue i).wp
      (fun found new => found = true → (new.get side).getPort ≠ initPort) (fun _ _ => True) u := by
  unfold tryOnePort
  dsimp only
  split
  next => exact fun found => Bool.noConfusion found
  next kept =>
    have stored : ((u.setPort side (htons (env.randomPort i side))).get side).getPort ≠ initPort := by
      rw [getPort_setPort]
      exact htons_ne same kept
    rw [wp_bind, wp_update, wp_bind, wp_gets, wp_bind]
    refine wp_checkRc_any (fun curQueue => ?_) (fun _ => trivial)
    split
    next => exact wp_checkRc_any (fun _ _ => stored) (fun _ => trivial)
    next => exact fun found => Bool.noConfusion found

theorem rxRulesFullPart_offering (partialSrc : Bool) (port : Side → BitVec 16)
    (kept : port (changedSide partialSrc) ≠ (Addrs.get ⟨iutAddr, tstAddr⟩ (changedSide partialSrc)).getPort)
    (defQueue : UInt32) :
    rxRulesFullPart (offering port defQueue) iutAddr tstAddr partialSrc defQueue =
      (.ok (), Addrs.setPort ⟨iutAddr, tstAddr⟩ (changedSide partialSrc) (htons (port (changedSide partialSrc)))) := by
  apply attemptLoop_first
  · unfold maxAttempts
    decide
  · have kept : ¬(offering port defQueue).randomPort 0 (changedSide partialSrc) =
        (Addrs.get ⟨iutAddr, tstAddr⟩ (changedSide partialSrc)).getPort := kept
    simp only [tryOnePort, if_neg kept]
    simp only [offering, checkRc, pure_bind, if_true]
    rfl

theorem fullPartDiffers_iff (partialSrc : Bool) :
    FullPartDiffers iutAddr tstAddr partialSrc ↔
      Palindromic (Addrs.get ⟨iutAddr, tstAddr⟩ (changedSide partialSrc)).getPort := by
  constructor
  · intro differs
    by_contra asymmetric
    have run := rxRulesFullPart_offering iutAddr tstAddr partialSrc
      (fun _ => htons (Addrs.get ⟨iutAddr, tstAddr⟩ (changedSide partialSrc)).getPort) asymmetric 0
    apply differs _ _ _ run
    rw [getPort_setPort, htons_htons]
  · intro same env defQueue new run
    apply attemptLoop_success (fun new => (new.get (changedSide partialSrc)).getPort ≠
      (Addrs.get ⟨iutAddr, tstAddr⟩ (changedSide partialSrc)).getPort) _ run
    exact tryOnePort_wp same env (changedSide partialSrc) defQueue

/-- Whatever `get_iut_addr()` finds has another port than the one it is told to exclude. -/
def GetIutAddrDiffers (excluded : NetAddr) : Prop :=
  ∀ env ruleQueue new, getIutAddr env iutAddr tstAddr ruleQueue excluded.getPort = (.ok (), new) →
    new.getPort ≠ excluded.getPort

omit iutAddr in
theorem tryIutPort_wp {excludePort : BitVec 16} (same : Palindromic excludePort) (env : Env)
    (ruleQueue : UInt32) (i : Nat) (u : NetAddr) :
    (tryIutPort env tstAddr ruleQueue excludePort i).wp
      (fun found new => found = true → new.getPort ≠ excludePort) (fun _ _ => True) u := by
  unfold tryIutPort
  dsimp only
  split
  next => exact fun found => Bool.noConfusion found
  next kept =>
    have stored : htons (env.randomPort i .iut) ≠ excludePort := htons_ne same kept
    rw [wp_bind, wp_update, wp_bind, wp_gets, wp_bind]
    exact wp_checkRc_any (fun _ _ => stored) (fun _ => trivial)

theorem getIutAddr_offering {port excludePort : BitVec 16} (kept : port ≠ excludePort) {queue ruleQueue : UInt32}
    (other : queue ≠ ruleQueue) :
    getIutAddr (offering (fun _ => port) queue) iutAddr tstAddr ruleQueue excludePort =
      (.ok (), iutAddr.setPort (htons port)) := by
  apply attemptLoop_first
  · unfold maxRuleAttempts
    decide
  · have kept : ¬(offering (fun _ => port) queue).randomPort 0 .iut = excludePort := kept
    have fits : (queue != ruleQueue) = true := by simpa using other
    simp only [tryIutPort, if_neg kept]
    simp only [offering, checkRc, pure_bind, fits]
    rfl

theorem getIutAddrDiffers_iff (excluded : NetAddr) :
    GetIutAddrDiffers iutAddr tstAddr excluded ↔ Palindromic excluded.getPort := by
  constructor
  · intro differs
    by_contra asymmetric
    have run := getIutAddr_offering iutAddr tstAddr asymmetric (show (0 : UInt32) ≠ 1 by decide)
    exact differs _ _ _ run (htons_htons _)
  · intro same env ruleQueue new run
    apply attemptLoop_success (fun new => new.getPort ≠ excluded.getPort) _ run
    exact tryIutPort_wp tstAddr same env ruleQueue

/-- In every run of `af_xdp_two_rules` that gives the first rule a certain port, the second gets another one. -/
def TwoRulesDiffer (port : BitVec 16) : Prop :=
  ∀ first second queue1 queue2 iutAddr1 iutAddr2, queue1 ≠ queue2 →
    chooseIutAddrs first second iutAddr tstAddr queue1 queue2 = .ok (iutAddr1, iutAddr2) →
    iutAddr1.getPort = port → iutAddr2.getPort ≠ port

omit iutAddr tstAddr in
theorem goOn_ok {β : Type} {run : Except Jump Unit × NetAddr} {next : NetAddr → Except Jump β} {b : β} :
    goOn run next = .ok b ↔ ∃ new, run = (.ok (), new) ∧ next new = .ok b := by
  obtain ⟨result, new⟩ := run
  cases result <;> simp [goOn]

theorem chooseIutAddrs_ok {first second : Env} {queue1 queue2 : UInt32} {iutAddr1 iutAddr2 : NetAddr} :
    chooseIutAddrs first second iutAddr tstAddr queue1 queue2 = .ok (iutAddr1, iutAddr2) ↔
      getIutAddr first iutAddr tstAddr queue1 0 = (.ok (), iutAddr1) ∧
      getIutAddr second iutAddr tstAddr queue2 iutAddr1.getPort = (.ok (), iutAddr2) := by
  unfold chooseIutAddrs
  simp only [goOn_ok]
  constructor
  · intro ⟨chosen, firstRun, other, secondRun, same⟩
    obtain ⟨rfl, rfl⟩ : chosen = iutAddr1 ∧ other = iutAddr2 := by simpa using same
    exact ⟨firstRun, secondRun⟩
  · intro ⟨firstRun, secondRun⟩
    exact ⟨iutAddr1, firstRun, iutAddr2, secondRun, rfl⟩

theorem twoRulesDiffer_iff (port : BitVec 16) : TwoRulesDiffer iutAddr tstAddr port ↔ Palindromic port := by
  constructor
  · intro differ
    by_contra asymmetric
    have nonzero : htons port ≠ 0 := by
      intro zero
      have same : port = 0 := by rw [← htons_htons port, zero]; decide
      exact asymmetric (same ▸ zero)
    have firstRun := getIutAddr_offering iutAddr tstAddr nonzero (show (0 : UInt32) ≠ 1 by decide)
    have secondRun := getIutAddr_offering iutAddr tstAddr asymmetric (show (0 : UInt32) ≠ 2 by decide)
    rw [htons_htons] at firstRun secondRun
    have run := (chooseIutAddrs_ok iutAddr tstAddr).mpr ⟨firstRun, secondRun⟩
    exact differ _ _ _ _ _ _ (by decide) run rfl rfl
  · rintro same first second queue1 queue2 iutAddr1 iutAddr2 - run rfl
    have secondRun := ((chooseIutAddrs_ok iutAddr tstAddr).mp run).2
    exact (getIutAddrDiffers_iff iutAddr tstAddr iutAddr1).mpr same _ _ _ secondRun

/-- The new connection is sure to have another port than the first one exactly if that port reads the same
in both byte orders. -/
theorem second_port_differs_iff (partialSrc : Bool) (excluded : NetAddr) (port : BitVec 16) :
    (TcpUdpDiffers iutAddr tstAddr ↔ Palindromic iutAddr.getPort ∧ Palindromic tstAddr.getPort) ∧
      (FullPartDiffers iutAddr tstAddr partialSrc ↔
        Palindromic (Addrs.get ⟨iutAddr, tstAddr⟩ (changedSide partialSrc)).getPort) ∧
      (GetIutAddrDiffers iutAddr tstAddr excluded ↔ Palindromic excluded.getPort) ∧
      (TwoRulesDiffer iutAddr tstAddr port ↔ Palindromic port) :=
  ⟨tcpUdpDiffers_iff iutAddr tstAddr, fullPartDiffers_iff iutAddr tstAddr partialSrc,
    getIutAddrDiffers_iff iutAddr tstAddr excluded, twoRulesDiffer_iff iutAddr tstAddr port⟩

end

def boundAddr : NetAddr := ⟨[10, 0, 0, 1], 0x6050⟩

/-- The port of the first connection, drawn again, passes the comparison and is stored as it was. -/
theorem second_port_reused :
    rxRuleTcpUdp (offering (fun _ => 20576) 0) boundAddr boundAddr 0 = (.ok (), ⟨boundAddr, boundAddr⟩) ∧
      ¬TcpUdpDiffers boundAddr boundAddr ∧ ¬FullPartDiffers boundAddr boundAddr true ∧
      ¬GetIutAddrDiffers boundAddr boundAddr boundAddr ∧ ¬TwoRulesDiffer boundAddr boundAddr 0x6050 := by
  have asymmetric : ¬Palindromic 0x6050 := by
    unfold Palindromic
    decide
  refine ⟨?_, fun differs => ?_, fun differs => ?_, fun differs => ?_, fun differ => ?_⟩
  · exact rxRuleTcpUdp_offering boundAddr boundAddr (fun _ => 20576) (by decide) (by decide) 0
  · exact asymmetric ((tcpUdpDiffers_iff boundAddr boundAddr).mp differs).1
  · exact asymmetric ((fullPartDiffers_iff boundAddr boundAddr true).mp differs)
  · exact asymmetric ((getIutAddrDiffers_iff boundAddr boundAddr boundAddr).mp differs)
  · exact asymmetric ((twoRulesDiffer_iff boundAddr boundAddr 0x6050).mp differ)

end NetDrv.Rss.PortSearch
