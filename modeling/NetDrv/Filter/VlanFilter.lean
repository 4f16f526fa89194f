import NetDrv.Lib.Probe
import NetDrv.Te

/-! The test `offload/vlan_filter` sends packets with and without VLAN tags while VLANs are
added to the IUT interface and removed. It is compared with a filter that lets a tagged
packet in if its VLAN was added. -/

namespace NetDrv.Filter
open Probe

/-- What the configurator answers about a feature of an interface. -/
structure Feature where
  isPresent : Except TeErrno Bool
  get : Except TeErrno Int
  isReadonly : Except TeErrno Bool
  set : Except TeErrno Unit

def checked {α : Type} (answer : Except TeErrno α) : Except Jump α := answer.mapError Jump.checkRc

def setIfFeatureGen (feature : Feature) (featureName : String) (reqStatus : Int) (fineIfImpossible : Bool) :
    Except Jump Unit := do
  if ¬(← checked feature.isPresent) then
    if reqStatus = 0 ∨ fineIfImpossible then .ok ()
    else .error (.skip s!"Feature '{featureName}' is not supported")
  else
    let status ← checked feature.get
    if status = reqStatus then .ok ()
    else if ← checked feature.isReadonly then
      if fineIfImpossible then .ok ()
      else
        let state := if status = 0 then "disabled" else "enabled"
        .error (.skip s!"Feature '{featureName}' is {state} and cannot be modified")
    else checked feature.set

def setIfFeature (feature : Feature) (featureName : String) (reqStatus : Int) : Except Jump Unit :=
  setIfFeatureGen feature featureName reqStatus false

theorem setIfFeature_ok_iff (feature : Feature) (featureName : String) (reqStatus : Int) :
    setIfFeature feature featureName reqStatus = .ok () ↔
      (feature.isPresent = .ok false ∧ reqStatus = 0) ∨
      (feature.isPresent = .ok true ∧ (feature.get = .ok reqStatus ∨
        (∃ status, feature.get = .ok status ∧ status ≠ reqStatus) ∧ feature.isReadonly = .ok false ∧
          feature.set = .ok ())) := by
  unfold setIfFeature setIfFeatureGen checked
  rcases feature with ⟨isPresent, get, isReadonly, set⟩
  cases isPresent with
  | error rc => simp [Except.mapError, bind, Except.bind]
  | ok present =>
    cases present with
    | false =>
      by_cases off : reqStatus = 0 <;> simp [Except.mapError, bind, Except.bind, off]
    | true =>
      cases get with
      | error rc => simp [Except.mapError, bind, Except.bind]
      | ok status =>
        by_cases same : status = reqStatus
        · simp [Except.mapError, bind, Except.bind, same]
        · rcases isReadonly with rc | readonly
          · simp [Except.mapError, bind, Except.bind, same]
          · cases readonly <;> cases set <;> simp [Except.mapError, bind, Except.bind, same]

structure VlanConf where
  filter : Bool
  vlans : List Nat

/-- Packets the interface passes to the host; a packet without a tag has TCI 0. -/
def VlanConf.accepts (conf : VlanConf) (vlanTci : Nat) : Bool :=
  vlanTci == 0 || !conf.filter || conf.vlans.contains vlanTci

/-- Some drivers start to filter when the first VLAN is added. -/
def VlanConf.idle (conf : VlanConf) : Bool := conf.filter && conf.vlans.isEmpty

/-- A packet and the stage at which it is sent. -/
structure VlanPacket where
  stage : String
  vlanTci : Nat
  deriving DecidableEq

def Captured (conf : VlanConf) (packet : VlanPacket) (rxPktsNum : Except TeErrno Nat) : Prop :=
  rxPktsNum = .ok (if conf.accepts packet.vlanTci then 1 else 0) ∨
    (conf.idle = true ∧ packet.vlanTci ≠ 0 ∧ rxPktsNum = .ok 1)

/-- The warning that is due: a tagged packet got through an idle filter. -/
def leak (conf : VlanConf) (packet : VlanPacket) : Except TeErrno Nat → Option String
  | .ok 1 =>
    if conf.idle && packet.vlanTci != 0 then
      let stage := packet.stage
      some s!"{stage}: CSAP on IUT captured the packet"
    else none
  | _ => none

/-- `send_recv_pkt()` after the packet was sent; a `WARN_VERDICT()` is a result. -/
def judgeCaptured (stage : String) (expReceive fail : Bool) : Except TeErrno Nat → Except Jump (Option String)
  | .error rc => .error (.checkRc rc)
  | .ok rxPktsNum =>
    if rxPktsNum > 1 then .error (.verdict s!"{stage}: CSAP on IUT captured more than one packet")
    else if expReceive then
      if rxPktsNum = 0 then
        if fail then .error (.verdict s!"{stage}: CSAP on IUT did not capture the packet")
        else .ok (some s!"{stage}: CSAP on IUT did not capture the packet")
      else .ok none
    else if rxPktsNum ≠ 0 then
      if fail then .error (.verdict s!"{stage}: CSAP on IUT captured the packet")
      else .ok (some s!"{stage}: CSAP on IUT captured the packet")
    else .ok none

abbrev VlanStep := Step Jump String VlanConf VlanPacket (Except TeErrno Nat)

section
variable (rc : Nat → Except TeErrno Unit)

def vlanStep (apply : VlanConf → VlanConf) : VlanStep := .change (fun moment => checked (rc moment)) apply

/-- `send_recv_pkt()`: template, tag, payload, sending and the look at the capture. -/
def vlanSend (vlanTci : Nat) (expReceive fail : Bool) (stage : String) : List VlanStep :=
  List.replicate (if vlanTci ≠ 0 then 5 else 4) (vlanStep rc id) ++
  [.probe ⟨stage, vlanTci⟩ (judgeCaptured stage expReceive fail)]

end

/-- Two VLAN identifiers as `rand_range()` and `te_rand_range_exclude()` choose them. -/
structure VlanIds where
  vlanA : Nat
  vlanB : Nat
  rangeA : 1 ≤ vlanA ∧ vlanA ≤ 4094
  rangeB : 1 ≤ vlanB ∧ vlanB ≤ 4094
  different : vlanB ≠ vlanA

def addVlan (vlanId : Nat) (conf : VlanConf) : VlanConf := { conf with vlans := vlanId :: conf.vlans }

def delVlan (vlanId : Nat) (conf : VlanConf) : VlanConf := { conf with vlans := conf.vlans.filter (· ≠ vlanId) }

/-- The steps of `vlan_filter`. -/
def vlanFilter (rc : Nat → Except TeErrno Unit) (feature : Nat → Feature) (vlanFilterOn : Bool) (ids : VlanIds) :
    List VlanStep :=
  [.change (fun moment => setIfFeature (feature moment) "rx-vlan-filter" (if vlanFilterOn then 1 else 0))
    (fun conf => { conf with filter := vlanFilterOn })] ++
  -- promiscuous mode, the addresses, the two CSAPs and the start of the capture
  List.replicate 5 (vlanStep rc id) ++
  vlanSend rc 0 true true "Sending untagged when no VLANs added" ++
  vlanSend rc ids.vlanA (!vlanFilterOn) (!vlanFilterOn) "Sending to a VLAN when no VLANs added" ++
  [vlanStep rc (addVlan ids.vlanA), vlanStep rc (addVlan ids.vlanB)] ++
  vlanSend rc 0 true true "Sending untagged when VLANs added" ++
  vlanSend rc ids.vlanA true true "Sending to just added VLAN A" ++
  vlanSend rc ids.vlanB true true "Sending to just added VLAN B" ++
  [vlanStep rc (delVlan ids.vlanA)] ++
  vlanSend rc ids.vlanB true true "Sending to still added VLAN B" ++
  vlanSend rc ids.vlanA (!vlanFilterOn) true "Sending to just removed VLAN A" ++
  [vlanStep rc (delVlan ids.vlanB)] ++
  vlanSend rc ids.vlanB (!vlanFilterOn) (!vlanFilterOn) "Sending to a VLAN when all VLANs removed" ++
  vlanSend rc 0 true true "Sending untagged when all VLANs removed"

section
variable {rc : Nat → Except TeErrno Unit} {conf : VlanConf} {vlanTci : Nat} {expReceive fail : Bool}

theorem VlanConf.accepts_of_idle (idle : (conf.idle && vlanTci != 0) = true) : conf.accepts vlanTci = false := by
  obtain ⟨waits, tagged⟩ := (Bool.and_eq_true _ _).mp idle
  have still : conf.filter = true ∧ conf.vlans = [] := by simpa [VlanConf.idle] using waits
  have untagged : (vlanTci == 0) = false := beq_eq_false_iff_ne.mpr (bne_iff_ne.mp tagged)
  rw [VlanConf.accepts, untagged, still.1, still.2]
  rfl

theorem judgeCaptured_exact (stage : String) (receive : conf.accepts vlanTci = expReceive)
    (strict : fail = !(conf.idle && vlanTci != 0)) (rxPktsNum : Except TeErrno Nat) (warning : Option String) :
    judgeCaptured stage expReceive fail rxPktsNum = .ok warning ↔
      Captured conf ⟨stage, vlanTci⟩ rxPktsNum ∧ warning = leak conf ⟨stage, vlanTci⟩ rxPktsNum := by
  unfold Captured
  cases rxPktsNum with
  | error rc => simp [judgeCaptured]
  | ok num =>
    simp only [receive]
    cases lenient : (conf.idle && vlanTci != 0) with
    | true =>
      have dropped : expReceive = false := receive.symm.trans (VlanConf.accepts_of_idle lenient)
      have idle : conf.idle = true ∧ vlanTci ≠ 0 := by simpa using lenient
      rw [lenient] at strict
      rcases num with _ | _ | num
      · simp [judgeCaptured, leak, dropped, @eq_comm _ warning]
      · simp [judgeCaptured, leak, dropped, strict, idle, @eq_comm _ warning]
      · simp [judgeCaptured, dropped]
    | false =>
      have busy : ¬(conf.idle = true ∧ vlanTci ≠ 0) := by simpa using lenient
      rw [lenient] at strict
      rcases num with _ | _ | num
      · cases expReceive <;> simp [judgeCaptured, leak, strict, @eq_comm _ warning]
      · cases expReceive <;> simp [judgeCaptured, leak, strict, lenient, busy, @eq_comm _ warning]
      · cases expReceive <;> simp [judgeCaptured]

theorem vlanSend_sound (stage : String) (receive : conf.accepts vlanTci = expReceive)
    (strict : fail = !(conf.idle && vlanTci != 0)) :
    Sound Captured leak (vlanSend rc vlanTci expReceive fail stage) conf := by
  unfold vlanSend
  rw [sound_append]
  constructor
  · split <;> trivial
  have unchanged : reach (List.replicate (if vlanTci ≠ 0 then 5 else 4) (vlanStep rc id)) conf = conf := by
    split <;> rfl
  rw [unchanged]
  exact ⟨judgeCaptured_exact stage receive strict, trivial⟩

theorem vlanSend_reach (stage : String) : reach (vlanSend rc vlanTci expReceive fail stage) conf = conf := by
  unfold vlanSend
  rw [reach_append]
  split <;> rfl

theorem vlanSend_trace (stage : String) :
    trace (vlanSend rc vlanTci expReceive fail stage) conf = [(conf, ⟨stage, vlanTci⟩)] := by
  unfold vlanSend
  rw [trace_append]
  split <;> rfl

end

section
variable (rc : Nat → Except TeErrno Unit) (feature : Nat → Feature) (start vlanFilterOn : Bool) (ids : VlanIds)

/-- The configuration and the tag, packet by packet. -/
def vlanPackets : List (VlanConf × VlanPacket) :=
  let conf (vlans : List Nat) : VlanConf := ⟨vlanFilterOn, vlans⟩
  [(conf [], ⟨"Sending untagged when no VLANs added", 0⟩),
    (conf [], ⟨"Sending to a VLAN when no VLANs added", ids.vlanA⟩),
    (conf [ids.vlanB, ids.vlanA], ⟨"Sending untagged when VLANs added", 0⟩),
    (conf [ids.vlanB, ids.vlanA], ⟨"Sending to just added VLAN A", ids.vlanA⟩),
    (conf [ids.vlanB, ids.vlanA], ⟨"Sending to just added VLAN B", ids.vlanB⟩),
    (conf [ids.vlanB], ⟨"Sending to still added VLAN B", ids.vlanB⟩),
    (conf [ids.vlanB], ⟨"Sending to just removed VLAN A", ids.vlanA⟩),
    (conf [], ⟨"Sending to a VLAN when all VLANs removed", ids.vlanB⟩),
    (conf [], ⟨"Sending untagged when all VLANs removed", 0⟩)]

theorem del_added : delVlan ids.vlanA (addVlan ids.vlanB (addVlan ids.vlanA ⟨vlanFilterOn, []⟩)) =
    ⟨vlanFilterOn, [ids.vlanB]⟩ := by
  simp [delVlan, addVlan, ids.different]

theorem del_last : delVlan ids.vlanB ⟨vlanFilterOn, [ids.vlanB]⟩ = ⟨vlanFilterOn, []⟩ := by
  simp [delVlan]

theorem vlanFilter_sound {plan : List VlanStep} (same : vlanFilter rc feature vlanFilterOn ids = plan) :
    Sound Captured leak plan ⟨start, []⟩ := by
  subst same
  have tagA : (ids.vlanA == 0) = false := beq_eq_false_iff_ne.mpr (Nat.one_le_iff_ne_zero.mp ids.rangeA.1)
  have tagB : (ids.vlanB == 0) = false := beq_eq_false_iff_ne.mpr (Nat.one_le_iff_ne_zero.mp ids.rangeB.1)
  have one_eq := del_added vlanFilterOn ids
  have none_eq := del_last vlanFilterOn ids
  unfold vlanFilter
  simp only [sound_append, reach_append, vlanSend_reach, vlanStep, reach, Sound, List.replicate, id, true_and, and_true]
  rw [one_eq, none_eq]
  refine ⟨⟨⟨⟨⟨⟨⟨⟨?_, ?_⟩, ?_⟩, ?_⟩, ?_⟩, ?_⟩, ?_⟩, ?_⟩, ?_⟩
  · exact vlanSend_sound _ rfl (by simp)
  · exact vlanSend_sound _ (by simp [VlanConf.accepts, tagA]) (by simp [VlanConf.idle, tagA, bne])
  · exact vlanSend_sound _ rfl (by simp)
  · exact vlanSend_sound _ (by simp [VlanConf.accepts, addVlan]) (by simp [VlanConf.idle, addVlan])
  · exact vlanSend_sound _ (by simp [VlanConf.accepts, addVlan]) (by simp [VlanConf.idle, addVlan])
  · exact vlanSend_sound _ (by simp [VlanConf.accepts]) (by simp [VlanConf.idle])
  · exact vlanSend_sound _ (by simp [VlanConf.accepts, tagA, ids.different.symm]) (by simp [VlanConf.idle])
  · exact vlanSend_sound _ (by simp [VlanConf.accepts, tagB]) (by simp [VlanConf.idle, tagB, bne])
  · exact vlanSend_sound _ rfl (by simp)

theorem vlanFilter_trace :
    trace (vlanFilter rc feature vlanFilterOn ids) ⟨start, []⟩ = vlanPackets vlanFilterOn ids := by
  have one_eq := del_added vlanFilterOn ids
  have none_eq := del_last vlanFilterOn ids
  unfold vlanFilter
  simp only [trace_append, reach_append, vlanSend_reach, vlanSend_trace, vlanStep, trace, reach, List.replicate, id]
  rw [one_eq, none_eq]
  rfl

/-- `vlan_filter` reaches `TEST_SUCCESS` if and only if no call was refused and each packet was captured once
or not at all, as the filter has it; a tagged packet that gets through an idle filter is let pass, and its
warnings are exactly one for each of these. The interface has no VLANs at the start. -/
theorem vlanFilter_passes_iff (device : Nat → VlanConf → VlanPacket → Except TeErrno Nat) :
    let run := Probe.run device (vlanFilter rc feature vlanFilterOn ids) (.start ⟨start, []⟩)
    (run.1 = .ok () ↔ (∀ answer ∈ run.2.answers, answer = .ok ()) ∧
      ∀ o ∈ run.2.seen, Captured o.conf o.stimulus o.outcome) ∧
    (run.1 = .ok () → run.2.seen.map (fun o => (o.conf, o.stimulus)) = vlanPackets vlanFilterOn ids ∧
      run.2.warnings = run.2.seen.filterMap (fun o => leak o.conf o.stimulus o.outcome)) := by
  have listed := vlanFilter_trace rc feature start vlanFilterOn ids
  -- the steps stay folded, or every comparison of two runs evaluates them
  generalize same : vlanFilter rc feature vlanFilterOn ids = plan at *
  obtain ⟨passes, probes⟩ := Probe.passes_iff device plan _ (vlanFilter_sound rc feature start vlanFilterOn ids same)
  refine ⟨passes.trans World.clean_iff, fun passed => ?_⟩
  obtain ⟨made, warned⟩ := probes passed
  exact ⟨made.trans listed, warned⟩

end

def someIds : VlanIds where
  vlanA := 10
  vlanB := 20
  rangeA := ⟨Nat.le_of_ble_eq_true rfl, Nat.le_of_ble_eq_true rfl⟩
  rangeB := ⟨Nat.le_of_ble_eq_true rfl, Nat.le_of_ble_eq_true rfl⟩
  different := Nat.ne_of_beq_eq_false rfl

def lazyFilter (conf : VlanConf) (packet : VlanPacket) : Except TeErrno Nat :=
  .ok (if conf.accepts packet.vlanTci || conf.idle then 1 else 0)

theorem vlanFilter_passes_lazily :
    let run := Probe.run (fun _ => lazyFilter)
      (vlanFilter (fun _ => .ok ()) (fun _ => ⟨.ok true, .ok 0, .ok false, .ok ()⟩) true someIds) (.start ⟨false, []⟩)
    run.1 = .ok () ∧ run.2.warnings = ["Sending to a VLAN when no VLANs added: CSAP on IUT captured the packet",
      "Sending to a VLAN when all VLANs removed: CSAP on IUT captured the packet"] ∧
      run.2.warnings = run.2.seen.filterMap (fun o => leak o.conf o.stimulus o.outcome) := by
  have passed : (Probe.run (fun _ => lazyFilter)
      (vlanFilter (fun _ => .ok ()) (fun _ => ⟨.ok true, .ok 0, .ok false, .ok ()⟩) true someIds)
      (.start ⟨false, []⟩)).1 = .ok () := by
    decide +kernel
  have warned : (Probe.run (fun _ => lazyFilter)
      (vlanFilter (fun _ => .ok ()) (fun _ => ⟨.ok true, .ok 0, .ok false, .ok ()⟩) true someIds)
      (.start ⟨false, []⟩)).2.warnings =
        ["Sending to a VLAN when no VLANs added: CSAP on IUT captured the packet",
          "Sending to a VLAN when all VLANs removed: CSAP on IUT captured the packet"] := by
    decide +kernel
  have all := (vlanFilter_passes_iff (fun _ => .ok ()) (fun _ => ⟨.ok true, .ok 0, .ok false, .ok ()⟩) false true
    someIds (fun _ => lazyFilter)).2
  generalize Probe.run (fun _ => lazyFilter) _ _ = run at *
  exact ⟨passed, warned, (all passed).2⟩

end NetDrv.Filter
