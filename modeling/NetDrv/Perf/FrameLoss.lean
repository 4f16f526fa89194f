import Mathlib.Algebra.BigOperators.Ring.Finset
import Mathlib.Algebra.Order.Ring.Rat
import NetDrv.Lib.Mediant
import NetDrv.Lib.Script
import NetDrv.Te

/-! `perf/raw_frame_perf` floods a number of links and judges the loss of frames by the
counters of the interfaces at their ends. Each link is judged on its own, which is only
logged, and all links together, which makes a verdict. -/

namespace NetDrv.Perf
open Script

structure IfStats where
  inOctets : BitVec 64
  inUcastPkts : BitVec 64
  inNucastPkts : BitVec 64
  inDiscards : BitVec 64
  inErrors : BitVec 64
  inUnknownProtos : BitVec 64
  outOctets : BitVec 64
  outUcastPkts : BitVec 64
  outNucastPkts : BitVec 64
  outDiscards : BitVec 64
  outErrors : BitVec 64
  deriving DecidableEq, Repr

/-- `if_counter_delta()`; it warns of a counter that has decreased. -/
def ifCounterDelta (before after : BitVec 64) : BitVec 64 := if after < before then 0 else after - before

def calcIfStatsDelta (before after : IfStats) : IfStats where
  inOctets := ifCounterDelta before.inOctets after.inOctets
  inUcastPkts := ifCounterDelta before.inUcastPkts after.inUcastPkts
  inNucastPkts := ifCounterDelta before.inNucastPkts after.inNucastPkts
  inDiscards := ifCounterDelta before.inDiscards after.inDiscards
  inErrors := ifCounterDelta before.inErrors after.inErrors
  inUnknownProtos := ifCounterDelta before.inUnknownProtos after.inUnknownProtos
  outOctets := ifCounterDelta before.outOctets after.outOctets
  outUcastPkts := ifCounterDelta before.outUcastPkts after.outUcastPkts
  outNucastPkts := ifCounterDelta before.outNucastPkts after.outNucastPkts
  outDiscards := ifCounterDelta before.outDiscards after.outDiscards
  outErrors := ifCounterDelta before.outErrors after.outErrors

/-- A link, as far as it is known after the frames were sent. -/
structure Link where
  senderBefore : IfStats
  senderAfter : IfStats
  receiverBefore : IfStats
  receiverAfter : IfStats
  /-- How long the sender was active, in seconds. -/
  txTime : ℚ
  linkSpeedBps : Nat

def Link.senderDiff (link : Link) : IfStats := calcIfStatsDelta link.senderBefore link.senderAfter

def Link.receiverDiff (link : Link) : IfStats := calcIfStatsDelta link.receiverBefore link.receiverAfter

def Link.txIfPkts (link : Link) : BitVec 64 := link.senderDiff.outUcastPkts

/-- What `rx_if_pkts` is at first: packets that were dropped later count as received. -/
def Link.rxCounted (link : Link) : BitVec 64 := link.receiverDiff.inUcastPkts + link.receiverDiff.inDiscards

def Link.rxIfPkts (link : Link) : BitVec 64 := if link.rxCounted > link.txIfPkts then link.txIfPkts else link.rxCounted

def Link.lossPkts (link : Link) : Int := link.txIfPkts.toInt - link.rxIfPkts.toInt

def Link.lossPct (link : Link) : ℚ := if link.txIfPkts > 0 then link.lossPkts * 100 / link.txIfPkts.toNat else 0

def rxTxPktsGap : BitVec 64 := 10

def txIfPktsTotal (links : List Link) : BitVec 64 := links.foldl (fun total link => total + link.txIfPkts) 0

def rxIfPktsTotal (links : List Link) : BitVec 64 := links.foldl (fun total link => total + link.rxIfPkts) 0

def lossPkts (links : List Link) : Int := (txIfPktsTotal links).toInt - (rxIfPktsTotal links).toInt

def lossPct (links : List Link) : ℚ :=
  if txIfPktsTotal links > 0 then lossPkts links * 100 / (txIfPktsTotal links).toNat else 0

/-- What the test gets from its parameters and from the hosts. -/
structure Env where
  links : List Link
  pktL1Bits : Nat
  maxLossPct : ℚ
  iutIsSender : Bool
  /-- The failure of reading the counters after the transfer, for a link. -/
  ifStatsGet : Nat → Option TeErrno
  /-- Why the statistics of the receiving CSAP of a link could not be obtained. -/
  csapTpStats : Nat → Option Jump
  /-- The failure of reading the timestamps of the sender of a link. -/
  timestamps : Nat → Option TeErrno
  /-- The failure of `te_mi_logger_meas_create()`. -/
  miLogger : Option TeErrno

structure Report where
  errorVerdicts : List String
  /-- Numbers of the links reported to lose more frames than is acceptable. -/
  exceeding : List Nat
  /-- The loop over the links was left at its end. -/
  linksChecked : Bool
  deriving DecidableEq, Repr

def Report.start : Report := ⟨[], [], false⟩

def errorVerdict (text : String) : Script Jump Report Unit :=
  update (fun report => { report with errorVerdicts := report.errorVerdicts ++ [text] })

def checkRcOf (rc : Option TeErrno) : Script Jump Report Unit :=
  match rc with
  | none => pure ()
  | some rc => fail (.checkRc rc)

def eps : ℚ := 1 / 100000

section
variable (env : Env)

def accountLink (i : Nat) (link : Link) : Script Jump Report Unit := do
  checkRcOf (env.ifStatsGet i)
  when (link.rxCounted > link.txIfPkts && link.rxCounted - link.txIfPkts > rxTxPktsGap)
    (errorVerdict "Rx interface counted more packets than Tx interface")

/-- `tx_l1_bps_per_link`, or `rx_l1_bps_per_link`, for a number of packets of a link. -/
def l1Bps (link : Link) (pkts : BitVec 64) : ℚ := if link.txTime > 0 then pkts.toNat / link.txTime * env.pktL1Bits else 0

def checkedL1Bps (link : Link) : ℚ := l1Bps env link (if env.iutIsSender then link.rxIfPkts else link.txIfPkts)

def checkLink (i : Nat) (link : Link) : Script Jump Report Unit := do
  when (link.lossPct > env.maxLossPct)
    (update (fun report => { report with exceeding := report.exceeding ++ [i] }))
  if checkedL1Bps env link < eps then fail (.verdict "Zero IUT throughput in checked direction")
  else
    when (checkedL1Bps env link < link.linkSpeedBps / 100)
      (fail (.verdict "IUT throughput is too low in checked direction"))

def Env.numbered : List (Link × Nat) := env.links.zipIdx

def gather : Script Jump Report Unit := do
  forEach env.numbered (fun (link, i) => accountLink env i link)
  forEach env.numbered (fun (_, i) =>
    match env.csapTpStats i with
    | none => pure ()
    | some jump => fail jump)
  forEach env.numbered (fun (_, i) => checkRcOf (env.timestamps i))

def thresholdVerdict : String := "Frame loss exceeds configured threshold"

def judge : Script Jump Report Unit := do
  gather env
  forEach env.numbered (fun (link, i) => checkLink env i link)
  update (fun report => { report with linksChecked := true })
  checkRcOf env.miLogger
  when (lossPct env.links > env.maxLossPct) (errorVerdict thresholdVerdict)

def report : Report := (judge env Report.start).2

end

/-- What is promised of the counters: neither a difference nor a total reaches `2^63`. -/
structure Bounded (links : List Link) : Prop where
  tx : ∀ link ∈ links, link.senderDiff.outUcastPkts.toNat < 2 ^ 63
  rx : ∀ link ∈ links, link.receiverDiff.inUcastPkts.toNat < 2 ^ 63 ∧ link.receiverDiff.inDiscards.toNat < 2 ^ 63
  total : (links.map (fun link => link.txIfPkts.toNat)).sum < 2 ^ 63

section
variable {links : List Link} {link : Link}

theorem ifCounterDelta_toNat (before after : BitVec 64) :
    (ifCounterDelta before after).toNat = after.toNat - before.toNat := by
  unfold ifCounterDelta
  split
  next decreased =>
    have less : after.toNat < before.toNat := decreased
    rw [Nat.sub_eq_zero_of_le less.le]
    rfl
  next grown =>
    have le : before ≤ after := BitVec.not_lt.1 grown
    rw [BitVec.toNat_sub_of_le le]

theorem rxIfPkts_le (link : Link) : link.rxIfPkts ≤ link.txIfPkts := by
  unfold Link.rxIfPkts
  split
  next more => exact BitVec.le_refl _
  next less => exact BitVec.not_lt.1 less

theorem toInt_of_lt {x : BitVec 64} (small : x.toNat < 2 ^ 63) : x.toInt = x.toNat := by
  rw [BitVec.toInt_eq_toNat_cond, if_pos (by omega)]

theorem rxIfPkts_toNat_le (link : Link) : link.rxIfPkts.toNat ≤ link.txIfPkts.toNat := rxIfPkts_le link

theorem foldl_add_toNat (count : Link → BitVec 64) (links : List Link) (start : BitVec 64)
    (small : start.toNat + (links.map (fun link => (count link).toNat)).sum < 2 ^ 64) :
    (links.foldl (fun total link => total + count link) start).toNat =
      start.toNat + (links.map (fun link => (count link).toNat)).sum := by
  induction links generalizing start with
  | nil => rfl
  | cons link links ih =>
    rw [List.map_cons, List.sum_cons] at small ⊢
    have next : (start + count link).toNat = start.toNat + (count link).toNat :=
      BitVec.toNat_add_of_lt (by omega)
    rw [List.foldl_cons, ih _ (by omega), next]
    omega

theorem Bounded.txTotal (bounded : Bounded links) :
    (txIfPktsTotal links).toNat = (links.map (fun link => link.txIfPkts.toNat)).sum := by
  have small := bounded.total
  rw [txIfPktsTotal, foldl_add_toNat Link.txIfPkts links 0 (by simp; omega)]
  simp

theorem sum_rx_le (links : List Link) :
    (links.map (fun link => link.rxIfPkts.toNat)).sum ≤ (links.map (fun link => link.txIfPkts.toNat)).sum := by
  apply List.sum_le_sum
  intro link _
  exact rxIfPkts_toNat_le link

theorem Bounded.rxTotal (bounded : Bounded links) :
    (rxIfPktsTotal links).toNat = (links.map (fun link => link.rxIfPkts.toNat)).sum := by
  have small := bounded.total
  have le := sum_rx_le links
  rw [rxIfPktsTotal, foldl_add_toNat Link.rxIfPkts links 0 (by simp; omega)]
  simp

theorem Bounded.rxIfPkts (bounded : Bounded links) (mem : link ∈ links) :
    link.rxIfPkts.toNat = min link.txIfPkts.toNat
      ((link.receiverAfter.inUcastPkts.toNat - link.receiverBefore.inUcastPkts.toNat) +
        (link.receiverAfter.inDiscards.toNat - link.receiverBefore.inDiscards.toNat)) := by
  obtain ⟨ucast, discards⟩ := bounded.rx link mem
  have counted : link.rxCounted.toNat = link.receiverDiff.inUcastPkts.toNat + link.receiverDiff.inDiscards.toNat :=
    BitVec.toNat_add_of_lt (by omega)
  simp only [Link.receiverDiff, calcIfStatsDelta, ifCounterDelta_toNat] at counted
  rw [← counted]
  unfold Link.rxIfPkts
  split
  next more =>
    have less : link.txIfPkts.toNat < link.rxCounted.toNat := more
    omega
  next less =>
    have le : link.rxCounted.toNat ≤ link.txIfPkts.toNat := BitVec.not_lt.1 less
    omega

theorem Bounded.linkLoss (bounded : Bounded links) (mem : link ∈ links) :
    link.lossPkts = link.txIfPkts.toNat - link.rxIfPkts.toNat := by
  have tx : link.txIfPkts.toNat < 2 ^ 63 := bounded.tx link mem
  have rx := rxIfPkts_toNat_le link
  rw [Link.lossPkts, toInt_of_lt tx, toInt_of_lt (by omega)]

theorem Bounded.loss (bounded : Bounded links) :
    lossPkts links = (links.map Link.lossPkts).sum ∧ 0 ≤ lossPkts links ∧
      lossPkts links ≤ (txIfPktsTotal links).toNat := by
  have small := bounded.total
  have le := sum_rx_le links
  have total : lossPkts links = (links.map (fun link => link.txIfPkts.toNat)).sum -
      (links.map (fun link => link.rxIfPkts.toNat)).sum := by
    rw [lossPkts, toInt_of_lt (by rw [bounded.txTotal]; exact small), toInt_of_lt (by rw [bounded.rxTotal]; omega),
      bounded.txTotal, bounded.rxTotal]
  have each : (links.map Link.lossPkts).sum = (links.map (fun link => link.txIfPkts.toNat)).sum -
      (links.map (fun link => link.rxIfPkts.toNat)).sum := by
    have terms : links.map Link.lossPkts = links.map (fun link => (link.txIfPkts.toNat : Int) - link.rxIfPkts.toNat) :=
      List.map_congr_left (fun link mem => bounded.linkLoss mem)
    rw [terms]
    clear * -
    induction links with
    | nil => rfl
    | cons link links ih =>
      simp only [List.map_cons, List.sum_cons, ih]
      omega
  rw [bounded.txTotal]
  omega

theorem lossPct_of_tx (sent : 0 < link.txIfPkts.toNat) :
    link.lossPct = link.lossPkts * 100 / link.txIfPkts.toNat := by
  have positive : link.txIfPkts > 0 := sent
  rw [Link.lossPct, if_pos positive]

theorem Bounded.lossPct (bounded : Bounded links) (sent : 0 < (txIfPktsTotal links).toNat) :
    lossPct links = (links.map (fun link => (link.lossPkts * 100 : ℚ))).sum /
      (links.map (fun link => (link.txIfPkts.toNat : ℚ))).sum := by
  have positive : txIfPktsTotal links > 0 := sent
  have tx : ((txIfPktsTotal links).toNat : ℚ) = (links.map (fun link => (link.txIfPkts.toNat : ℚ))).sum := by
    rw [bounded.txTotal, Nat.cast_list_sum, List.map_map]
    rfl
  have loss : (lossPkts links : ℚ) * 100 = (links.map (fun link => (link.lossPkts * 100 : ℚ))).sum := by
    rw [bounded.loss.1, Int.cast_list_sum, List.map_map, List.sum_map_mul_right]
    rfl
  rw [Perf.lossPct, if_pos positive, tx, loss]

theorem Bounded.lossPct_between (bounded : Bounded links) (sent : 0 < (txIfPktsTotal links).toNat) :
    (∃ low ∈ links, 0 < low.txIfPkts.toNat ∧ low.lossPct ≤ Perf.lossPct links) ∧
    ∃ high ∈ links, 0 < high.txIfPkts.toNat ∧ Perf.lossPct links ≤ high.lossPct := by
  let num : Link → ℚ := fun link => link.lossPkts * 100
  let den : Link → ℚ := fun link => link.txIfPkts.toNat
  have total : (0 : ℚ) < (links.map den).sum := by
    have positive : (0 : ℚ) < ((txIfPktsTotal links).toNat : ℚ) := by exact_mod_cast sent
    rw [bounded.txTotal, Nat.cast_list_sum, List.map_map] at positive
    exact positive
  have nonneg : ∀ link ∈ links, 0 ≤ den link := fun link _ => Nat.cast_nonneg _
  have empty : ∀ link ∈ links, den link = 0 → num link = 0 := by
    intro link mem zero
    have none : link.txIfPkts.toNat = 0 := Nat.cast_eq_zero.1 zero
    have rx := rxIfPkts_toNat_le link
    have loss : link.lossPkts = 0 := by
      rw [bounded.linkLoss mem]
      omega
    show (link.lossPkts : ℚ) * 100 = 0
    rw [loss]
    simp
  have quotient : ∀ link, 0 < den link → link.lossPct = num link / den link :=
    fun link sent => lossPct_of_tx (Nat.cast_pos.1 sent)
  rw [bounded.lossPct sent]
  constructor
  · obtain ⟨low, mem, pos, le⟩ := Mediant.exists_div_le empty nonneg total
    exact ⟨low, mem, Nat.cast_pos.1 pos, by rw [quotient low pos]; exact le⟩
  · obtain ⟨high, mem, pos, le⟩ := Mediant.exists_le_div empty nonneg total
    exact ⟨high, mem, Nat.cast_pos.1 pos, by rw [quotient high pos]; exact le⟩

end

section
variable {env : Env}

/-- What the loops before the loop over the links leave behind. -/
structure Early (report : Report) : Prop where
  quiet : thresholdVerdict ∉ report.errorVerdicts
  unchecked : report.linksChecked = false

theorem checkRcOf_keeps (inv : Report → Prop) (rc : Option TeErrno) : (checkRcOf rc).Keeps inv := by
  intro report here
  cases rc with
  | none => exact here
  | some rc => exact here

theorem gather_keeps : (gather env).Keeps Early := by
  apply keeps_bind
  · apply keeps_forEach
    intro (link, i) _
    apply keeps_bind (checkRcOf_keeps Early _)
    intro _ report early
    unfold when
    split
    · refine ⟨?_, early.unchecked⟩
      simp only [errorVerdict, update, List.mem_append, List.mem_singleton, not_or]
      exact ⟨early.quiet, by decide⟩
    · exact early
  · intro _
    apply keeps_bind
    · apply keeps_forEach
      intro (_, i) _ report early
      simp only
      cases env.csapTpStats i with
      | none => exact early
      | some jump => exact early
    · intro _
      apply keeps_forEach
      intro (_, i) _
      exact checkRcOf_keeps Early _

/-- The links judged so far that lose too much are all reported. -/
def Reported (env : Env) (judged : List (Link × Nat)) (report : Report) : Prop :=
  ∀ link i, (link, i) ∈ judged → link.lossPct > env.maxLossPct → i ∈ report.exceeding

theorem checkLink_wp {judged : List (Link × Nat)} {report : Report} (i : Nat) (link : Link) (early : Early report)
    (reported : Reported env judged report) :
    (checkLink env i link).wp (fun _ after => Early after ∧ Reported env (judged ++ [(link, i)]) after)
      (fun _ => Early) report := by
  have next : Early (if link.lossPct > env.maxLossPct then { report with exceeding := report.exceeding ++ [i] }
      else report) := by
    split
    · exact ⟨early.quiet, early.unchecked⟩
    · exact early
  have grown : Reported env (judged ++ [(link, i)]) (if link.lossPct > env.maxLossPct then
      { report with exceeding := report.exceeding ++ [i] } else report) := by
    intro other j mem above
    rw [List.mem_append, List.mem_singleton, Prod.mk.injEq] at mem
    rcases mem with earlier | ⟨rfl, rfl⟩
    · have known := reported other j earlier above
      split
      · exact List.mem_append_left _ known
      · exact known
    · rw [if_pos above]
      exact List.mem_append_right _ (List.mem_singleton_self j)
  have step : (when (link.lossPct > env.maxLossPct) (update (fun report =>
      { report with exceeding := report.exceeding ++ [i] })) : Script Jump Report Unit) report = (.ok (),
      if link.lossPct > env.maxLossPct then { report with exceeding := report.exceeding ++ [i] } else report) := by
    by_cases above : link.lossPct > env.maxLossPct <;> simp [when, above, update, pure]
  rw [checkLink, wp, bind_ok step, ← wp]
  split
  · exact next
  · apply wp_when
    · intro _
      exact next
    · intro _
      exact ⟨next, grown⟩

/-- What the test has said at its end, wherever that is. -/
structure Judged (env : Env) (report : Report) : Prop where
  verdict : thresholdVerdict ∈ report.errorVerdicts →
    report.linksChecked = true ∧ lossPct env.links > env.maxLossPct
  produced : report.linksChecked = true → env.miLogger = none → lossPct env.links > env.maxLossPct →
    thresholdVerdict ∈ report.errorVerdicts
  exceeding : report.linksChecked = true → Reported env env.numbered report

theorem Early.judged {report : Report} (early : Early report) : Judged env report where
  verdict said := absurd said early.quiet
  produced checked := by simp [early.unchecked] at checked
  exceeding checked := by simp [early.unchecked] at checked

theorem judge_wp : (judge env).wp (fun _ => Judged env) (fun _ => Judged env) Report.start := by
  have start : Early Report.start := ⟨List.not_mem_nil, rfl⟩
  unfold judge
  apply wp_seq (keeps_iff_wp.1 gather_keeps _ start) _ (fun _ _ => Early.judged)
  intro _ read early
  have loop : (forEach env.numbered (fun (link, i) => checkLink env i link)).wp
      (fun _ after => Early after ∧ Reported env env.numbered after) (fun _ => Early) read := by
    apply wp_forEach (fun judged report => Early report ∧ Reported env judged report)
    · intro before (link, i) _ report _ here
      exact checkLink_wp i link here.1 here.2
    · exact ⟨early, by simp [Reported]⟩
  apply wp_seq loop _ (fun _ _ => Early.judged)
  intro _ checked here
  rw [wp_bind, wp_update]
  have quiet : thresholdVerdict ∉ checked.errorVerdicts := here.1.quiet
  cases logger : env.miLogger with
  | some rc => exact ⟨fun said => absurd said quiet, by simp [logger], fun _ => here.2⟩
  | none =>
    rw [checkRcOf, pure_bind]
    apply wp_when
    · intro above
      have said : thresholdVerdict ∈ checked.errorVerdicts ++ [thresholdVerdict] := by simp
      exact ⟨fun _ => ⟨rfl, of_decide_eq_true above⟩, fun _ _ _ => said, fun _ => here.2⟩
    · intro below
      have low := of_decide_eq_false below
      exact ⟨fun said => absurd said quiet, fun _ _ above => absurd above low, fun _ => here.2⟩

theorem report_judged (env : Env) : Judged env (report env) :=
  wp_final (Judged env) judge_wp (fun _ _ judged => judged) (fun _ _ judged => judged)

theorem sent_of_loss {links : List Link} {threshold : ℚ} (nonneg : 0 ≤ threshold) (above : lossPct links > threshold) :
    0 < (txIfPktsTotal links).toNat := by
  by_contra none
  have zero : ¬txIfPktsTotal links > 0 := none
  rw [lossPct, if_neg zero] at above
  exact absurd above (not_lt.2 nonneg)

theorem exists_mem_numbered {link : Link} (mem : link ∈ env.links) : ∃ i, (link, i) ∈ env.numbered := by
  obtain ⟨i, here⟩ := List.mem_iff_getElem?.1 mem
  exact ⟨i, List.mem_zipIdx_iff_getElem?.2 here⟩

theorem sent_of_link {links : List Link} {link : Link} (bounded : Bounded links) (mem : link ∈ links)
    (sent : 0 < link.txIfPkts.toNat) : 0 < (txIfPktsTotal links).toNat := by
  have le : link.txIfPkts.toNat ≤ (links.map (fun link => link.txIfPkts.toNat)).sum :=
    List.le_sum_of_mem (List.mem_map_of_mem mem)
  rw [bounded.txTotal]
  omega

end

/-- The accounting of lost frames, for every number of links and all counters. -/
theorem frame_loss_accounting (env : Env) (bounded : Bounded env.links) :
    (∀ link ∈ env.links, link.rxIfPkts.toNat ≤ link.txIfPkts.toNat ∧
      link.txIfPkts.toNat = link.senderAfter.outUcastPkts.toNat - link.senderBefore.outUcastPkts.toNat ∧
      link.rxIfPkts.toNat = min link.txIfPkts.toNat
        ((link.receiverAfter.inUcastPkts.toNat - link.receiverBefore.inUcastPkts.toNat) +
          (link.receiverAfter.inDiscards.toNat - link.receiverBefore.inDiscards.toNat))) ∧
    (lossPkts env.links = (env.links.map Link.lossPkts).sum ∧ 0 ≤ lossPkts env.links ∧
      lossPkts env.links ≤ (txIfPktsTotal env.links).toNat) ∧
    ((∃ link ∈ env.links, 0 < link.txIfPkts.toNat) →
      (∃ low ∈ env.links, 0 < low.txIfPkts.toNat ∧ low.lossPct ≤ lossPct env.links) ∧
      ∃ high ∈ env.links, 0 < high.txIfPkts.toNat ∧ lossPct env.links ≤ high.lossPct) ∧
    (0 ≤ env.maxLossPct → thresholdVerdict ∈ (report env).errorVerdicts →
      ∃ link i, (link, i) ∈ env.numbered ∧ link.lossPct > env.maxLossPct ∧ i ∈ (report env).exceeding) ∧
    ((report env).linksChecked = true → env.miLogger = none → (∃ link ∈ env.links, 0 < link.txIfPkts.toNat) →
      (∀ link ∈ env.links, 0 < link.txIfPkts.toNat → link.lossPct > env.maxLossPct) →
      thresholdVerdict ∈ (report env).errorVerdicts) := by
  have judged := report_judged env
  refine ⟨?_, bounded.loss, ?_, ?_, ?_⟩
  · intro link mem
    exact ⟨rxIfPkts_toNat_le link, ifCounterDelta_toNat _ _, bounded.rxIfPkts mem⟩
  · intro ⟨link, mem, sent⟩
    exact bounded.lossPct_between (sent_of_link bounded mem sent)
  · intro nonneg said
    obtain ⟨checked, above⟩ := judged.verdict said
    obtain ⟨high, mem, -, le⟩ := (bounded.lossPct_between (sent_of_loss nonneg above)).2
    have exceeds : high.lossPct > env.maxLossPct := above.trans_le le
    obtain ⟨i, here⟩ := exists_mem_numbered mem
    exact ⟨high, i, here, exceeds, judged.exceeding checked high i here exceeds⟩
  · intro checked logger ⟨link, mem, sent⟩ all
    obtain ⟨low, memLow, sentLow, le⟩ := (bounded.lossPct_between (sent_of_link bounded mem sent)).1
    exact judged.produced checked logger ((all low memLow sentLow).trans_le le)

def IfStats.ofPkts (inUcastPkts inDiscards outUcastPkts : BitVec 64) : IfStats :=
  ⟨0, inUcastPkts, 0, inDiscards, 0, 0, 0, outUcastPkts, 0, 0, 0⟩

/-- A link that loses half of a hundred frames, and one that loses a tenth; one counter has decreased. -/
def twoLinks : Env where
  links := [⟨.ofPkts 0 0 7, .ofPkts 0 0 107, .ofPkts 5 9 0, .ofPkts 55 3 0, 1, 1000⟩,
    ⟨.ofPkts 0 0 0, .ofPkts 0 0 100, .ofPkts 0 0 0, .ofPkts 80 10 0, 1, 1000⟩]
  pktL1Bits := 672
  maxLossPct := 20
  iutIsSender := true
  ifStatsGet := fun _ => none
  csapTpStats := fun _ => none
  timestamps := fun _ => none
  miLogger := none

theorem frame_loss_two_links :
    lossPct twoLinks.links = 30 ∧ thresholdVerdict ∈ (report twoLinks).errorVerdicts ∧
    ∃ link i, (link, i) ∈ twoLinks.numbered ∧ link.lossPct > twoLinks.maxLossPct ∧ i ∈ (report twoLinks).exceeding := by
  have bounded : Bounded twoLinks.links := ⟨by decide, by decide, by decide⟩
  have said : thresholdVerdict ∈ (report twoLinks).errorVerdicts := by decide +kernel
  exact ⟨by decide +kernel, said, (frame_loss_accounting twoLinks bounded).2.2.2.1 (by decide +kernel) said⟩

/-- The same links with a lower threshold, where the measurements cannot be logged. -/
def unlogged : Env := { twoLinks with maxLossPct := 5, miLogger := some (teRc .tapi .enomem) }

/-- `log_summary_mi()` leaves the test between the loop over the links and the verdict. -/
theorem frame_loss_unlogged :
    Bounded unlogged.links ∧ 0 ≤ unlogged.maxLossPct ∧ (report unlogged).linksChecked = true ∧
      (∃ link ∈ unlogged.links, 0 < link.txIfPkts.toNat) ∧
      (∀ link ∈ unlogged.links, 0 < link.txIfPkts.toNat → link.lossPct > unlogged.maxLossPct) ∧
      thresholdVerdict ∉ (report unlogged).errorVerdicts := by
  have bounded : Bounded unlogged.links := ⟨by decide, by decide, by decide⟩
  exact ⟨bounded, by decide +kernel, by decide +kernel, by decide, by decide +kernel, by decide +kernel⟩

end NetDrv.Perf
