import NetDrv.RxRules.Steering

/-! What the error verdicts of `check_free_stats()` in `rx_rules_full_part` say about the NIC. The first connection is for the
full rule and the second one for the partial rule, but the second is so only if it has another
port than the first. -/

namespace NetDrv.Steering
open Script Specific Rss Rss.PortSearch

section Complaints
variable {queue1 queue2 defQueue expQueue : UInt32} {vpref : String}

/-- A complaint is about something, and once about an unknown queue there is one. -/
structure Complaint.Sound (complaint : Complaint) (wrong : Prop) : Prop where
  verdicts : complaint.verdicts = [] ↔ ¬wrong
  failed : complaint.failed = true ↔ wrong
  unknown : complaint.unknownQueue = true → wrong

theorem Complaint.sound_add (complaint : Complaint) {wrong : Prop} (message : String) (holds : wrong) :
    (complaint.add message).Sound wrong where
  verdicts := iff_of_false (by simp [Complaint.add]) (fun right => right holds)
  failed := iff_of_true rfl holds
  unknown _ := holds

theorem checkRow_sound {complaint : Complaint} {wrong : Prop} (sound : complaint.Sound wrong) (row : RxqStats) :
    (checkRow queue1 queue2 defQueue expQueue vpref complaint row).Sound
      (wrong ∨ row.pkts ≠ 0 ∧ row.rxQueue ≠ expQueue) := by
  unfold checkRow
  split
  next none =>
    have same : (wrong ∨ row.pkts ≠ 0 ∧ row.rxQueue ≠ expQueue) = wrong := by simp [none]
    rw [same]
    exact sound
  next some =>
    split
    next other =>
      have here : wrong ∨ row.pkts ≠ 0 ∧ row.rxQueue ≠ expQueue := .inr ⟨some, other⟩
      split
      next => exact complaint.sound_add _ here
      next =>
        split
        next => exact complaint.sound_add _ here
        next =>
          split
          next => exact complaint.sound_add _ here
          next =>
            split
            next =>
              have added := complaint.sound_add s!"{vpref}: another Rx queue received packets unexpectedly" here
              exact ⟨added.verdicts, added.failed, fun _ => here⟩
            next known =>
              have before : wrong := sound.unknown (by simpa using known)
              exact ⟨iff_of_false (fun empty => sound.verdicts.mp empty before) (fun right => right here),
                iff_of_true rfl here, fun _ => here⟩
    next expected =>
      have same : (wrong ∨ row.pkts ≠ 0 ∧ row.rxQueue ≠ expQueue) = wrong := by simp [not_not.mp expected]
      rw [same]
      exact sound

theorem foldl_checkRow_sound (stats : List RxqStats) {complaint : Complaint} {wrong : Prop}
    (sound : complaint.Sound wrong) :
    (stats.foldl (checkRow queue1 queue2 defQueue expQueue vpref) complaint).Sound
      (wrong ∨ ¬OnlyQueue expQueue stats) := by
  induction stats generalizing complaint wrong with
  | nil =>
    have same : (wrong ∨ ¬OnlyQueue expQueue []) = wrong := by simp [OnlyQueue]
    rw [same]
    exact sound
  | cons row stats ih =>
    have same : (wrong ∨ ¬OnlyQueue expQueue (row :: stats)) =
        ((wrong ∨ row.pkts ≠ 0 ∧ row.rxQueue ≠ expQueue) ∨ ¬OnlyQueue expQueue stats) := by
      simp only [OnlyQueue, List.forall_mem_cons, eq_iff_iff]
      tauto
    rw [same]
    exact ih (checkRow_sound sound row)

theorem complain_sound (queue1 queue2 defQueue expQueue : UInt32) (vpref : String) (stats : List RxqStats) :
    (complain queue1 queue2 defQueue expQueue vpref stats).Sound (¬OnlyQueue expQueue stats) := by
  have start : (⟨[], false, false⟩ : Complaint).Sound False :=
    ⟨iff_of_true rfl id, iff_of_false (by simp) id, fun wrong => by simp at wrong⟩
  have same : (¬OnlyQueue expQueue stats) = (False ∨ ¬OnlyQueue expQueue stats) := (false_or _).symm
  rw [same]
  exact foldl_checkRow_sound stats start

end Complaints

section Rules
variable {flow : Flow} {tst iut : NetAddr} {rules : List Rule} {full part : Rule}

/-- A rule that names both ends and one that names one of them. -/
structure Pair (flow : Flow) (tst iut : NetAddr) (side : Side) (rules : List Rule) (full part : Rule) : Prop where
  rules_eq : ∀ rule, rule ∈ rules ↔ rule = full ∨ rule = part
  fullFlow : full.flow = flow ∧ full.src = some tst ∧ full.dst = some iut
  partFlow : part.flow = flow
  partEnds : match side with
    | .iut => part.src = some tst ∧ part.dst = none
    | .tst => part.src = none ∧ part.dst = some iut

variable {side : Side} (rss : NetAddr → NetAddr → UInt32)

theorem Pair.weight_lt (pair : Pair flow tst iut side rules full part) : part.weight < full.weight := by
  obtain ⟨-, src, dst⟩ := pair.fullFlow
  have ends := pair.partEnds
  unfold Rule.weight
  rw [src, dst]
  cases side with
  | iut => simp [ends.1, ends.2]
  | tst => simp [ends.1, ends.2]

theorem Pair.steer_full (pair : Pair flow tst iut side rules full part) :
    steer rss rules ⟨flow, tst, iut⟩ = full.queue := by
  obtain ⟨sameFlow, src, dst⟩ := pair.fullFlow
  have decides : decisive Rule.applies Rule.weight rules ⟨flow, tst, iut⟩ = some full := by
    apply decisive_eq_some ((pair.rules_eq full).mpr (.inl rfl))
    · simp [Rule.applies, sameFlow, src, dst]
    · intro other member _ different
      rcases (pair.rules_eq other).mp member with same | same
      · exact absurd same different
      · exact same ▸ pair.weight_lt
  rw [steer, decides]

theorem Pair.steer_part (pair : Pair flow tst iut side rules full part) {port : BitVec 16}
    (other : port ≠ (Addrs.get ⟨iut, tst⟩ side).getPort) :
    steer rss rules ⟨flow, (Addrs.setPort ⟨iut, tst⟩ side port).tst, (Addrs.setPort ⟨iut, tst⟩ side port).iut⟩ =
      part.queue := by
  obtain ⟨sameFlow, src, dst⟩ := pair.fullFlow
  have ends := pair.partEnds
  have decides : decisive Rule.applies Rule.weight rules
      ⟨flow, (Addrs.setPort ⟨iut, tst⟩ side port).tst, (Addrs.setPort ⟨iut, tst⟩ side port).iut⟩ = some part := by
    apply decisive_eq_some ((pair.rules_eq part).mpr (.inr rfl))
    · cases side with
      | iut => simp [Rule.applies, pair.partFlow, ends.1, ends.2, Addrs.setPort]
      | tst => simp [Rule.applies, pair.partFlow, ends.1, ends.2, Addrs.setPort]
    · intro rule member applies different
      rcases (pair.rules_eq rule).mp member with same | same
      · exfalso
        rw [same] at applies
        simp only [Rule.applies, src, dst, Option.all_some, Bool.and_eq_true, beq_iff_eq] at applies
        apply other
        cases side with
        | iut => exact (congrArg NetAddr.sinPort applies.2).symm
        | tst => exact (congrArg NetAddr.sinPort applies.1.2).symm
      · exact absurd same different
  rw [steer, decides]

end Rules

section Search
variable (env : PortSearch.Env) {start : Addrs} {side : Side}

theorem setPort_setPort (addrs : Addrs) (side : Side) (old port : BitVec 16) :
    (addrs.setPort side old).setPort side port = addrs.setPort side port := by
  cases side <;> rfl

theorem setPort_getPort (addrs : Addrs) (side : Side) : addrs.setPort side (addrs.get side).getPort = addrs := by
  cases side <;> rfl

def OnlyPort (start : Addrs) (side : Side) (addrs : Addrs) : Prop := ∃ port, addrs = start.setPort side port

theorem tryOnePort_keeps (initPort : BitVec 16) (defQueue : UInt32) (i : Nat) :
    (tryOnePort env side initPort defQueue i).Keeps (OnlyPort start side) := by
  rw [keeps_iff_wp]
  intro addrs ⟨old, here⟩
  unfold tryOnePort
  dsimp only
  split
  next => exact ⟨old, here⟩
  next =>
    have stored : OnlyPort start side (addrs.setPort side (htons (env.randomPort i side))) := by
      refine ⟨htons (env.randomPort i side), ?_⟩
      rw [here, setPort_setPort]
    rw [wp_bind, wp_update, wp_bind, wp_gets, wp_bind]
    refine wp_checkRc_any (fun curQueue => ?_) (fun _ => stored)
    split
    next => exact wp_checkRc_any (fun _ => stored) (fun _ => stored)
    next => exact stored

theorem attemptLoop_keeps {σ : Type} {inv : σ → Prop} (attempts : Nat) {tryPort : Nat → Script Jump σ Bool}
    (message : String) (each : ∀ i, (tryPort i).Keeps inv) : (attemptLoop attempts tryPort message).Keeps inv := by
  refine keeps_bind (keeps_findFirst (fun i _ => each i)) ?_
  intro found
  cases found with
  | true => exact keeps_pure ()
  | false => exact fun _ holds => holds

theorem rxRulesFullPart_onlyPort (iut tst : NetAddr) (partialSrc : Bool) (defQueue : UInt32) :
    OnlyPort ⟨iut, tst⟩ (changedSide partialSrc) (rxRulesFullPart env iut tst partialSrc defQueue).2 := by
  apply attemptLoop_keeps
  · exact fun i => tryOnePort_keeps env _ defQueue i
  · exact ⟨_, (setPort_getPort _ _).symm⟩

end Search

section Run
variable (nic : Nic)

def World.Later (w later : World) : Prop := ∃ moment, later = { w with moment := moment }

theorem later_refl (w : World) : w.Later w := ⟨w.moment, rfl⟩

def Passive {α : Type} (x : Script Jump World α) : Prop := ∀ w : World, x.Keeps w.Later

section
variable {nic : Nic}

theorem passive_ask {α : Type} (answer : Nat → α) : Passive (ask answer) := by
  rintro w later ⟨moment, rfl⟩
  exact ⟨moment + 1, rfl⟩

theorem passive_checkRc {α : Type} (answer : Except TeErrno α) : Passive (checkRc answer) := by
  intro w
  cases answer with
  | ok a => exact keeps_pure a
  | error rc => exact fun _ later => later

theorem passive_checked {α : Type} (answer : Nat → Except TeErrno α) : Passive (checked answer) :=
  fun w => keeps_bind (passive_ask answer w) (fun reply => passive_checkRc reply w)

theorem passive_ofExcept {α : Type} (answer : Except Jump α) : Passive (ofExcept answer) := by
  intro w
  cases answer with
  | ok a => exact keeps_pure a
  | error jump => exact fun _ later => later

theorem passive_jumping {α : Type} (answer : Nat → Except Jump α) : Passive (jumping answer) :=
  fun w => keeps_bind (passive_ask answer w) (fun reply => passive_ofExcept reply w)

theorem passive_rxRulesFindLoc : Passive (rxRulesFindLoc nic) := by
  intro w
  refine keeps_bind (passive_ask _ w) (fun specLoc => ?_)
  match specLoc with
  | .error rc => exact keeps_pure _
  | .ok true => exact keeps_pure _
  | .ok false => exact keeps_bind (passive_ask _ w) (fun _ => keeps_pure _)

theorem passive_sendCheckCommon : Passive (sendCheckCommon nic) := by
  intro w
  refine keeps_bind (passive_checked _ w) (fun _ => ?_)
  refine keeps_bind (passive_checked _ w) (fun _ => ?_)
  refine keeps_bind (passive_ask _ w) (fun raw => ?_)
  exact keeps_bind (keeps_forEach (fun _ _ => passive_jumping _ w)) (fun _ => keeps_pure _)

theorem Passive.wp {α : Type} {x : Script Jump World α} (passive : Passive x) (w : World) :
    x.wp (fun _ => w.Later) (fun _ => w.Later) w :=
  keeps_iff_wp.mp (passive w) w (later_refl w)

theorem passive_rssSendGetStats (traffic : Traffic) (vpref : String) : Passive (rssSendGetStats nic traffic vpref) := by
  intro w
  refine keeps_bind (passive_sendCheckCommon w) (fun pktsNum => ?_)
  refine keeps_bind (x := gets World.rules) (fun _ later => later) (fun rules => ?_)
  refine keeps_bind (passive_checked _ w) (fun stats => ?_)
  split
  next => exact fun _ later => later
  next =>
    split
    next => exact fun _ later => later
    next => exact keeps_pure _

theorem rssSendGetStats_wp (traffic : Traffic) (vpref : String) (w : World) :
    (rssSendGetStats nic traffic vpref).wp (fun stats later => w.Later later ∧ gotPkts stats ≠ 0)
      (fun _ => w.Later) w := by
  have some : (rssSendGetStats nic traffic vpref).wp (fun stats _ => gotPkts stats ≠ 0) (fun _ _ => True) w := by
    unfold rssSendGetStats
    refine wp_seq (passive_sendCheckCommon.wp w) ?_ (fun _ _ _ => trivial)
    intro pktsNum t _
    rw [wp_bind, wp_gets]
    refine wp_seq ((passive_checked _).wp t) ?_ (fun _ _ _ => trivial)
    intro stats u _
    split
    next => trivial
    next nonzero =>
      split
      next => trivial
      next => exact nonzero
  refine wp_mono (wp_and ((passive_rssSendGetStats traffic vpref).wp w) some) ?_ ?_
  · exact fun _ _ both => both
  · exact fun _ _ both => both.1

theorem addRule_wp (flowType : Flow) (src dst : Option NetAddr) (queue : UInt32) (ruleName : String) (w : World) :
    (addRule nic flowType src dst queue ruleName).wp
      (fun _ after => ∃ location,
        World.Later { w with rules := w.rules ++ [⟨location, flowType, src, dst, queue⟩] } after)
      (fun _ => w.Later) w := by
  unfold addRule
  refine wp_seq (passive_rxRulesFindLoc.wp w) ?_ (fun _ _ later => later)
  intro found t later
  match found with
  | .error rc =>
    dsimp only
    split
    next => exact later
    next => exact later
  | .ok location =>
    dsimp only
    refine wp_seq (keeps_iff_wp.mp (passive_checked nic.rc w) t later) ?_ (fun _ _ later => later)
    intro _ t later
    refine wp_seq (keeps_iff_wp.mp (passive_checked nic.rc w) t later) ?_ (fun _ _ later => later)
    intro _ t later
    refine wp_seq (keeps_iff_wp.mp (passive_checked nic.rc w) t later) ?_ (fun _ _ later => later)
    intro _ t later
    refine wp_seq (keeps_iff_wp.mp (passive_ask nic.rc w) t later) ?_ (fun _ _ later => later)
    rintro reply _ ⟨moment, rfl⟩
    cases reply with
    | error rc => exact ⟨moment, rfl⟩
    | ok _ => exact ⟨location, moment, rfl⟩

end

/-- Statistics and the queue they were checked for. -/
structure Entry where
  traffic : Traffic
  expQueue : UInt32
  stats : List RxqStats
  counted : gotPkts stats ≠ 0

/-- What the world says about the checks that were made. -/
structure World.Records (w : World) (new : Addrs) (rules : List Rule) (entries : List Entry) : Prop where
  newAddrs : w.newAddrs = some new
  rules_eq : w.rules = rules
  seen : w.seen = entries.map (fun entry => ⟨rules, entry.traffic, entry.stats⟩)
  verdicts : w.verdicts = [] ↔ ∀ entry ∈ entries, OnlyQueue entry.expQueue entry.stats
  testFailed : w.testFailed = true ↔ w.verdicts ≠ []

section
variable {nic : Nic} {new : Addrs} {rules : List Rule} {entries : List Entry} {w : World}

theorem World.Records.later {later : World} (records : w.Records new rules entries) (after : w.Later later) :
    later.Records new rules entries := by
  obtain ⟨moment, rfl⟩ := after
  exact ⟨records.newAddrs, records.rules_eq, records.seen, records.verdicts, records.testFailed⟩

theorem addRule_records (records : w.Records new rules []) (flowType : Flow) (src dst : Option NetAddr) (queue : UInt32)
    (ruleName : String) :
    (addRule nic flowType src dst queue ruleName).wp
      (fun _ after => ∃ location, after.Records new (rules ++ [⟨location, flowType, src, dst, queue⟩]) [])
      (fun _ after => after.Records new rules []) w := by
  refine wp_mono (addRule_wp flowType src dst queue ruleName w) ?_ (fun _ _ later => records.later later)
  rintro _ _ ⟨location, moment, rfl⟩
  refine ⟨location, records.newAddrs, ?_, records.seen, records.verdicts, records.testFailed⟩
  change w.rules ++ [_] = _
  rw [records.rules_eq]

theorem checkFreeStats_wp (records : w.Records new rules entries) (queue1 queue2 defQueue : UInt32) (vpref : String)
    (entry : Entry) :
    (checkFreeStats queue1 queue2 defQueue entry.expQueue vpref entry.traffic entry.stats).wp
      (fun _ after => after.Records new rules (entries ++ [entry])) (fun _ _ => False) w := by
  have sound := complain_sound queue1 queue2 defQueue entry.expQueue vpref entry.stats
  refine ⟨records.newAddrs, records.rules_eq, ?_, ?_, ?_⟩
  · rw [List.map_append, ← records.seen, ← records.rules_eq]
    rfl
  · rw [List.append_eq_nil_iff, records.verdicts, sound.verdicts, not_not, List.forall_mem_append, List.forall_mem_singleton]
  · change (w.testFailed || _) = true ↔ w.verdicts ++ _ ≠ []
    rw [Bool.or_eq_true, records.testFailed, sound.failed, Ne, Ne, List.append_eq_nil_iff, sound.verdicts]
    tauto

theorem runConnection_wp (records : w.Records new rules entries) (queue1 queue2 defQueue expQueue : UInt32)
    (vpref : String) (traffic : Traffic) :
    (runConnection nic queue1 queue2 defQueue expQueue vpref traffic).wp
      (fun _ after => ∃ entry : Entry, entry.traffic = traffic ∧ entry.expQueue = expQueue ∧
        after.Records new rules (entries ++ [entry]))
      (fun _ after => after.Records new rules entries) w := by
  unfold runConnection
  refine wp_seq ((passive_jumping nic.sockets).wp w) ?_ (fun _ _ later => records.later later)
  intro _ t later
  have records := records.later later
  refine wp_seq (rssSendGetStats_wp traffic vpref t) ?_ (fun _ _ later => records.later later)
  intro stats u ⟨later, counted⟩
  let entry : Entry := ⟨traffic, expQueue, stats, counted⟩
  refine wp_mono (checkFreeStats_wp (records.later later) queue1 queue2 defQueue vpref entry) ?_ ?_
  · exact fun _ _ after => ⟨entry, rfl, rfl, after⟩
  · exact fun _ _ impossible => impossible.elim

end
end Run

section Test
variable (nic : Nic) (test : FullPart) (queue1 queue2 : UInt32) (new : Addrs)

def FullPart.side : Side := changedSide test.partialSrc

def FullPart.firstTraffic : Traffic := ⟨test.flowType, test.tstAddr, test.iutAddr⟩

def FullPart.secondTraffic : Traffic := ⟨test.flowType, new.tst, new.iut⟩

/-- The two checks: the connection and the queue that is expected for it. -/
def FullPart.checks : List (Traffic × UInt32) :=
  [(test.firstTraffic, if test.firstPartial then queue2 else queue1),
    (test.secondTraffic new, if test.firstPartial then queue1 else queue2)]

/-- Some of the checks were made, under a full and a partial rule for the two queues. -/
structure Progress (rules : List Rule) (full part : Rule) (entries : List Entry) (w : World) : Prop where
  records : w.Records new rules entries
  checks : entries.map (fun entry => (entry.traffic, entry.expQueue)) <+: test.checks queue1 queue2 new
  pair : entries ≠ [] → Pair test.flowType test.tstAddr test.iutAddr test.side rules full part
  fullQueue : full.queue = if test.firstPartial then queue2 else queue1
  partQueue : part.queue = if test.firstPartial then queue1 else queue2

def Progresses (w : World) : Prop := ∃ rules full part entries, Progress test queue1 queue2 new rules full part entries w

theorem fullPart_pair (location1 location2 : Location) :
    let firstRule : Rule := ⟨location1, test.flowType, if !test.firstPartial || test.partialSrc then some test.tstAddr else none,
      if !test.firstPartial || !test.partialSrc then some test.iutAddr else none, queue1⟩
    let secondRule : Rule := ⟨location2, test.flowType, if test.firstPartial || test.partialSrc then some test.tstAddr else none,
      if test.firstPartial || !test.partialSrc then some test.iutAddr else none, queue2⟩
    ∃ full part, Pair test.flowType test.tstAddr test.iutAddr test.side [firstRule, secondRule] full part ∧
      full.queue = (if test.firstPartial then queue2 else queue1) ∧
      part.queue = (if test.firstPartial then queue1 else queue2) := by
  intro firstRule secondRule
  unfold FullPart.side
  cases firstPartial : test.firstPartial with
  | true =>
    refine ⟨secondRule, firstRule, ⟨?_, ?_, rfl, ?_⟩, rfl, rfl⟩
    · intro rule
      simp [or_comm]
    · simp [secondRule, firstPartial]
    · cases partialSrc : test.partialSrc <;> simp [firstRule, firstPartial, partialSrc, changedSide]
  | false =>
    refine ⟨firstRule, secondRule, ⟨?_, ?_, rfl, ?_⟩, rfl, rfl⟩
    · intro rule
      simp
    · simp [firstRule, firstPartial]
    · cases partialSrc : test.partialSrc <;> simp [secondRule, firstPartial, partialSrc, changedSide]

variable {test queue1 queue2 new}

theorem progresses_nil {rules : List Rule} {w : World} (records : w.Records new rules []) :
    Progresses test queue1 queue2 new w := by
  let rule (queue : UInt32) : Rule := ⟨.any, test.flowType, none, none, queue⟩
  exact ⟨rules, rule _, rule _, [], records, List.nil_prefix, fun wrong => absurd rfl wrong, rfl, rfl⟩

theorem fullPartBody_wp {w : World} (defQueue : UInt32) (fresh : w.Records new [] []) :
    (fullPartBody nic test defQueue queue1 queue2 new).wp
      (fun _ after => after.verdicts = [] ∧ ∃ rules full part entry1 entry2,
        Progress test queue1 queue2 new rules full part [entry1, entry2] after)
      (fun _ after => Progresses test queue1 queue2 new after) w := by
  unfold fullPartBody
  refine wp_seq (addRule_records fresh _ _ _ queue1 "the first") ?_ (fun _ _ records => progresses_nil records)
  intro _ t ⟨location1, records⟩
  refine wp_seq (addRule_records records _ _ _ queue2 "the second") ?_ (fun _ _ records => progresses_nil records)
  intro _ t ⟨location2, records⟩
  obtain ⟨rules, records, full, part, pair, fullQueue, partQueue⟩ :
      ∃ rules, t.Records new rules [] ∧ ∃ full part,
        Pair test.flowType test.tstAddr test.iutAddr test.side rules full part ∧
        full.queue = (if test.firstPartial then queue2 else queue1) ∧
        part.queue = (if test.firstPartial then queue1 else queue2) :=
    ⟨_, records, fullPart_pair test queue1 queue2 location1 location2⟩
  refine wp_seq (runConnection_wp records _ _ defQueue _ _ _) ?_ (fun _ _ records => progresses_nil records)
  rintro _ t ⟨entry1, traffic1, expQueue1, records⟩
  have half {w : World} (records : w.Records new rules [entry1]) : Progresses test queue1 queue2 new w := by
    refine ⟨rules, full, part, [entry1], records, ?_, fun _ => pair, fullQueue, partQueue⟩
    rw [List.map_singleton, traffic1, expQueue1]
    exact ⟨[_], rfl⟩
  refine wp_seq ((passive_jumping nic.sockets).wp t) ?_ (fun _ _ later => half (records.later later))
  intro _ t later
  refine wp_seq (runConnection_wp (records.later later) _ _ defQueue _ _ _) ?_ (fun _ _ records => half records)
  rintro _ t ⟨entry2, traffic2, expQueue2, records⟩
  have whole : Progress test queue1 queue2 new rules full part [entry1, entry2] t := by
    refine ⟨records, ?_, fun _ => pair, fullQueue, partQueue⟩
    rw [List.map_cons, List.map_singleton, traffic1, expQueue1, traffic2, expQueue2]
    exact List.prefix_refl _
  rw [wp_bind, wp_gets]
  cases failed : t.testFailed with
  | true => exact ⟨rules, full, part, _, whole⟩
  | false =>
    refine ⟨?_, rules, full, part, entry1, entry2, whole⟩
    by_contra some
    rw [records.testFailed.mpr some] at failed
    cases failed

section Reference
variable {rules : List Rule} {full part : Rule} {entries : List Entry} {w : World} (rss : NetAddr → NetAddr → UInt32)

theorem Progress.steer_eq (progress : Progress test queue1 queue2 new rules full part entries w)
    (onlyPort : OnlyPort ⟨test.iutAddr, test.tstAddr⟩ test.side new)
    (other : (new.get test.side).getPort ≠ (Addrs.get ⟨test.iutAddr, test.tstAddr⟩ test.side).getPort)
    {entry : Entry} (member : entry ∈ entries) : steer rss rules entry.traffic = entry.expQueue := by
  have pair := progress.pair (List.ne_nil_of_mem member)
  have made := progress.checks.subset (List.mem_map_of_mem member)
  rcases List.mem_pair.mp made with first | second
  · have traffic : entry.traffic = test.firstTraffic := congrArg Prod.fst first
    have queue : entry.expQueue = full.queue := (congrArg Prod.snd first).trans progress.fullQueue.symm
    rw [traffic, queue]
    exact pair.steer_full rss
  · have traffic : entry.traffic = test.secondTraffic new := congrArg Prod.fst second
    have queue : entry.expQueue = part.queue := (congrArg Prod.snd second).trans progress.partQueue.symm
    rw [traffic, queue]
    obtain ⟨port, rfl⟩ := onlyPort
    rw [getPort_setPort] at other
    exact pair.steer_part rss other

theorem Progress.verdicts_iff (progress : Progress test queue1 queue2 new rules full part entries w)
    (onlyPort : OnlyPort ⟨test.iutAddr, test.tstAddr⟩ test.side new)
    (other : (new.get test.side).getPort ≠ (Addrs.get ⟨test.iutAddr, test.tstAddr⟩ test.side).getPort) :
    w.verdicts = [] ↔ ∀ seen ∈ w.seen, seen.Steered rss := by
  rw [progress.records.verdicts, progress.records.seen, List.forall_mem_map]
  have same : ∀ entry ∈ entries, OnlyQueue entry.expQueue entry.stats ↔
      Seen.Steered rss ⟨rules, entry.traffic, entry.stats⟩ := by
    intro entry member
    rw [Seen.Steered, progress.steer_eq rss onlyPort other member]
  exact forall₂_congr same

theorem exists_row {stats : List RxqStats} (counted : gotPkts stats ≠ 0) : ∃ row ∈ stats, row.pkts ≠ 0 := by
  by_contra none
  apply counted
  have zeros : ∀ pkts ∈ stats.map RxqStats.pkts, pkts = 0 := by
    intro pkts member
    obtain ⟨row, here, rfl⟩ := List.mem_map.mp member
    by_contra some
    exact none ⟨row, here, some⟩
  have zero : stats.map RxqStats.pkts = List.replicate stats.length 0 := by
    rw [List.eq_replicate_iff]
    exact ⟨List.length_map _, zeros⟩
  unfold gotPkts
  rw [zero]
  induction stats.length with
  | zero => rfl
  | succ n ih => exact ih

/-- With the port of the first connection the second one is for the full rule as well, so that the check
cannot succeed with the reference NIC. -/
theorem Progress.same_port (progress : Progress test queue1 queue2 new rules full part entries w)
    (onlyPort : OnlyPort ⟨test.iutAddr, test.tstAddr⟩ test.side new)
    (same : (new.get test.side).getPort = (Addrs.get ⟨test.iutAddr, test.tstAddr⟩ test.side).getPort)
    (different : queue1 ≠ queue2) {entry : Entry} (member : entry ∈ entries)
    (second : (entry.traffic, entry.expQueue) = (test.secondTraffic new, part.queue))
    (accepted : OnlyQueue entry.expQueue entry.stats) :
    ¬Seen.Steered rss ⟨rules, entry.traffic, entry.stats⟩ := by
  intro steered
  have pair := progress.pair (List.ne_nil_of_mem member)
  obtain ⟨row, here, some⟩ := exists_row entry.counted
  have traffic : entry.traffic = test.firstTraffic := by
    refine (congrArg Prod.fst second).trans ?_
    obtain ⟨port, rfl⟩ := onlyPort
    rw [getPort_setPort] at same
    rw [same, setPort_getPort]
    rfl
  have byRule : row.rxQueue = full.queue := by
    rw [steered row here some, traffic]
    exact pair.steer_full rss
  have byTest : row.rxQueue = part.queue := (accepted row here some).trans (congrArg Prod.snd second)
  rw [byRule, progress.fullQueue, progress.partQueue] at byTest
  cases firstPartial : test.firstPartial with
  | true =>
    rw [firstPartial] at byTest
    exact different byTest.symm
  | false =>
    rw [firstPartial] at byTest
    exact different byTest

end Reference

theorem pickQueues_ne {raw : Nat → Nat × Nat} {rxQueues : Nat} {defQueue : UInt32}
    (picked : pickQueues raw rxQueues defQueue = some (queue1, queue2)) : queue1 ≠ queue2 := by
  obtain ⟨i, -, here⟩ := List.exists_of_findSome?_eq_some picked
  dsimp only at here
  split at here
  next fits =>
    cases here
    exact fits.1
  next => cases here

structure Reached (test : FullPart) (new : Addrs) (queue1 queue2 : UInt32) : Prop where
  onlyPort : OnlyPort ⟨test.iutAddr, test.tstAddr⟩ test.side new
  different : queue1 ≠ queue2

theorem fullPart_wp (test : FullPart) : (fullPart nic test).wp
    (fun _ after => after.verdicts = [] ∧ ∃ new queue1 queue2, Reached test new queue1 queue2 ∧
      ∃ rules full part entry1 entry2, Progress test queue1 queue2 new rules full part [entry1, entry2] after)
    (fun _ after => after.seen = [] ∧ after.verdicts = [] ∨ ∃ new queue1 queue2, Reached test new queue1 queue2 ∧
      Progresses test queue1 queue2 new after) .start := by
  have early {w : World} (later : World.start.Later w) : w.seen = [] ∧ w.verdicts = [] := by
    obtain ⟨moment, rfl⟩ := later
    exact ⟨rfl, rfl⟩
  unfold fullPart
  refine wp_seq ((passive_ofExcept test.ctxPrepare).wp _) ?_ (fun _ _ later => .inl (early later))
  intro rxQueues t later
  rw [wp_bind]
  refine wp_when (fun _ => .inl (early later)) (fun _ => ?_)
  refine wp_seq (keeps_iff_wp.mp (passive_checked nic.rc .start) t later) ?_ (fun _ _ later => .inl (early later))
  intro _ t later
  refine wp_seq (keeps_iff_wp.mp (passive_checkRc test.predict .start) t later) ?_ (fun _ _ later => .inl (early later))
  intro defQueue t later
  have onlyPort := rxRulesFullPart_onlyPort test.search test.iutAddr test.tstAddr test.partialSrc defQueue
  dsimp only
  generalize rxRulesFullPart test.search test.iutAddr test.tstAddr test.partialSrc defQueue = search at onlyPort ⊢
  refine wp_seq (keeps_iff_wp.mp (passive_ofExcept search.1 .start) t later) ?_ (fun _ _ later => .inl (early later))
  rintro _ _ ⟨moment, rfl⟩
  rw [wp_bind, wp_update]
  split
  next => exact .inl ⟨rfl, rfl⟩
  next queue1 queue2 picked =>
    have reached : Reached test search.2 queue1 queue2 := ⟨onlyPort, pickQueues_ne picked⟩
    refine wp_mono (fullPartBody_wp nic defQueue ⟨rfl, rfl, rfl, by simp [World.start], by simp [World.start]⟩) ?_ ?_
    · exact fun _ _ ⟨verdicts, done⟩ => ⟨verdicts, search.2, queue1, queue2, reached, done⟩
    · exact fun _ _ progresses => .inr ⟨search.2, queue1, queue2, reached, progresses⟩

/-- The `ERROR_VERDICT()`s of `check_free_stats()` are exactly about a NIC that is not like the reference if the
second connection has another port than the first one; if it has not, every run of the test that reaches
`TEST_SUCCESS` does so with a NIC that is not like the reference. -/
theorem fullPart_verdicts_iff (test : FullPart) (rss : NetAddr → NetAddr → UInt32) :
    let run := fullPart nic test .start
    let oldPort := (Addrs.get ⟨test.iutAddr, test.tstAddr⟩ test.side).getPort
    (∀ new, run.2.newAddrs = some new → (new.get test.side).getPort ≠ oldPort →
      (run.2.verdicts = [] ↔ ∀ seen ∈ run.2.seen, seen.Steered rss)) ∧
    (run.1 = .ok () → run.2.verdicts = [] ∧ ∃ new rules full part, run.2.newAddrs = some new ∧
      Pair test.flowType test.tstAddr test.iutAddr test.side rules full part ∧
      run.2.seen.map (fun seen => (seen.rules, seen.traffic)) =
        [(rules, test.firstTraffic), (rules, test.secondTraffic new)] ∧
      ((new.get test.side).getPort = oldPort → ∃ seen ∈ run.2.seen, ¬seen.Steered rss)) := by
  intro run oldPort
  have spec := fullPart_wp nic test
  constructor
  · intro new found other
    have all : (run.2.seen = [] ∧ run.2.verdicts = []) ∨ ∃ new queue1 queue2, Reached test new queue1 queue2 ∧
        Progresses test queue1 queue2 new run.2 := by
      refine wp_final _ spec ?_ (fun _ _ failed => failed)
      rintro _ after ⟨-, new, queue1, queue2, reached, rules, full, part, entry1, entry2, progress⟩
      exact .inr ⟨new, queue1, queue2, reached, rules, full, part, _, progress⟩
    rcases all with ⟨seen, verdicts⟩ | ⟨reachedNew, queue1, queue2, reached, rules, full, part, entries, progress⟩
    · rw [seen, verdicts]
      exact iff_of_true rfl (fun _ member => (nomatch member))
    · have same : reachedNew = new := Option.some.inj (progress.records.newAddrs.symm.trans found)
      subst same
      exact progress.verdicts_iff rss reached.onlyPort other
  · intro passed
    have ran : fullPart nic test .start = (.ok (), run.2) := Prod.ext passed rfl
    obtain ⟨verdicts, new, queue1, queue2, reached, rules, full, part, entry1, entry2, progress⟩ := wp_ok spec ran
    have checks := progress.checks.eq_of_length rfl
    obtain ⟨first, second⟩ : (entry1.traffic, entry1.expQueue) = (test.firstTraffic, _) ∧
        (entry2.traffic, entry2.expQueue) = (test.secondTraffic new, _) := by
      simpa only [List.map_cons, List.map_nil, FullPart.checks, List.cons.injEq, and_true] using checks
    refine ⟨verdicts, new, rules, full, part, progress.records.newAddrs, progress.pair (by simp), ?_, ?_⟩
    · have traffic1 : entry1.traffic = test.firstTraffic := congrArg Prod.fst first
      have traffic2 : entry2.traffic = test.secondTraffic new := congrArg Prod.fst second
      rw [progress.records.seen, List.map_cons, List.map_singleton, traffic1, traffic2]
      rfl
    · intro same
      have accepted := progress.records.verdicts.mp verdicts entry2 (by simp)
      refine ⟨⟨rules, entry2.traffic, entry2.stats⟩, ?_, ?_⟩
      · rw [progress.records.seen]
        simp
      · apply progress.same_port rss reached.onlyPort same reached.different (by simp) _ accepted
        rw [second, progress.partQueue]

end Test

theorem pickQueues_first {raw : Nat → Nat × Nat} {rxQueues : Nat} {defQueue queue1 queue2 : UInt32}
    (draw1 : UInt32.ofNat (randRange 0 (rxQueues - 1) (raw 0).1) = queue1)
    (draw2 : UInt32.ofNat (randRange 0 (rxQueues - 1) (raw 0).2) = queue2)
    (fits : queue1 ≠ queue2 ∧ queue1 ≠ defQueue ∧ queue2 ≠ defQueue) :
    pickQueues raw rxQueues defQueue = some (queue1, queue2) := by
  obtain ⟨rest, attempts⟩ : ∃ rest, List.range maxAttempts = 0 :: rest := by
    unfold maxAttempts
    exact ⟨_, List.range_succ_eq_map⟩
  unfold pickQueues
  rw [attempts, List.findSome?_cons]
  dsimp only
  rw [draw1, draw2, if_pos fits]

/-- The reference NIC, with a default queue 0 and three packets for a connection. -/
def steeringNic : Nic where
  rc _ := .ok ()
  specLoc _ := .ok true
  findLocation _ := .ok 0
  sockets _ := .ok ()
  raw _ := 0
  sendRecv _ := .ok ()
  statsRead _ rules traffic := .ok [⟨steer (fun _ _ => 0) rules traffic, 3⟩]
  text _ := ""

/-- Four Rx queues, of which the rules get the second and the third, and a free port 9 of the Tester. -/
def tcpPart : FullPart where
  flowType := .tcpV4
  iutAddr := ⟨[10, 0, 0, 1], htons 7⟩
  tstAddr := ⟨[10, 0, 0, 2], htons 8⟩
  firstPartial := false
  partialSrc := false
  ctxPrepare := .ok 4
  predict := .ok 0
  search := offering (fun _ => 9) 0
  queues _ := (1, 2)

def tcpPartNew : Addrs := ⟨⟨[10, 0, 0, 1], htons 7⟩, ⟨[10, 0, 0, 2], htons 9⟩⟩

theorem tcpPart_run : fullPart steeringNic tcpPart .start =
    fullPartBody steeringNic tcpPart 0 1 2 tcpPartNew { World.start with moment := 1, newAddrs := some tcpPartNew } := by
  have search : rxRulesFullPart tcpPart.search tcpPart.iutAddr tcpPart.tstAddr tcpPart.partialSrc 0 =
      (.ok (), tcpPartNew) := rxRulesFullPart_offering _ _ false (fun _ => 9) (by decide) 0
  have picked : pickQueues tcpPart.queues 4 0 = some (1, 2) := pickQueues_first rfl rfl (by decide)
  unfold fullPart
  let asked : World := { World.start with moment := 1 }
  refine (bind_ok (x := Script.ofExcept tcpPart.ctxPrepare) (b := 4) (t := World.start) rfl).trans ?_
  refine (bind_ok (x := when (4 < 3) (fail _)) (t := World.start) rfl).trans ?_
  refine (bind_ok (x := checked steeringNic.rc) (t := asked) rfl).trans ?_
  refine (bind_ok (x := checkRc tcpPart.predict) (b := 0) (t := asked) rfl).trans ?_
  dsimp only
  rw [search, picked]
  rfl

/-- With the reference NIC the test reaches its end without a verdict. -/
theorem fullPart_verdicts_tcp :
    let run := fullPart steeringNic tcpPart .start
    run.1 = .ok () ∧ run.2.verdicts = [] ∧ ∀ seen ∈ run.2.seen, seen.Steered (fun _ _ => 0) := by
  have passed : (fullPart steeringNic tcpPart .start).1 = .ok () := by
    rw [tcpPart_run]
    decide +kernel
  have found : (fullPart steeringNic tcpPart .start).2.newAddrs = some tcpPartNew := by
    rw [tcpPart_run]
    decide +kernel
  obtain ⟨about, ending⟩ := fullPart_verdicts_iff steeringNic tcpPart (fun _ _ => 0)
  have silent := (ending passed).1
  exact ⟨passed, silent, (about tcpPartNew found (by decide)).mp silent⟩

end NetDrv.Steering
