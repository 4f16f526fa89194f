import NetDrv.Xdp.Create

/-! Arrays of AF_XDP sockets, and any sequence of calls that create and destroy
sockets. The array created by `net_drv_xdp_create_socks()` accounts for everything
that became live since the call was entered. -/

namespace NetDrv.Xdp
open Script

/-- What is live at `now` and was not at `start` is held by the array from `lo` to `hi`. -/
structure Spans (start : World) (lo hi : Nat) (now : World) : Prop where
  next : start.agent.next ≤ now.agent.next
  kept : now.agent.live.filter (fun r => r.handle < start.agent.next) = start.agent.live
  accounted : ∀ r ∈ now.agent.live, start.agent.next ≤ r.handle →
    ∃ a, (lo ≤ a ∧ a < hi) ∧ (now.heap a).Holds r.handle
  young : ∀ a, lo ≤ a ∧ a < hi → ∀ h, (now.heap a).Holds h → start.agent.next ≤ h
  socksOut : now.socksOut = start.socksOut

section
variable {ε : Type} {env : Env} {params : Params} {addr lo hi : Nat} {start w now : World}

theorem Spans.refl (empty : ∀ a, lo ≤ a ∧ a < hi → (start.heap a).Empty) : Spans start lo hi start where
  next := Nat.le_refl _
  kept := by
    refine List.filter_eq_self.mpr (fun r member => ?_)
    simpa using (start.agent.bounded.2 r member).2
  accounted := fun r member young => absurd (start.agent.bounded.2 r member).2 (Nat.not_lt.mpr young)
  young := fun a inside h held => absurd held ((empty a inside).not_holds h)
  socksOut := rfl

theorem Spans.touch (spans : Spans start lo hi w) (inside : lo ≤ addr ∧ addr < hi) (touch : Touch addr w now) :
    Spans start lo hi now := by
  have others : ∀ a, a ≠ addr → now.heap a = w.heap a := touch.others
  have out := touch.socksOut.trans spans.socksOut
  cases touch.effect with
  | idle agent holds =>
    have same : ∀ a h, (now.heap a).Holds h ↔ (w.heap a).Holds h := by
      intro a h
      by_cases here : a = addr
      · subst here
        exact holds h
      · rw [others a here]
    refine ⟨?_, ?_, ?_, ?_, out⟩
    · rw [agent]
      exact spans.next
    · rw [agent]
      exact spans.kept
    · rw [agent]
      simp only [same]
      exact spans.accounted
    · simp only [same]
      exact spans.young
  | created parent kind mine agent holds =>
    refine ⟨?_, ?_, ?_, ?_, out⟩
    · rw [agent]
      exact Nat.le_succ_of_le spans.next
    · rw [agent]
      simp only [Ledger.create, List.filter_append, spans.kept]
      simp [spans.next]
    · rw [agent]
      intro r member young
      rcases Ledger.mem_create.mp member with old | rfl
      · obtain ⟨a, within, held⟩ := spans.accounted r old young
        refine ⟨a, within, ?_⟩
        by_cases here : a = addr
        · subst here
          exact (holds _).mpr (.inl held)
        · rwa [others a here]
      · exact ⟨addr, inside, (holds _).mpr (.inr rfl)⟩
    · intro a within h held
      by_cases here : a = addr
      · subst here
        rcases (holds h).mp held with old | rfl
        · exact spans.young a within h old
        · exact spans.next
      · rw [others a here] at held
        exact spans.young a within h held
  | released handle live mine agent holds =>
    have fresh := spans.young addr inside handle mine
    refine ⟨?_, ?_, ?_, ?_, out⟩
    · rw [agent]
      exact spans.next
    · rw [agent]
      simp only [Ledger.remove, List.filter_filter]
      rw [← spans.kept]
      refine List.filter_congr (fun r _ => ?_)
      simp only [Bool.and_eq_left_iff_imp, decide_eq_true_eq]
      omega
    · rw [agent]
      intro r member young
      obtain ⟨old, other⟩ := Ledger.mem_remove.mp member
      obtain ⟨a, within, held⟩ := spans.accounted r old young
      refine ⟨a, within, ?_⟩
      by_cases here : a = addr
      · subst here
        exact (holds _).mpr ⟨held, other⟩
      · rwa [others a here]
    · intro a within h held
      by_cases here : a = addr
      · subst here
        exact spans.young a within h ((holds h).mp held).1
      · rw [others a here] at held
        exact spans.young a within h held

theorem Spans.touches (spans : Spans start lo hi w) (inside : lo ≤ addr ∧ addr < hi)
    (touches : Touches addr w now) : Spans start lo hi now := by
  induction touches with
  | refl => exact spans
  | tail _ touch ih => exact ih.touch inside touch

theorem Spans.live_eq (spans : Spans start lo hi now) (empty : ∀ a, lo ≤ a ∧ a < hi → (now.heap a).Empty) :
    now.agent.live = start.agent.live := by
  rw [← spans.kept]
  refine (List.filter_eq_self.mpr (fun r member => ?_)).symm
  by_contra old
  obtain ⟨a, within, held⟩ := spans.accounted r member (by simpa using old)
  exact (empty a within).not_holds _ held

theorem Bound.frame {queue : Nat} (bound : Bound params queue addr w) (heap : now.heap addr = w.heap addr)
    (grown : ∀ r ∈ w.agent.live, r ∈ now.agent.live)
    (map : now.map params.mapFd queue = w.map params.mapFd queue) : Bound params queue addr now := by
  constructor
  · rw [heap, bound.queueId]
  · rw [heap]
    exact grown _ bound.mem
  · rw [heap]
    exact grown _ bound.umem
  · rw [heap]
    exact grown _ bound.sock
  · rw [heap, map, bound.map]

/-- The creation loop before the socket `i`. -/
structure Creating (params : Params) (start : World) (base num i : Nat) (now : World) : Prop where
  inv : Inv now
  grown : start.log <+: now.log
  spans : Spans start base (base + num) now
  bound : ∀ j < i, Bound params j (base + j) now
  rest : ∀ a, base + i ≤ a ∧ a < base + num → (now.heap a).Empty

theorem createEach_wp (notices : env.Notices) {base num : Nat} (creating : Creating params w base num 0 w) :
    (createEach env params base num).wp (fun _ => Creating params w base num num)
      (fun i now => i < num ∧ Inv now ∧ w.log <+: now.log ∧ Spans w base (base + num) now ∧
        (w.DeletesSucceed now → ∀ a, base + i ≤ a ∧ a < base + num → (now.heap a).Empty)) w := by
  refine wp_forRange (Creating params w base num) num ?_ creating
  intro i below t creating
  have inside : base ≤ base + i ∧ base + i < base + num := by omega
  have clean := creating.rest (base + i) ⟨by omega, by omega⟩
  refine wp_seq (createSock_wp notices creating.inv i) ?_ (fun _ _ never => never.elim)
  intro rc u created
  have grown := creating.grown.trans created.grown
  have spans := creating.spans.touches inside (created.touches clean)
  have rest : ∀ a, base + (i + 1) ≤ a ∧ a < base + num → (u.heap a).Empty := by
    intro a within
    rw [created.others a (by omega)]
    exact creating.rest a (by omega)
  cases rc with
  | none =>
    obtain ⟨bound, others, map⟩ := created.bound rfl
    refine ⟨created.inv, grown, spans, ?_, rest⟩
    refine Nat.forall_lt_succ_right.mpr ⟨fun j earlier => ?_, bound⟩
    refine (creating.bound j earlier).frame (created.others _ (by omega)) others (map _ _ ?_)
    simp only [ne_eq, Prod.mk.injEq, true_and]
    omega
  | some rc =>
    refine ⟨below, created.inv, grown, spans, fun succeed a within => ?_⟩
    by_cases here : a = base + i
    · subst here
      exact created.empty (by simp) ((deletesSucceed_trans creating.grown created.grown).mp succeed).2
    · exact rest a (by omega)

theorem destroyBefore_wp (notices : env.Notices) {base num i : Nat} (below : i < num) {start : World} (inv : Inv w)
    (grown : start.log <+: w.log) (spans : Spans start base (base + num) w)
    (rest : start.DeletesSucceed w → ∀ a, base + i ≤ a ∧ a < base + num → (w.heap a).Empty) :
    Script.wp (forEach (List.range i) (fun j => do
        let _ ← destroySock env (base + j)
        pure ()) : Script ε World Unit)
      (fun _ now => Spans start base (base + num) now ∧ Inv now ∧
        (start.DeletesSucceed now → ∀ a, base ≤ a ∧ a < base + num → (now.heap a).Empty))
      (fun _ _ => False) w := by
  refine wp_weaken (wp_forRange (fun j now => Inv now ∧ start.log <+: now.log ∧ Spans start base (base + num) now ∧
    (start.DeletesSucceed now → ∀ a, base ≤ a ∧ a < base + num → a < base + j ∨ base + i ≤ a → (now.heap a).Empty))
    i ?_ ⟨inv, grown, spans, ?_⟩) ?_
  · rintro j earlier t ⟨inv, grown, spans, empty⟩
    refine (wp_bind _ _).mpr (wp_weaken (destroySock_wp notices inv) ?_)
    rintro rc now ⟨entries, destroyed⟩
    have later := destroyed.progress.grown
    refine ⟨destroyed.progress.inv, grown.trans later, spans.touches ⟨by omega, by omega⟩ destroyed.progress.touches, ?_⟩
    intro succeed a within done
    obtain ⟨before, here⟩ := (deletesSucceed_trans grown later).mp succeed
    by_cases same : a = base + j
    · subst same
      exact destroyed.empty (destroyed.result.symm.trans ((deletesSucceed_append destroyed.progress.log).mp here))
    · rw [destroyed.progress.touches.others same]
      exact empty before a within (by omega)
  · intro succeed a within done
    exact rest succeed a (by omega)
  · rintro _ now ⟨inv, _, spans, empty⟩
    exact ⟨spans, inv, fun succeed a within => empty succeed a within (by omega)⟩

theorem Inv.zeroed (inv : Inv w) (base num top : Nat) : Inv { w.zeroed base num with top := top } := by
  refine inv.forget rfl (fun a => ?_)
  by_cases inside : base ≤ a ∧ a < base + num
  · refine .inr ?_
    simp only [World.zeroed, if_pos inside]
    exact ⟨rfl, rfl, rfl⟩
  · refine .inl ?_
    simp only [World.zeroed, if_neg inside]

/-- `net_drv_xdp_create_socks()` hands out sockets for all queues, or it stops the test. -/
structure HandedOut (params : Params) (num out : Nat) (w now : World) : Prop where
  inv : Inv now
  pointer : now.socksOut = Function.update w.socksOut out (some w.top)
  bound : ∀ i < num, Bound params i (w.top + i) now

structure Withdrawn (w now : World) : Prop where
  inv : Inv now
  pointer : now.socksOut = w.socksOut
  live : w.DeletesSucceed now → now.agent.live = w.agent.live

theorem createSocks_wp (notices : env.Notices) (inv : Inv w) (num out : Nat) :
    (createSocks env params num out).wp (fun _ => HandedOut params num out w) (fun _ => Withdrawn w) w := by
  refine (wp_bind _ _).mpr ?_
  change Script.wp _ _ _ { w.zeroed w.top num with top := w.top + num }
  generalize start : ({ w.zeroed w.top num with top := w.top + num } : World) = fresh
  have empty : ∀ a, w.top ≤ a ∧ a < w.top + num → (fresh.heap a).Empty := by
    intro a within
    rw [← start]
    simp only [World.zeroed, if_pos within]
    exact ⟨rfl, rfl, rfl⟩
  have inv : Inv fresh := start ▸ inv.zeroed w.top num (w.top + num)
  have socksOut : fresh.socksOut = w.socksOut := by rw [← start]; rfl
  have live : fresh.agent.live = w.agent.live := by rw [← start]; rfl
  have log : fresh.log = w.log := by rw [← start]; rfl
  have creating : Creating params fresh w.top num 0 fresh :=
    ⟨inv, List.prefix_rfl, .refl empty, by simp, fun a within => empty a (by omega)⟩
  refine (wp_bind _ _).mpr ((wp_attempt _).mpr (wp_mono (createEach_wp notices creating) ?_ ?_))
  · intro _ t created
    refine ⟨?_, ?_, fun i below => ?_⟩
    · exact ⟨created.inv.owns, created.inv.apart, created.inv.older, created.inv.faults⟩
    · rw [← socksOut, ← created.spans.socksOut]
    · exact (created.bound i below).frame rfl (fun _ member => member) rfl
  · rintro i t ⟨below, inv, grown, spans, rest⟩
    refine wp_seq (destroyBefore_wp notices below inv grown spans rest) ?_ (fun _ _ never => never.elim)
    rintro _ u ⟨spans, inv, gone⟩
    refine ⟨inv.zeroed w.top num u.top, spans.socksOut.trans socksOut, fun succeed => ?_⟩
    rw [World.DeletesSucceed, ← log] at succeed
    exact (spans.live_eq (gone succeed)).trans live

end
end NetDrv.Xdp
