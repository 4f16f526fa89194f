import NetDrv.Xdp.Sock
import Mathlib.Logic.Relation

/-! The ownership invariant behind the AF_XDP sockets. Every handle a structure holds
is live, whatever is built over it is held by the same structure, and no two
structures hold the same handle. A step on one structure keeps this and touches only
what that structure holds. -/

namespace NetDrv.Xdp
open Script

def XdpSock.Holds (s : XdpSock) (handle : Nat) : Prop :=
  handle ≠ rpcNull ∧ (handle = s.mem ∨ handle = s.umem ∨ handle = s.sock)

/-- All three handles are `RPC_NULL`. -/
def XdpSock.Empty (s : XdpSock) : Prop := s.mem = rpcNull ∧ s.umem = rpcNull ∧ s.sock = rpcNull

structure Owns (agent : Ledger Kind) (s : XdpSock) : Prop where
  umemOrder : s.umem ≠ 0 → 0 < s.mem ∧ s.mem < s.umem
  sockOrder : s.sock ≠ 0 → 0 < s.umem ∧ s.umem < s.sock
  live : ∀ handle, s.Holds handle → agent.Live handle
  overMem : s.mem ≠ 0 → ∀ r ∈ agent.live, r.parent = s.mem → r.handle = s.umem
  overUmem : s.umem ≠ 0 → ∀ r ∈ agent.live, r.parent = s.umem → r.handle = s.sock
  overSock : s.sock ≠ 0 → ∀ r ∈ agent.live, r.parent ≠ s.sock

structure Inv (w : World) : Prop where
  owns : ∀ addr, Owns w.agent (w.heap addr)
  apart : ∀ a b handle, (w.heap a).Holds handle → (w.heap b).Holds handle → a = b
  older : ∀ r ∈ w.agent.live, r.parent < w.agent.next
  faults : w.agent.faults = []

section
variable {agent : Ledger Kind} {s : XdpSock}

theorem XdpSock.Empty.not_holds (empty : s.Empty) (handle : Nat) : ¬s.Holds handle := by
  obtain ⟨mem, umem, sock⟩ := empty
  intro holds
  obtain ⟨valid, held⟩ := holds
  simp only [mem, umem, sock, or_self] at held
  exact valid held

theorem XdpSock.Empty.owns (empty : s.Empty) : Owns agent s where
  umemOrder := fun valid => absurd empty.2.1 valid
  sockOrder := fun valid => absurd empty.2.2 valid
  live := fun handle held => absurd held (empty.not_holds handle)
  overMem := fun valid => absurd empty.1 valid
  overUmem := fun valid => absurd empty.2.1 valid
  overSock := fun valid => absurd empty.2.2 valid

theorem Owns.create (owns : Owns agent s) {parent : Nat} (foreign : ¬s.Holds parent) (kind : Kind) :
    Owns (agent.create parent kind) s where
  umemOrder := owns.umemOrder
  sockOrder := owns.sockOrder
  live := fun handle held => (owns.live handle held).create parent kind
  overMem := by
    intro valid r member parent'
    rcases Ledger.mem_create.mp member with old | rfl
    · exact owns.overMem valid r old parent'
    · exact absurd ⟨ne_of_eq_of_ne parent' valid, .inl parent'⟩ foreign
  overUmem := by
    intro valid r member parent'
    rcases Ledger.mem_create.mp member with old | rfl
    · exact owns.overUmem valid r old parent'
    · exact absurd ⟨ne_of_eq_of_ne parent' valid, .inr (.inl parent')⟩ foreign
  overSock := by
    intro valid r member parent'
    rcases Ledger.mem_create.mp member with old | rfl
    · exact owns.overSock valid r old parent'
    · exact absurd ⟨ne_of_eq_of_ne parent' valid, .inr (.inr parent')⟩ foreign

theorem Owns.remove (owns : Owns agent s) {handle : Nat} (live : agent.Live handle)
    (foreign : ¬s.Holds handle) : Owns (agent.remove handle live) s where
  umemOrder := owns.umemOrder
  sockOrder := owns.sockOrder
  live := by
    intro other held
    have different : other ≠ handle := fun same => foreign (same ▸ held)
    exact (owns.live other held).remove different live
  overMem := fun valid r member => owns.overMem valid r (Ledger.mem_remove.mp member).1
  overUmem := fun valid r member => owns.overUmem valid r (Ledger.mem_remove.mp member).1
  overSock := fun valid r member => owns.overSock valid r (Ledger.mem_remove.mp member).1

theorem Owns.releasable_sock (owns : Owns agent s) (valid : s.sock ≠ 0) : agent.Releasable s.sock :=
  ⟨owns.live s.sock ⟨valid, .inr (.inr rfl)⟩, owns.overSock valid⟩

theorem Owns.releasable_umem (owns : Owns agent s) (none : s.sock = 0) (valid : s.umem ≠ 0) :
    agent.Releasable s.umem := by
  refine ⟨owns.live s.umem ⟨valid, .inr (.inl rfl)⟩, fun r member parent => ?_⟩
  have handle := owns.overUmem valid r member parent
  have positive := (agent.bounded.2 r member).1
  omega

theorem Owns.releasable_mem (owns : Owns agent s) (none : s.umem = 0) (valid : s.mem ≠ 0) :
    agent.Releasable s.mem := by
  refine ⟨owns.live s.mem ⟨valid, .inl rfl⟩, fun r member parent => ?_⟩
  have handle := owns.overMem valid r member parent
  have positive := (agent.bounded.2 r member).1
  omega

theorem Owns.remove_sock (owns : Owns agent s) {s' : XdpSock} (valid : s.sock ≠ 0) (live : agent.Live s.sock)
    (mem : s'.mem = s.mem) (umem : s'.umem = s.umem) (sock : s'.sock = 0) :
    Owns (agent.remove s.sock live) s' where
  umemOrder := by
    rw [mem, umem]
    exact owns.umemOrder
  sockOrder := fun valid => absurd sock valid
  live := by
    have order := owns.sockOrder valid
    have order' := owns.umemOrder (Nat.ne_of_gt order.1)
    intro handle holds
    obtain ⟨nonzero, held⟩ := holds
    simp only [mem, umem, sock] at held
    rcases held with rfl | rfl | rfl
    · exact (owns.live s.mem ⟨nonzero, .inl rfl⟩).remove (by omega) live
    · exact (owns.live s.umem ⟨nonzero, .inr (.inl rfl)⟩).remove (by omega) live
    · exact absurd rfl nonzero
  overMem := by
    intro valid r member parent
    rw [mem] at valid parent
    rw [umem]
    exact owns.overMem valid r (Ledger.mem_remove.mp member).1 parent
  overUmem := by
    intro valid r member parent
    rw [umem] at valid parent
    obtain ⟨inside, other⟩ := Ledger.mem_remove.mp member
    exact absurd (owns.overUmem valid r inside parent) other
  overSock := fun valid => absurd sock valid

theorem Owns.remove_umem (owns : Owns agent s) {s' : XdpSock} (valid : s.umem ≠ 0) (live : agent.Live s.umem)
    (mem : s'.mem = s.mem) (umem : s'.umem = 0) (sock : s'.sock = 0) :
    Owns (agent.remove s.umem live) s' where
  umemOrder := fun valid => absurd umem valid
  sockOrder := fun valid => absurd sock valid
  live := by
    have order := owns.umemOrder valid
    intro handle holds
    obtain ⟨nonzero, held⟩ := holds
    simp only [mem, umem, sock, or_self] at held
    rcases held with rfl | rfl
    · exact (owns.live s.mem ⟨nonzero, .inl rfl⟩).remove (by omega) live
    · exact absurd rfl nonzero
  overMem := by
    intro valid r member parent
    rw [mem] at valid parent
    obtain ⟨inside, other⟩ := Ledger.mem_remove.mp member
    exact absurd (owns.overMem valid r inside parent) other
  overUmem := fun valid => absurd umem valid
  overSock := fun valid => absurd sock valid

theorem Owns.create_mem {s' : XdpSock} (older : ∀ r ∈ agent.live, r.parent < agent.next) (kind : Kind)
    (mem : s'.mem = agent.next) (umem : s'.umem = 0) (sock : s'.sock = 0) :
    Owns (agent.create 0 kind) s' where
  umemOrder := fun valid => absurd umem valid
  sockOrder := fun valid => absurd sock valid
  live := by
    intro handle holds
    obtain ⟨nonzero, held⟩ := holds
    simp only [mem, umem, sock, or_self] at held
    rcases held with rfl | rfl
    · exact Ledger.live_next 0 kind
    · exact absurd rfl nonzero
  overMem := by
    intro valid r member parent
    rcases Ledger.mem_create.mp member with old | rfl
    · have bound := older r old
      omega
    · have positive := agent.bounded.1
      exact absurd (parent.trans mem) (Nat.ne_of_lt positive)
  overUmem := fun valid => absurd umem valid
  overSock := fun valid => absurd sock valid

theorem Owns.create_umem (owns : Owns agent s) {s' : XdpSock} (valid : s.mem ≠ 0) (none : s.umem = 0)
    (older : ∀ r ∈ agent.live, r.parent < agent.next) (kind : Kind)
    (mem : s'.mem = s.mem) (umem : s'.umem = agent.next) (sock : s'.sock = 0) :
    Owns (agent.create s.mem kind) s' where
  umemOrder := by
    have bounds := (owns.live s.mem ⟨valid, .inl rfl⟩).bounds
    omega
  sockOrder := fun valid => absurd sock valid
  live := by
    intro handle holds
    obtain ⟨nonzero, held⟩ := holds
    simp only [mem, umem, sock] at held
    rcases held with rfl | rfl | rfl
    · exact (owns.live s.mem ⟨valid, .inl rfl⟩).create s.mem kind
    · exact Ledger.live_next s.mem kind
    · exact absurd rfl nonzero
  overMem := by
    intro valid' r member parent
    rcases Ledger.mem_create.mp member with old | rfl
    · have handle := owns.overMem valid r old (parent.trans mem)
      have positive := (agent.bounded.2 r old).1
      omega
    · exact umem.symm
  overUmem := by
    intro valid' r member parent
    have bounds := (owns.live s.mem ⟨valid, .inl rfl⟩).bounds
    rcases Ledger.mem_create.mp member with old | rfl
    · have bound := older r old
      omega
    · exact absurd (parent.trans umem) (Nat.ne_of_lt bounds.2)
  overSock := fun valid => absurd sock valid

theorem Owns.create_sock (owns : Owns agent s) {s' : XdpSock} (valid : s.umem ≠ 0) (none : s.sock = 0)
    (older : ∀ r ∈ agent.live, r.parent < agent.next) (kind : Kind)
    (mem : s'.mem = s.mem) (umem : s'.umem = s.umem) (sock : s'.sock = agent.next) :
    Owns (agent.create s.umem kind) s' where
  umemOrder := by
    rw [mem, umem]
    exact owns.umemOrder
  sockOrder := by
    have bounds := (owns.live s.umem ⟨valid, .inr (.inl rfl)⟩).bounds
    omega
  live := by
    intro handle holds
    obtain ⟨nonzero, held⟩ := holds
    simp only [mem, umem, sock] at held
    rcases held with rfl | rfl | rfl
    · exact (owns.live s.mem ⟨nonzero, .inl rfl⟩).create s.umem kind
    · exact (owns.live s.umem ⟨nonzero, .inr (.inl rfl)⟩).create s.umem kind
    · exact Ledger.live_next s.umem kind
  overMem := by
    intro valid' r member parent
    have order := owns.umemOrder valid
    rcases Ledger.mem_create.mp member with old | rfl
    · rw [umem]
      exact owns.overMem (Nat.ne_of_gt order.1) r old (parent.trans mem)
    · exact absurd (parent.trans mem) (Nat.ne_of_gt order.2)
  overUmem := by
    intro valid' r member parent
    rcases Ledger.mem_create.mp member with old | rfl
    · have handle := owns.overUmem valid r old (parent.trans umem)
      have positive := (agent.bounded.2 r old).1
      omega
    · exact sock.symm
  overSock := by
    intro valid' r member parent
    have bounds := (owns.live s.umem ⟨valid, .inr (.inl rfl)⟩).bounds
    rcases Ledger.mem_create.mp member with old | rfl
    · have bound := older r old
      omega
    · exact absurd (parent.trans sock) (Nat.ne_of_lt bounds.2)

end

/-- What one step on the structure at `addr` can do to the agent. -/
inductive Effect (addr : Nat) (w now : World) : Prop where
  | idle (agent : now.agent = w.agent) (holds : ∀ h, (now.heap addr).Holds h ↔ (w.heap addr).Holds h)
  | created (parent : Nat) (kind : Kind) (mine : parent = rpcNull ∨ (w.heap addr).Holds parent)
      (agent : now.agent = w.agent.create parent kind)
      (holds : ∀ h, (now.heap addr).Holds h ↔ (w.heap addr).Holds h ∨ h = w.agent.next)
  | released (handle : Nat) (live : w.agent.Live handle) (held : (w.heap addr).Holds handle)
      (agent : now.agent = w.agent.remove handle live)
      (holds : ∀ h, (now.heap addr).Holds h ↔ (w.heap addr).Holds h ∧ h ≠ handle)

/-- A step on the structure at `addr`: nothing else of the test changes. -/
structure Touch (addr : Nat) (w now : World) : Prop where
  others : ∀ other, other ≠ addr → now.heap other = w.heap other
  top : now.top = w.top
  socksOut : now.socksOut = w.socksOut
  effect : Effect addr w now

abbrev Touches (addr : Nat) : World → World → Prop := Relation.ReflTransGen (Touch addr)

section
variable {w now : World} {addr : Nat}

theorem Inv.holds_bounds (inv : Inv w) {handle : Nat} (held : (w.heap addr).Holds handle) :
    0 < handle ∧ handle < w.agent.next :=
  ((inv.owns addr).live handle held).bounds

theorem Inv.touch (inv : Inv w) (touch : Touch addr w now) (here : Owns now.agent (now.heap addr)) :
    Inv now where
  owns := by
    intro other
    by_cases same : other = addr
    · rw [same]
      exact here
    · have owns := inv.owns other
      rw [touch.others other same]
      cases touch.effect with
      | idle agent => rwa [agent]
      | created parent kind mine agent =>
        rw [agent]
        refine owns.create (fun held => ?_) kind
        rcases mine with rfl | mine
        · exact held.1 rfl
        · exact same (inv.apart other addr parent held mine)
      | released handle live held agent =>
        rw [agent]
        exact owns.remove live (fun theirs => same (inv.apart other addr handle theirs held))
  apart := by
    have old : ∀ a handle, (now.heap a).Holds handle →
        (w.heap a).Holds handle ∨ (a = addr ∧ handle = w.agent.next) := by
      intro a handle held
      by_cases same : a = addr
      · subst same
        cases touch.effect with
        | idle _ holds => exact .inl ((holds handle).mp held)
        | created _ _ _ _ holds => exact ((holds handle).mp held).imp_right (fun fresh => ⟨rfl, fresh⟩)
        | released _ _ _ _ holds => exact .inl ((holds handle).mp held).1
      · rw [touch.others a same] at held
        exact .inl held
    intro a b handle heldA heldB
    rcases old a handle heldA with oldA | ⟨rfl, rfl⟩
    · rcases old b handle heldB with oldB | ⟨rfl, rfl⟩
      · exact inv.apart a b handle oldA oldB
      · exact absurd (inv.holds_bounds oldA).2 (Nat.lt_irrefl _)
    · rcases old b _ heldB with oldB | ⟨rfl, -⟩
      · exact absurd (inv.holds_bounds oldB).2 (Nat.lt_irrefl _)
      · rfl
  older := by
    cases touch.effect with
    | idle agent =>
      rw [agent]
      exact inv.older
    | created parent kind mine agent =>
      rw [agent]
      intro r member
      change r.parent < w.agent.next + 1
      rcases Ledger.mem_create.mp member with old | rfl
      · exact Nat.lt_succ_of_lt (inv.older r old)
      · rcases mine with rfl | mine
        · exact Nat.succ_pos _
        · exact Nat.lt_succ_of_lt (inv.holds_bounds mine).2
    | released handle live held agent =>
      rw [agent]
      exact fun r member => inv.older r (Ledger.mem_remove.mp member).1
  faults := by
    cases touch.effect with
    | idle agent => rw [agent, inv.faults]
    | created _ _ _ agent =>
      rw [agent]
      exact inv.faults
    | released _ _ _ agent =>
      rw [agent]
      exact inv.faults

end
end NetDrv.Xdp
