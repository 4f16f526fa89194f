import Mathlib.Data.List.Nodup

/-! A ledger of resources that may be built over one another. A resource may be
released only while it is live and nothing live is built over it; any other request
to release it is a fault. Handles are never reused and zero is no handle. -/

namespace NetDrv

structure Resource (κ : Type) where
  handle : Nat
  /-- Handle of the resource this one is built over, or zero. -/
  parent : Nat
  kind : κ
  deriving DecidableEq, Repr

structure Ledger (κ : Type) where
  live : List (Resource κ)
  next : Nat
  released : List Nat
  faults : List Nat
  bounded : 0 < next ∧ ∀ r ∈ live, 0 < r.handle ∧ r.handle < next
  once : released.Nodup
  gone : ∀ handle ∈ released, handle < next ∧ ∀ r ∈ live, r.handle ≠ handle

namespace Ledger
variable {κ : Type}

def empty : Ledger κ := ⟨[], 1, [], [], by simp, by simp, by simp⟩

def Live (ledger : Ledger κ) (handle : Nat) : Prop := ∃ r ∈ ledger.live, r.handle = handle

/-- The resource is live and nothing is built over it. -/
def Releasable (ledger : Ledger κ) (handle : Nat) : Prop :=
  ledger.Live handle ∧ ∀ r ∈ ledger.live, r.parent ≠ handle

instance (ledger : Ledger κ) (handle : Nat) : Decidable (ledger.Live handle) :=
  inferInstanceAs (Decidable (∃ r ∈ ledger.live, r.handle = handle))

instance (ledger : Ledger κ) (handle : Nat) : Decidable (ledger.Releasable handle) :=
  inferInstanceAs (Decidable (_ ∧ ∀ r ∈ ledger.live, r.parent ≠ handle))

/-- A new resource gets the handle `next`. -/
def create (ledger : Ledger κ) (parent : Nat) (kind : κ) : Ledger κ where
  live := ledger.live ++ [⟨ledger.next, parent, kind⟩]
  next := ledger.next + 1
  released := ledger.released
  faults := ledger.faults
  bounded := by
    refine ⟨by omega, ?_⟩
    simp only [List.forall_mem_append, List.forall_mem_singleton]
    refine ⟨fun r member => ?_, ledger.bounded.1, by omega⟩
    have bound := ledger.bounded.2 r member
    omega
  once := ledger.once
  gone := by
    intro handle member
    obtain ⟨bound, gone⟩ := ledger.gone handle member
    refine ⟨by omega, ?_⟩
    simp only [List.forall_mem_append, List.forall_mem_singleton]
    exact ⟨gone, by omega⟩

def remove (ledger : Ledger κ) (handle : Nat) (live : ledger.Live handle) : Ledger κ where
  live := ledger.live.filter (fun r => r.handle ≠ handle)
  next := ledger.next
  released := ledger.released ++ [handle]
  faults := ledger.faults
  bounded := ⟨ledger.bounded.1, fun r member => ledger.bounded.2 r (List.mem_of_mem_filter member)⟩
  once := by
    refine List.nodup_append.mpr ⟨ledger.once, by simp, ?_⟩
    intro other member last
    obtain ⟨r, inside, rfl⟩ := live
    rw [List.mem_singleton]
    rintro rfl
    rintro rfl
    exact (ledger.gone _ member).2 r inside rfl
  gone := by
    simp only [List.forall_mem_append, List.forall_mem_singleton, List.mem_filter, decide_eq_true_eq]
    refine ⟨fun other member => ?_, ?_, fun r inside => inside.2⟩
    · exact ⟨(ledger.gone other member).1, fun r inside => (ledger.gone other member).2 r inside.1⟩
    · obtain ⟨r, inside, rfl⟩ := live
      exact (ledger.bounded.2 r inside).2

/-- A request to release a resource, which the owner of the ledger may refuse. -/
def request (ledger : Ledger κ) (handle : Nat) (granted : Bool) : Ledger κ :=
  if releasable : ledger.Releasable handle then
    if granted then ledger.remove handle releasable.1 else ledger
  else { ledger with faults := ledger.faults ++ [handle] }

section
variable {ledger : Ledger κ} {handle : Nat}

theorem Live.bounds (live : ledger.Live handle) : 0 < handle ∧ handle < ledger.next := by
  obtain ⟨r, member, rfl⟩ := live
  exact ledger.bounded.2 r member

theorem request_refused (releasable : ledger.Releasable handle) : ledger.request handle false = ledger := by
  unfold request
  rw [dif_pos releasable]
  rfl

theorem request_granted (releasable : ledger.Releasable handle) :
    ledger.request handle true = ledger.remove handle releasable.1 := by
  unfold request
  rw [dif_pos releasable]
  rfl

theorem mem_create {parent : Nat} {kind : κ} {r : Resource κ} :
    r ∈ (ledger.create parent kind).live ↔ r ∈ ledger.live ∨ r = ⟨ledger.next, parent, kind⟩ := by
  simp [create]

theorem mem_remove {live : ledger.Live handle} {r : Resource κ} :
    r ∈ (ledger.remove handle live).live ↔ r ∈ ledger.live ∧ r.handle ≠ handle := by
  simp [remove]

theorem Live.create (live : ledger.Live handle) (parent : Nat) (kind : κ) : (ledger.create parent kind).Live handle := by
  obtain ⟨r, member, same⟩ := live
  exact ⟨r, mem_create.mpr (.inl member), same⟩

theorem live_next (parent : Nat) (kind : κ) : (ledger.create parent kind).Live ledger.next :=
  ⟨⟨ledger.next, parent, kind⟩, mem_create.mpr (.inr rfl), rfl⟩

theorem Live.remove {other : Nat} (live : ledger.Live other) (different : other ≠ handle) (here : ledger.Live handle) :
    (ledger.remove handle here).Live other := by
  obtain ⟨r, member, rfl⟩ := live
  exact ⟨r, mem_remove.mpr ⟨member, different⟩, rfl⟩

end
end Ledger
end NetDrv
