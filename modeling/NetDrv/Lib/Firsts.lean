import Mathlib.Data.List.Induction
import Mathlib.Data.List.Nodup
import Mathlib.Data.List.Perm.Subperm

/-! The first item of each key of a list, collected in one pass over it. An item is
added only if nothing of its key has been collected, so what is kept has distinct keys
and is in the order of the list. -/

namespace NetDrv.Firsts

section
variable {α β : Type} [DecidableEq β] (key : α → β)

def keep (kept : List α) (new : α) : List α :=
  if kept.any (fun old => key old = key new) then kept else kept ++ [new]

/-- What a pass over `items` is to collect. -/
structure Kept (items kept : List α) : Prop where
  distinct : (kept.map key).Nodup
  first : ∀ x ∈ kept, items.find? (fun y => key y = key x) = some x
  covers : ∀ x ∈ items, ∃ y ∈ kept, key y = key x

end

section
variable {α β : Type} [DecidableEq β] {key : α → β} {items kept : List α}

theorem any_key_iff {new : α} : kept.any (fun old => key old = key new) = true ↔ ∃ old ∈ kept, key old = key new := by
  simp

theorem length_keep_le (key : α → β) (kept : List α) (new : α) : (keep key kept new).length ≤ kept.length + 1 := by
  unfold keep
  split
  · exact Nat.le_succ _
  · simp

theorem Kept.mem {x : α} (inv : Kept key items kept) (mem : x ∈ kept) : x ∈ items :=
  List.mem_of_find?_eq_some (inv.first x mem)

theorem Kept.append_known {new : α} (inv : Kept key items kept) (known : ∃ old ∈ kept, key old = key new) :
    Kept key (items ++ [new]) kept where
  distinct := inv.distinct
  first := by
    intro x mem
    rw [List.find?_append, inv.first x mem]
    rfl
  covers := by
    intro x mem
    rw [List.mem_append, List.mem_singleton] at mem
    cases mem with
    | inl old => exact inv.covers x old
    | inr last => exact last ▸ known

theorem Kept.append_new {new : α} (inv : Kept key items kept) (unknown : ∀ old ∈ kept, key old ≠ key new) :
    Kept key (items ++ [new]) (kept ++ [new]) where
  distinct := by
    rw [List.map_append, List.map_singleton, List.nodup_append]
    refine ⟨inv.distinct, List.nodup_singleton _, ?_⟩
    intro k before k' last
    obtain ⟨old, mem, named⟩ := List.mem_map.1 before
    rw [List.mem_singleton.1 last, ← named]
    exact unknown old mem
  first := by
    intro x mem
    rw [List.mem_append, List.mem_singleton] at mem
    cases mem with
    | inl old =>
      rw [List.find?_append, inv.first x old]
      rfl
    | inr last =>
      -- an item of this key among `items` would have one of its key in `kept`
      have absent : items.find? (fun y => key y = key new) = none := by
        rw [List.find?_eq_none]
        intro y before same
        obtain ⟨old, mem, named⟩ := inv.covers y before
        exact unknown old mem (named.trans (of_decide_eq_true same))
      rw [last, List.find?_append, absent]
      simp
  covers := by
    intro x mem
    rw [List.mem_append, List.mem_singleton] at mem
    cases mem with
    | inl old =>
      obtain ⟨y, mem, same⟩ := inv.covers x old
      exact ⟨y, List.mem_append_left _ mem, same⟩
    | inr last => exact ⟨new, by simp, by rw [last]⟩

theorem Kept.keep (inv : Kept key items kept) (new : α) : Kept key (items ++ [new]) (Firsts.keep key kept new) := by
  unfold Firsts.keep
  split
  next known => exact inv.append_known (any_key_iff.1 known)
  next unknown =>
    apply inv.append_new
    intro old mem same
    exact unknown (any_key_iff.2 ⟨old, mem, same⟩)

theorem kept_foldl (key : α → β) (items : List α) : Kept key items (items.foldl (Firsts.keep key) []) := by
  induction items using List.reverseRecOn with
  | nil => exact ⟨List.nodup_nil, by simp, by simp⟩
  | append_singleton items new ih =>
    rw [List.foldl_append, List.foldl_cons, List.foldl_nil]
    exact ih.keep new

theorem Kept.length_le (inv : Kept key items kept) : kept.length ≤ items.length := by
  have distinct : kept.Nodup := inv.distinct.of_map key
  exact (distinct.subperm (fun x mem => inv.mem mem)).length_le

theorem Kept.filter_eq {x : α} (inv : Kept key items kept) (mem : x ∈ items) :
    ∃ first, items.find? (fun y => key y = key x) = some first ∧ kept.filter (fun y => key y = key x) = [first] := by
  obtain ⟨first, found, same⟩ := inv.covers x mem
  refine ⟨first, same ▸ inv.first first found, ?_⟩
  obtain ⟨before, after, split⟩ := List.append_of_mem found
  have distinct := inv.distinct
  rw [split, List.map_append, List.map_cons, List.nodup_middle, List.nodup_cons, List.mem_append] at distinct
  have others : ∀ y, y ∈ before ∨ y ∈ after → key y ≠ key x := by
    intro y mem equal
    apply distinct.1
    rw [same, ← equal]
    exact mem.imp (List.mem_map_of_mem) (List.mem_map_of_mem)
  have nothing : ∀ part : List α, (∀ y ∈ part, y ∈ before ∨ y ∈ after) → part.filter (fun y => key y = key x) = [] := by
    intro part within
    rw [List.filter_eq_nil_iff]
    intro y mem
    simp [others y (within y mem)]
  rw [split, List.filter_append, List.filter_cons, nothing before (fun y => .inl), nothing after (fun y => .inr)]
  simp [same]

end
end NetDrv.Firsts
