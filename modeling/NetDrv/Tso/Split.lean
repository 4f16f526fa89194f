import NetDrv.Lib.Loop
import NetDrv.Tso.Capture

/-! The reference splitter of the TSO test: what the segments handed to the NIC
should look like on the wire. A loop over the segments holds a loop over the offsets
in one of them; the second one is shown to cut pieces off the front of what is left. -/

namespace NetDrv.Tso
open Loop Serial

/-- The variables of the inner loop of `split_pkts_by_mss()`. -/
structure Splitting where
  off : BitVec 32
  expected : List TcpSegInfo

/-- One turn of `while (off < seg_info.len)`. -/
def splitTurn (mss : BitVec 32) (seg : TcpSegInfo) (s : Splitting) : Turn Splitting (List TcpSegInfo) :=
  if s.off < seg.len then
    let curLen := if seg.len - s.off > mss then mss else seg.len - s.off
    .again ⟨s.off + curLen, s.expected ++ [⟨seg.seqn + s.off, curLen⟩]⟩
  else .leave s.expected

/-- The result, if every run of the inner loop ends within `fuel` turns. -/
def splitPktsByMss (fuel : Nat) (mss : BitVec 32) (txSegs : List TcpSegInfo) : Option (List TcpSegInfo) :=
  txSegs.foldlM (fun expected seg => run (splitTurn mss seg) fuel ⟨0, expected⟩) []

/-- `split_pkts_by_mss()` ends and leaves `expected`. -/
def SplitsTo (mss : BitVec 32) (txSegs expected : List TcpSegInfo) : Prop :=
  ∃ fuel, splitPktsByMss fuel mss txSegs = some expected

/-- The pieces follow one another from `seqn` on. -/
def Contiguous : BitVec 32 → List TcpSegInfo → Prop
  | _, [] => True
  | seqn, piece :: pieces => piece.seqn = seqn ∧ Contiguous (seqn + piece.len) pieces

structure Tiles (mss : BitVec 32) (seg : TcpSegInfo) (pieces : List TcpSegInfo) : Prop where
  contiguous : Contiguous seg.seqn pieces
  nonempty : ∀ piece ∈ pieces, 0 < piece.len
  bounded : ∀ piece ∈ pieces, piece.len ≤ mss
  full : ∀ piece ∈ pieces.dropLast, piece.len = mss
  total : (pieces.map (fun piece => piece.len.toNat)).sum = seg.len.toNat

/-- Cut `len` bytes from `seqn` on into pieces of `mss` bytes. -/
def pieces (mss : Nat) (seqn : BitVec 32) (len : Nat) : List TcpSegInfo :=
  if _ : len = 0 ∨ mss = 0 then []
  else ⟨seqn, .ofNat 32 (min mss len)⟩ :: pieces mss (seqn + .ofNat 32 (min mss len)) (len - min mss len)
termination_by len
decreasing_by omega

section Pieces
variable {mss len : Nat} {seqn : BitVec 32}

theorem pieces_zero (mss : Nat) (seqn : BitVec 32) : pieces mss seqn 0 = [] := by
  unfold pieces
  simp

theorem pieces_succ (positive : 0 < mss) (nonzero : 0 < len) :
    pieces mss seqn len =
      ⟨seqn, .ofNat 32 (min mss len)⟩ :: pieces mss (seqn + .ofNat 32 (min mss len)) (len - min mss len) := by
  rw [pieces, dif_neg (by omega)]

theorem pieces_single (nonzero : 0 < len) (fits : len ≤ mss) : pieces mss seqn len = [⟨seqn, .ofNat 32 len⟩] := by
  rw [pieces_succ (Nat.lt_of_lt_of_le nonzero fits) nonzero, Nat.min_eq_right fits, Nat.sub_self, pieces_zero]

theorem pieces_full (positive : 0 < mss) (more : mss ≤ len) :
    pieces mss seqn len = ⟨seqn, .ofNat 32 mss⟩ :: pieces mss (seqn + .ofNat 32 mss) (len - mss) := by
  rw [pieces_succ positive (Nat.lt_of_lt_of_le positive more), Nat.min_eq_left more]

theorem pieces_append (positive : 0 < mss) (whole rest : Nat) (seqn : BitVec 32) :
    pieces mss seqn (whole * mss + rest) =
      pieces mss seqn (whole * mss) ++ pieces mss (seqn + .ofNat 32 (whole * mss)) rest := by
  induction whole generalizing seqn with
  | zero => simp [pieces_zero]
  | succ whole ih =>
    have front : (whole + 1) * mss + rest - mss = whole * mss + rest := by
      rw [Nat.succ_mul]
      omega
    have front' : (whole + 1) * mss - mss = whole * mss := by
      rw [Nat.succ_mul, Nat.add_sub_cancel]
    have more : mss ≤ (whole + 1) * mss := Nat.le_mul_of_pos_left mss (Nat.succ_pos whole)
    have shift : seqn + .ofNat 32 mss + .ofNat 32 (whole * mss) = seqn + .ofNat 32 ((whole + 1) * mss) := by
      rw [BitVec.add_assoc, ← BitVec.ofNat_add, Nat.succ_mul, Nat.add_comm]
    rw [pieces_full positive (Nat.le_add_right_of_le more), pieces_full positive more, front, front', ih, shift]
    rfl

theorem toNat_ofNat_len (small : len < 2 ^ 32) : (BitVec.ofNat 32 len).toNat = len := by
  rw [BitVec.toNat_ofNat, Nat.mod_eq_of_lt small]

theorem pieces_multiple {times : Nat} (positive : 0 < mss) (multiple : 0 < times) (fits : times * mss < 2 ^ 32)
    (small : len < 2 ^ 32) :
    (pieces (times * mss) seqn len).flatMap (fun piece => pieces mss piece.seqn piece.len.toNat) =
      pieces mss seqn len := by
  have wide : 0 < times * mss := Nat.mul_pos multiple positive
  induction len using Nat.strong_induction_on generalizing seqn with
  | _ len ih =>
    rcases Nat.eq_zero_or_pos len with rfl | nonzero
    · rw [pieces_zero, pieces_zero, List.flatMap_nil]
    · rcases Nat.le_total len (times * mss) with single | more
      · rw [pieces_single nonzero single, List.flatMap_singleton, toNat_ofNat_len small]
      · have rest : (pieces (times * mss) (seqn + .ofNat 32 (times * mss)) (len - times * mss)).flatMap
            (fun piece => pieces mss piece.seqn piece.len.toNat) = _ := ih (len - times * mss) (by omega) (by omega)
        have whole : times * mss + (len - times * mss) = len := Nat.add_sub_cancel' more
        rw [pieces_full wide more, List.flatMap_cons, rest, toNat_ofNat_len fits,
          ← pieces_append positive, whole]

end Pieces

section Tiling
variable {mss : BitVec 32} {seg : TcpSegInfo}

theorem Tiles.cons {rest : TcpSegInfo} {tail : List TcpSegInfo} (positive : 0 < mss)
    (tiles : Tiles mss rest tail) (follows : rest.seqn = seg.seqn + mss)
    (whole : mss.toNat + rest.len.toNat = seg.len.toNat) : Tiles mss seg (⟨seg.seqn, mss⟩ :: tail) where
  contiguous := ⟨rfl, follows ▸ tiles.contiguous⟩
  nonempty := List.forall_mem_cons.mpr ⟨positive, tiles.nonempty⟩
  bounded := List.forall_mem_cons.mpr ⟨BitVec.le_refl mss, tiles.bounded⟩
  full := by
    cases tail with
    | nil => simp
    | cons next tail =>
      rw [List.dropLast_cons_cons]
      exact List.forall_mem_cons.mpr ⟨rfl, tiles.full⟩
  total := by rw [List.map_cons, List.sum_cons, tiles.total, whole]

theorem tiles_pieces (positive : 0 < mss) (seg : TcpSegInfo) :
    Tiles mss seg (pieces mss.toNat seg.seqn seg.len.toNat) := by
  have positive' : 0 < mss.toNat := BitVec.lt_def.mp positive
  induction len : seg.len.toNat using Nat.strong_induction_on generalizing seg with
  | _ n ih =>
    subst len
    rcases Nat.eq_zero_or_pos seg.len.toNat with zero | nonzero
    · rw [zero, pieces_zero]
      exact ⟨trivial, by simp, by simp, by simp, by simp [zero]⟩
    · rcases Nat.le_total seg.len.toNat mss.toNat with single | more
      · rw [pieces_single nonzero single, BitVec.ofNat_toNat, BitVec.setWidth_eq]
        exact ⟨⟨rfl, trivial⟩, by simpa [BitVec.lt_def] using nonzero, by simpa [BitVec.le_def] using single,
          by simp, by simp⟩
      · have bound := seg.len.isLt
        have left : (BitVec.ofNat 32 (seg.len.toNat - mss.toNat)).toNat = seg.len.toNat - mss.toNat :=
          toNat_ofNat_len (by omega)
        have rest := ih _ (by omega) ⟨seg.seqn + mss, .ofNat 32 (seg.len.toNat - mss.toNat)⟩ left
        rw [pieces_full positive' more, BitVec.ofNat_toNat, BitVec.setWidth_eq]
        exact rest.cons positive rfl (by rw [left]; omega)

theorem ends_splitTurn (positive : 0 < mss) (seg : TcpSegInfo) {left : Nat} {off : BitVec 32}
    {expected : List TcpSegInfo} (here : off.toNat + left = seg.len.toNat) :
    Ends (splitTurn mss seg) ⟨off, expected⟩ (expected ++ pieces mss.toNat (seg.seqn + off) left) := by
  have positive' : 0 < mss.toNat := BitVec.lt_def.mp positive
  induction left using Nat.strong_induction_on generalizing off expected with
  | _ left ih =>
    rcases Nat.eq_zero_or_pos left with rfl | nonzero
    · have done : ¬off < seg.len := by
        rw [BitVec.lt_def]
        omega
      rw [pieces_zero, List.append_nil]
      exact .leave (by simp [splitTurn, done])
    · have more : off < seg.len := by
        rw [BitVec.lt_def]
        omega
      have bound := seg.len.isLt
      have less : min mss.toNat left ≤ left := Nat.min_le_right _ _
      have step : 0 < min mss.toNat left := Nat.lt_min.mpr ⟨positive', nonzero⟩
      have rest : (seg.len - off).toNat = left := by
        rw [BitVec.toNat_sub_of_le (BitVec.le_of_lt more)]
        omega
      have curLen : (if seg.len - off > mss then mss else seg.len - off) = .ofNat 32 (min mss.toNat left) := by
        apply BitVec.eq_of_toNat_eq
        rw [toNat_ofNat_len (by omega)]
        simp only [apply_ite BitVec.toNat, gt_iff_lt, BitVec.lt_def, rest]
        split <;> omega
      have next : (off + .ofNat 32 (min mss.toNat left)).toNat = off.toNat + min mss.toNat left := by
        rw [BitVec.toNat_add, toNat_ofNat_len (by omega), Nat.mod_eq_of_lt (by omega)]
      have turn : splitTurn mss seg ⟨off, expected⟩ = .again ⟨off + .ofNat 32 (min mss.toNat left),
          expected ++ [⟨seg.seqn + off, .ofNat 32 (min mss.toNat left)⟩]⟩ := by
        simp only [splitTurn, more, if_true, curLen]
      rw [pieces_succ positive' nonzero, List.append_cons, BitVec.add_assoc]
      exact .again turn (ih (left - min mss.toNat left) (by omega) (by omega))

end Tiling

/-- What `split_pkts_by_mss()` leaves. -/
def splitAll (mss : BitVec 32) (txSegs : List TcpSegInfo) : List TcpSegInfo :=
  txSegs.flatMap (fun seg => pieces mss.toNat seg.seqn seg.len.toNat)

section Outer
variable {mss : BitVec 32} {segs expected : List TcpSegInfo}

theorem ends_splitSeg (positive : 0 < mss) (seg : TcpSegInfo) (expected : List TcpSegInfo) :
    Ends (splitTurn mss seg) ⟨0, expected⟩ (expected ++ pieces mss.toNat seg.seqn seg.len.toNat) := by
  have whole : (0 : BitVec 32).toNat + seg.len.toNat = seg.len.toNat := Nat.zero_add _
  simpa using ends_splitTurn positive seg whole

theorem split_result (positive : 0 < mss) {fuel : Nat} {result : List TcpSegInfo}
    (done : segs.foldlM (fun expected seg => run (splitTurn mss seg) fuel ⟨0, expected⟩) expected = some result) :
    result = expected ++ splitAll mss segs := by
  induction segs generalizing expected with
  | nil => simpa [splitAll, eq_comm] using done
  | cons seg segs ih =>
    rw [List.foldlM_cons] at done
    obtain ⟨middle, first, rest⟩ := Option.bind_eq_some_iff.mp done
    have cut : middle = expected ++ pieces mss.toNat seg.seqn seg.len.toNat :=
      (ends_of_run first).unique (ends_splitSeg positive seg expected)
    rw [ih rest, cut, List.append_assoc]
    rfl

theorem split_ends (positive : 0 < mss) (segs expected : List TcpSegInfo) :
    ∃ least, ∀ fuel, least ≤ fuel →
      segs.foldlM (fun expected seg => run (splitTurn mss seg) fuel ⟨0, expected⟩) expected =
        some (expected ++ splitAll mss segs) := by
  induction segs generalizing expected with
  | nil => exact ⟨0, fun fuel _ => by simp [splitAll]⟩
  | cons seg segs ih =>
    obtain ⟨least, first⟩ := run_of_ends (ends_splitSeg positive seg expected)
    obtain ⟨least', rest⟩ := ih (expected ++ pieces mss.toNat seg.seqn seg.len.toNat)
    refine ⟨least + least', fun fuel enough => ?_⟩
    rw [List.foldlM_cons, first fuel (by omega)]
    show segs.foldlM _ (expected ++ pieces mss.toNat seg.seqn seg.len.toNat) = _
    rw [rest fuel (by omega), List.append_assoc]
    rfl

theorem splitsTo_iff (positive : 0 < mss) : SplitsTo mss segs expected ↔ expected = splitAll mss segs := by
  constructor
  · intro splits
    obtain ⟨fuel, done⟩ := splits
    exact split_result positive done
  · intro result
    obtain ⟨least, done⟩ := split_ends positive segs []
    exact ⟨least, result ▸ done least (Nat.le_refl least)⟩

theorem splitAll_tiles (positive : 0 < mss) (segs : List TcpSegInfo) :
    ∃ runs, splitAll mss segs = runs.flatten ∧ List.Forall₂ (Tiles mss) segs runs := by
  refine ⟨segs.map (fun seg : TcpSegInfo => pieces mss.toNat seg.seqn seg.len.toNat), List.flatMap_def, ?_⟩
  rw [List.forall₂_map_right_iff, List.forall₂_same]
  exact fun seg _ => tiles_pieces positive seg

theorem splitAll_fitting (fitting : ∀ seg ∈ segs, 0 < seg.len ∧ seg.len ≤ mss) : splitAll mss segs = segs := by
  induction segs with
  | nil => rfl
  | cons seg segs ih =>
    obtain ⟨⟨nonzero, fits⟩, rest⟩ := List.forall_mem_cons.mp fitting
    have single : pieces mss.toNat seg.seqn seg.len.toNat = [seg] := by
      rw [pieces_single (BitVec.lt_def.mp nonzero) (BitVec.le_def.mp fits), BitVec.ofNat_toNat, BitVec.setWidth_eq]
    rw [splitAll, List.flatMap_cons, single]
    exact congrArg (seg :: ·) (ih rest)

theorem splitAll_fits (positive : 0 < mss) {seg : TcpSegInfo} (member : seg ∈ splitAll mss segs) :
    0 < seg.len ∧ seg.len ≤ mss := by
  obtain ⟨whole, -, part⟩ := List.mem_flatMap.mp member
  have tiles := tiles_pieces positive whole
  exact ⟨tiles.nonempty seg part, tiles.bounded seg part⟩

theorem splitAll_multiple {multiple : BitVec 32} {times : Nat} (positive : 0 < mss) (nonzero : 0 < times)
    (value : multiple.toNat = times * mss.toNat) (segs : List TcpSegInfo) :
    splitAll mss (splitAll multiple segs) = splitAll mss segs := by
  have fits : times * mss.toNat < 2 ^ 32 := value ▸ multiple.isLt
  unfold splitAll
  rw [List.flatMap_assoc, value]
  exact List.flatMap_congr (fun seg _ =>
    pieces_multiple (BitVec.lt_def.mp positive) nonzero fits seg.len.isLt)

end Outer

/-- The splitter ends and tiles every segment; it is idempotent, leaves fitting segments alone and agrees with
itself after a split by a multiple. -/
theorem split_pkts_by_mss_tiles (mss : BitVec 32) (positive : 1 ≤ mss.toNat) (segs : List TcpSegInfo) :
    ∃ expected, SplitsTo mss segs expected ∧ (∀ other, SplitsTo mss segs other → other = expected) ∧
      (∃ runs, expected = runs.flatten ∧ List.Forall₂ (Tiles mss) segs runs) ∧
      SplitsTo mss expected expected ∧
      ((∀ seg ∈ segs, 0 < seg.len ∧ seg.len ≤ mss) → expected = segs) ∧
      ∀ multiple : BitVec 32, (∃ times, 0 < times ∧ multiple.toNat = times * mss.toNat) →
        ∀ first, SplitsTo multiple segs first → SplitsTo mss first expected := by
  have positive' : 0 < mss := BitVec.lt_def.mpr positive
  refine ⟨splitAll mss segs, (splitsTo_iff positive').mpr rfl, fun _ => (splitsTo_iff positive').mp,
    splitAll_tiles positive' segs, ?_, splitAll_fitting, ?_⟩
  · rw [splitsTo_iff positive', splitAll_fitting (fun _ => splitAll_fits positive')]
  · intro multiple divides first splits
    obtain ⟨times, nonzero, value⟩ := divides
    have wide : 0 < multiple := by
      rw [BitVec.lt_def, value]
      exact Nat.mul_pos nonzero positive
    rw [(splitsTo_iff wide).mp splits, splitsTo_iff positive', splitAll_multiple positive' nonzero value]

theorem split_pkts_by_mss_ten_by_four :
    ∃ expected, SplitsTo 4 [⟨0xfffffffe, 10⟩] expected ∧
      expected = [⟨0xfffffffe, 4⟩, ⟨2, 4⟩, ⟨6, 2⟩] := by
  obtain ⟨expected, splits, unique, -⟩ := split_pkts_by_mss_tiles 4 (by decide) [⟨0xfffffffe, 10⟩]
  exact ⟨expected, splits, (unique _ ⟨4, by decide⟩).symm⟩

end NetDrv.Tso
