import NetDrv.Phy.CommonModes
import NetDrv.Phy.Restore

/-! What the two ends of a link are to report, given the configurations committed on
them: the mode autonegotiation resolves to, a forced mode, or what parallel detection
makes of a partner that does not negotiate. The PHY tests are judged against it. -/

namespace NetDrv.Phy

/-- The link modes a configuration advertises on the wire. -/
def PhyTree.offers (tree : PhyTree) (name : String) : Bool :=
  tree.autoneg == .on && tree.names.contains name && isLinkName name && tree.advertised name

def modePair (name : String) : Speed × Duplex := (ModeInfo.ofName name false).pair

def PairOutranks (pair1 pair2 : Speed × Duplex) : Prop :=
  pair2.1.id < pair1.1.id ∨ pair1.1 = pair2.1 ∧ pair1.2 = .full ∧ pair2.2 = .half

structure HighestOffered (own peer : PhyTree) (pair : Speed × Duplex) : Prop where
  offered : ∃ name, own.offers name = true ∧ peer.offers name = true ∧ modePair name = pair
  highest : ∀ name, own.offers name = true → peer.offers name = true → modePair name ≠ pair →
    PairOutranks pair (modePair name)

def Resolves (own peer : PhyTree) (pair : Speed × Duplex) : Prop :=
  match own.autoneg, peer.autoneg with
  | .off, _ => pair = (own.speedAdmin, own.duplexAdmin)
  | .on, .on => HighestOffered own peer pair
  | .on, .off => pair = (peer.speedAdmin, .half)
  | _, _ => False

theorem PairOutranks.asymm {pair1 pair2 : Speed × Duplex} (higher : PairOutranks pair1 pair2) :
    ¬PairOutranks pair2 pair1 := by
  unfold PairOutranks at *
  grind

theorem HighestOffered.unique {own peer : PhyTree} {pair pair' : Speed × Duplex}
    (here : HighestOffered own peer pair) (there : HighestOffered own peer pair') : pair = pair' := by
  obtain ⟨name, offered, offered', same⟩ := here.offered
  obtain ⟨name', offers, offers', same'⟩ := there.offered
  by_contra differ
  have above : PairOutranks pair (modePair name') := here.highest name' offers offers' (fun e => differ (e.symm.trans same'))
  have below : PairOutranks pair' (modePair name) := there.highest name offered offered' (fun e => differ (same.symm.trans e))
  rw [same'] at above
  rw [same] at below
  exact above.asymm below

theorem Resolves.unique {own peer : PhyTree} {pair pair' : Speed × Duplex} (here : Resolves own peer pair)
    (there : Resolves own peer pair') : pair = pair' := by
  unfold Resolves at here there
  cases left : own.autoneg with
  | off =>
    simp only [left] at here there
    exact here.trans there.symm
  | on =>
    cases right : peer.autoneg with
    | on =>
      simp only [left, right] at here there
      exact here.unique there
    | off =>
      simp only [left, right] at here there
      exact here.trans there.symm
    | unknown => simp only [left, right] at here
  | unknown => simp only [left] at here

/-- An end negotiates and, of the link modes of `base`, advertises the wanted ones. -/
structure Advertising (base : PhyTree) (wanted : String → Bool) (tree : PhyTree) : Prop where
  autoneg : tree.autoneg = .on
  names : tree.names = base.names
  advertised : ∀ name ∈ base.names, isLinkName name = true → tree.advertised name = wanted name

structure Forced (speed : Speed) (duplex : Duplex) (tree : PhyTree) : Prop where
  autoneg : tree.autoneg = .off
  speedAdmin : tree.speedAdmin = speed
  duplexAdmin : tree.duplexAdmin = duplex

def namedWanted (mode1Name : String) (mode2Name : Option String) (name : String) : Bool :=
  name == mode1Name || mode2Name == some name

theorem shouldAdvertise_ofName (mode1Name : String) (mode2Name : Option String) (name : String) (advertised : Bool) :
    shouldAdvertise mode1Name mode2Name (ModeInfo.ofName name advertised) = namedWanted mode1Name mode2Name name := by
  rw [shouldAdvertise, ofName_name, namedWanted]

theorem applyAll_names (tree : PhyTree) (settings : List Setting) : (tree.applyAll settings).names = tree.names := by
  induction settings generalizing tree with
  | nil => rfl
  | cons setting settings ih =>
    apply (ih (tree.apply setting)).trans
    cases setting <;> rfl

theorem autonegModes_advertising {base tree : PhyTree} (same : tree.names = base.names) (mode1Name : String)
    (mode2Name : Option String) :
    Advertising base (namedWanted mode1Name mode2Name)
      (tree.applyAll ((Call.autonegModes mode1Name mode2Name).settings (snapshot base) tree)) := by
  let wanted := shouldAdvertise mode1Name mode2Name
  have named : ∀ name ∈ base.names, isLinkName name = true →
      ∃ mode ∈ (snapshot base).linkModes, mode.name = name ∧ wanted mode = namedWanted mode1Name mode2Name name := by
    intro name member link
    refine ⟨ModeInfo.ofName name (base.advertised name), mem_linkModes_snapshot.mpr ⟨name, member, link, rfl⟩, ?_⟩
    exact ⟨ofName_name _ _, shouldAdvertise_ofName _ _ _ _⟩
  simp only [Call.settings]
  split
  next changed =>
    rw [applyAll_append]
    refine ⟨rfl, (applyAll_names _ _).trans ((applyAll_names _ _).trans same), ?_⟩
    intro name member link
    obtain ⟨mode, mem, isName, isWanted⟩ := named name member link
    have set := applyAll_advertise_mem (linkModes_names_nodup base) wanted tree mem
    rw [isName, isWanted] at set
    exact set
  next unchanged =>
    simp only [Bool.or_eq_true, bne_iff_ne, not_or, not_not, advertisedDiff, List.any_eq_true, not_exists, not_and]
      at unchanged
    refine ⟨unchanged.1, same, ?_⟩
    intro name member link
    obtain ⟨mode, mem, isName, isWanted⟩ := named name member link
    have already := unchanged.2 mode mem
    rw [isName] at already
    exact already.trans isWanted

theorem fixedMode_forced (state : SavedState) (tree : PhyTree) (speed : Speed) (duplex : Duplex) :
    Forced speed duplex (tree.applyAll ((Call.fixedMode speed duplex).settings state tree)) := by
  simp only [Call.settings, applyAll_append]
  constructor
  · by_cases off : tree.autoneg = .off <;> by_cases s : tree.speedAdmin = speed <;>
      by_cases d : tree.duplexAdmin = duplex <;> simp [off, s, d, PhyTree.applyAll, PhyTree.apply]
  · by_cases off : tree.autoneg = .off <;> by_cases s : tree.speedAdmin = speed <;>
      by_cases d : tree.duplexAdmin = duplex <;> simp [off, s, d, PhyTree.applyAll, PhyTree.apply]
  · by_cases off : tree.autoneg = .off <;> by_cases s : tree.speedAdmin = speed <;>
      by_cases d : tree.duplexAdmin = duplex <;> simp [off, s, d, PhyTree.applyAll, PhyTree.apply]

end NetDrv.Phy
