import NetDrv.Phy.Mode
import Mathlib.Data.List.Infix

/-! Which names `net_drv_phy_parse_speed_duplex_mode()` accepts. A name is scanned from
both ends: for the digits it starts with, and for what follows its last underscore. The
text between may hold digits, underscores or another `base`. -/

namespace NetDrv.Phy

/-- What the two pointers of the function refer to. -/
structure ModeOut where
  speed : Speed
  duplex : Duplex
  deriving DecidableEq, Repr

/-- `net_drv_phy_parse_speed_duplex_mode()` with the writes it makes. -/
def parseSpeedDuplexModeInto (modeName : String) : StateM ModeOut Bool := do
  match strtoul modeName.toList with
  | none => return false
  | some (parsedSpeed, endptr) =>
    if parsedSpeed > intMax || endptr.take 4 != "base".toList then
      return false
    match strrchr '_' modeName.toList with
    | none => return false
    | some duplexSuffix =>
      if duplexSuffix = "_Full".toList then
        modify (fun out => { out with duplex := .full })
      else if duplexSuffix = "_Half".toList then
        modify (fun out => { out with duplex := .half })
      else if modeName = "10000baseR_FEC" then
        modify (fun out => { out with duplex := .full })
      else
        return false
      modify (fun out => { out with speed := .mbps parsedSpeed })
      return true

theorem parseSpeedDuplexModeInto_run (modeName : String) (out : ModeOut) :
    (parseSpeedDuplexModeInto modeName).run out =
      match parseSpeedDuplexMode modeName with
      | some (speed, duplex) => (true, ⟨.mbps speed, duplex⟩)
      | none => (false, out) := by
  unfold parseSpeedDuplexModeInto parseSpeedDuplexMode
  cases strtoul modeName.toList with
  | none => rfl
  | some number =>
    cases strrchr '_' modeName.toList with
    | none =>
      dsimp only
      split <;> rfl
    | some suffix =>
      -- a refused number, the two suffixes, the name that has neither, and any other name
      dsimp only
      split
      · rfl
      · split
        · rfl
        · split
          · rfl
          · split <;> rfl

theorem ofName_eq_into (name : String) (advertised : Bool) (out : ModeOut) :
    ModeInfo.ofName name advertised =
      match (parseSpeedDuplexModeInto name).run out with
      | (true, written) => ⟨name, advertised, written.speed, written.duplex⟩
      | (false, _) => ⟨name, advertised, .unknown, .unknown⟩ := by
  rw [parseSpeedDuplexModeInto_run, ModeInfo.ofName]
  cases parseSpeedDuplexMode name <;> rfl

/-- Neither white space nor a sign, which `strtoul()` would skip. -/
def PlainStart (s : List Char) : Prop := ∀ c ∈ s.head?, isSpace c = false ∧ c ≠ '-' ∧ c ≠ '+'

/-- Decimal digits of this value, immediately followed by `base`. -/
def StartsWithSpeed (s : List Char) (speed : Nat) : Prop :=
  ∃ digits rest, digits ≠ [] ∧ (∀ c ∈ digits, c.isDigit = true) ∧ s = digits ++ ("base".toList ++ rest) ∧
    Nat.ofDigitChars 10 digits 0 = speed

/-- The duplex a name stands for by how it ends, or by being the one irregular name. -/
def NamesDuplex (name : String) : Duplex → Prop
  | .full => "_Full".toList <:+ name.toList ∨ name = "10000baseR_FEC"
  | .half => "_Half".toList <:+ name.toList
  | .unknown => False

/-- The three branches of the parser that go on, by the text from the last underscore. -/
def BySuffix (name : String) (suffix : List Char) (duplex : Duplex) : Prop :=
  suffix = "_Full".toList ∧ duplex = .full ∨ suffix = "_Half".toList ∧ duplex = .half ∨
    suffix ≠ "_Full".toList ∧ suffix ≠ "_Half".toList ∧ name = "10000baseR_FEC" ∧ duplex = .full

section
variable {s : List Char}

theorem digitsValue_append {digits rest : List Char} (value : Nat) (decimal : ∀ c ∈ digits, c.isDigit = true)
    (stop : ∀ c ∈ rest.head?, c.isDigit = false) :
    digitsValue (digits ++ rest) value = (Nat.ofDigitChars 10 digits value, rest) := by
  induction digits generalizing value with
  | nil =>
    cases rest with
    | nil => rfl
    | cons c rest => simp [digitsValue, stop c rfl]
  | cons c digits ih =>
    have digit : c.isDigit = true := decimal c List.mem_cons_self
    rw [List.cons_append, digitsValue, if_pos digit, Nat.ofDigitChars_cons]
    exact ih _ (fun d mem => decimal d (List.mem_cons_of_mem c mem))

theorem exists_leading_digits (s : List Char) :
    ∃ digits rest, s = digits ++ rest ∧ (∀ c ∈ digits, c.isDigit = true) ∧ ∀ c ∈ rest.head?, c.isDigit = false := by
  refine ⟨s.takeWhile Char.isDigit, s.dropWhile Char.isDigit, List.takeWhile_append_dropWhile.symm, ?_, ?_⟩
  · exact List.all_eq_true.1 List.all_takeWhile
  · intro c first
    have stopped := List.head?_dropWhile_not Char.isDigit s
    rw [Option.mem_def.1 first] at stopped
    simpa using stopped

theorem dropWhile_isSpace (plain : PlainStart s) : s.dropWhile isSpace = s := by
  cases s with
  | nil => rfl
  | cons c rest => simp [(plain c rfl).1]

theorem strtoul_cons {c : Char} (plain : PlainStart (c :: s)) :
    strtoul (c :: s) =
      if c.isDigit then some (min (digitsValue (c :: s) 0).1 ulongMax, (digitsValue (c :: s) 0).2) else none := by
  obtain ⟨-, notMinus, notPlus⟩ := plain c rfl
  unfold strtoul
  rw [dropWhile_isSpace plain]
  split
  next negative body sign =>
    have unsigned : (negative, body) = (false, c :: s) := by
      rw [← sign]
      split
      next minus => exact absurd (List.cons.inj minus).1 notMinus
      next plus => exact absurd (List.cons.inj plus).1 notPlus
      next => rfl
    obtain ⟨rfl, rfl⟩ := Prod.mk.inj unsigned
    grind

theorem strtoul_plain (plain : PlainStart s) {digits rest : List Char} (split : s = digits ++ rest)
    (decimal : ∀ c ∈ digits, c.isDigit = true) (stop : ∀ c ∈ rest.head?, c.isDigit = false) :
    strtoul s = if digits = [] then none else some (min (Nat.ofDigitChars 10 digits 0) ulongMax, rest) := by
  have value : digitsValue s 0 = (Nat.ofDigitChars 10 digits 0, rest) := split ▸ digitsValue_append 0 decimal stop
  cases s with
  | nil =>
    obtain ⟨rfl, -⟩ := List.append_eq_nil_iff.1 split.symm
    rfl
  | cons c tail =>
    rw [strtoul_cons plain, value]
    cases digits with
    | nil => simp [stop c (by rw [← List.nil_append rest, ← split]; rfl)]
    | cons d digits =>
      have same : c = d := (List.cons.inj split).1
      simp [same, decimal d List.mem_cons_self]

theorem base_head_not_digit (rest : List Char) : ∀ c ∈ ("base".toList ++ rest).head?, c.isDigit = false := by
  intro c first
  cases first
  decide

theorem StartsWithSpeed.unique {speed speed' : Nat} (left : StartsWithSpeed s speed) (right : StartsWithSpeed s speed') :
    speed = speed' := by
  have read : ∀ {value}, StartsWithSpeed s value → (digitsValue s 0).1 = value := by
    intro value ⟨digits, rest, _, decimal, split, same⟩
    rw [split, digitsValue_append 0 decimal (base_head_not_digit rest), same]
  rw [← read left, ← read right]

theorem strtoul_base_iff (plain : PlainStart s) {speed : Nat} (small : speed ≤ intMax) :
    (∃ rest, strtoul s = some (speed, rest) ∧ rest.take 4 = "base".toList) ↔ StartsWithSpeed s speed := by
  have below : intMax < ulongMax := by decide
  constructor
  · intro ⟨rest, run, base⟩
    obtain ⟨digits, after, split, decimal, stop⟩ := exists_leading_digits s
    rw [strtoul_plain plain split decimal stop] at run
    by_cases empty : digits = []
    · rw [if_pos empty] at run
      cases run
    · rw [if_neg empty, Option.some.injEq, Prod.mk.injEq] at run
      obtain ⟨value, rfl⟩ := run
      refine ⟨digits, after.drop 4, empty, decimal, ?_, by omega⟩
      rw [split, ← base, List.take_append_drop]
  · intro ⟨digits, rest, nonempty, decimal, split, value⟩
    refine ⟨"base".toList ++ rest, ?_, rfl⟩
    rw [strtoul_plain plain split decimal (base_head_not_digit rest), if_neg nonempty, value, Nat.min_eq_left (by omega)]

theorem strrchr_eq_none {wanted : Char} (absent : wanted ∉ s) : strrchr wanted s = none := by
  induction s with
  | nil => rfl
  | cons c rest ih =>
    rw [List.mem_cons, not_or] at absent
    rw [strrchr, ih absent.2, if_neg (Ne.symm absent.1)]

theorem strrchr_append {wanted : Char} (before : List Char) {after : List Char} (absent : wanted ∉ after) :
    strrchr wanted (before ++ wanted :: after) = some (wanted :: after) := by
  induction before with
  | nil => rw [List.nil_append, strrchr, strrchr_eq_none absent, if_pos rfl]
  | cons c before ih => rw [List.cons_append, strrchr, ih]

theorem suffix_of_strrchr {wanted : Char} {found : List Char} (search : strrchr wanted s = some found) : found <:+ s := by
  induction s with
  | nil => cases search
  | cons c rest ih =>
    rw [strrchr] at search
    split at search
    next later deeper =>
      cases search
      exact (ih deeper).trans (List.suffix_cons c rest)
    next =>
      split at search
      · cases search
        exact List.suffix_rfl
      · cases search

theorem strrchr_iff_suffix {wanted : Char} {after : List Char} (absent : wanted ∉ after) :
    strrchr wanted s = some (wanted :: after) ↔ wanted :: after <:+ s := by
  constructor
  · exact suffix_of_strrchr
  · intro ⟨before, ends⟩
    rw [← ends, strrchr_append before absent]

end

section
variable {name : String} {speed : Nat} {duplex : Duplex}

theorem strrchr_full_iff : strrchr '_' name.toList = some "_Full".toList ↔ "_Full".toList <:+ name.toList :=
  strrchr_iff_suffix (by decide)

theorem strrchr_half_iff : strrchr '_' name.toList = some "_Half".toList ↔ "_Half".toList <:+ name.toList :=
  strrchr_iff_suffix (by decide)

theorem full_ne_half : "_Full".toList ≠ "_Half".toList := by decide

theorem strrchr_irregular : strrchr '_' "10000baseR_FEC".toList = some "_FEC".toList := by decide

theorem namesDuplex_iff :
    NamesDuplex name duplex ↔ ∃ suffix, strrchr '_' name.toList = some suffix ∧ BySuffix name suffix duplex := by
  cases duplex with
  | full =>
    rw [NamesDuplex, ← strrchr_full_iff]
    constructor
    · intro accepted
      cases accepted with
      | inl full => exact ⟨_, full, .inl ⟨rfl, rfl⟩⟩
      | inr irregular =>
        rw [irregular]
        exact ⟨_, strrchr_irregular, .inr (.inr ⟨by decide, by decide, rfl, rfl⟩)⟩
    · intro ⟨suffix, search, cases⟩
      rcases cases with ⟨full, -⟩ | ⟨-, other⟩ | ⟨-, -, irregular, -⟩
      · exact .inl (full ▸ search)
      · cases other
      · exact .inr irregular
  | half =>
    rw [NamesDuplex, ← strrchr_half_iff]
    constructor
    · intro half
      exact ⟨_, half, .inr (.inl ⟨rfl, rfl⟩)⟩
    · intro ⟨suffix, search, cases⟩
      rcases cases with ⟨-, other⟩ | ⟨half, -⟩ | ⟨-, -, -, other⟩
      · cases other
      · exact half ▸ search
      · cases other
  | unknown => simp [NamesDuplex, BySuffix]

theorem parseSpeedDuplexMode_cases :
    parseSpeedDuplexMode name = some (speed, duplex) ↔
      (∃ rest, strtoul name.toList = some (speed, rest) ∧ rest.take 4 = "base".toList) ∧ speed ≤ intMax ∧
      ∃ suffix, strrchr '_' name.toList = some suffix ∧ BySuffix name suffix duplex := by
  unfold parseSpeedDuplexMode BySuffix
  cases strtoul name.toList with
  | none => simp
  | some number =>
    cases strrchr '_' name.toList with
    | none => simp
    | some suffix =>
      -- which texts they are makes no difference here, as long as the two suffixes differ
      have differ := full_ne_half
      generalize "base".toList = base, "_Full".toList = full, "_Half".toList = half, "10000baseR_FEC" = irregular
        at differ ⊢
      grind

theorem parseSpeedDuplexMode_iff (plain : PlainStart name.toList) :
    parseSpeedDuplexMode name = some (speed, duplex) ↔
      speed ≤ intMax ∧ StartsWithSpeed name.toList speed ∧ NamesDuplex name duplex := by
  rw [parseSpeedDuplexMode_cases, ← namesDuplex_iff]
  constructor
  · intro ⟨number, small, named⟩
    exact ⟨small, (strtoul_base_iff plain small).1 number, named⟩
  · intro ⟨small, starts, named⟩
    exact ⟨(strtoul_base_iff plain small).2 starts, small, named⟩

theorem NamesDuplex.unique {duplex' : Duplex} (left : NamesDuplex name duplex) (right : NamesDuplex name duplex') :
    duplex = duplex' := by
  rw [namesDuplex_iff] at left right
  obtain ⟨suffix, search, one⟩ := left
  obtain ⟨suffix', search', other⟩ := right
  obtain rfl : suffix = suffix' := Option.some.inj (search.symm.trans search')
  have differ := full_ne_half
  unfold BySuffix at one other
  generalize "_Full".toList = full, "_Half".toList = half at one other differ
  grind

theorem exists_namesDuplex_iff :
    (∃ duplex, NamesDuplex name duplex) ↔
      "_Full".toList <:+ name.toList ∨ "_Half".toList <:+ name.toList ∨ name = "10000baseR_FEC" := by
  constructor
  · intro ⟨duplex, named⟩
    cases duplex with
    | full => exact named.imp_right .inr
    | half => exact .inr (.inl named)
    | unknown => cases named
  · intro accepted
    rcases accepted with full | half | irregular
    · exact ⟨.full, .inl full⟩
    · exact ⟨.half, half⟩
    · exact ⟨.full, .inr irregular⟩

theorem NamesDuplex.eq_ite (named : NamesDuplex name duplex) :
    duplex = if "_Half".toList <:+ name.toList then .half else .full := by
  split
  next half =>
    have other : NamesDuplex name .half := half
    exact named.unique other
  next other =>
    cases duplex with
    | full => rfl
    | half => exact absurd named other
    | unknown => cases named

theorem parse_run_of_names (out : ModeOut) (plain : PlainStart name.toList) (small : speed ≤ intMax)
    (starts : StartsWithSpeed name.toList speed) (named : NamesDuplex name duplex) :
    (parseSpeedDuplexModeInto name).run out = (true, ⟨.mbps speed, duplex⟩) := by
  rw [parseSpeedDuplexModeInto_run, (parseSpeedDuplexMode_iff plain).2 ⟨small, starts, named⟩]

theorem parse_run_cases (name : String) (out : ModeOut) (plain : PlainStart name.toList) :
    (∃ speed duplex, speed ≤ intMax ∧ StartsWithSpeed name.toList speed ∧ NamesDuplex name duplex ∧
      (parseSpeedDuplexModeInto name).run out = (true, ⟨.mbps speed, duplex⟩)) ∨
    (∀ speed ≤ intMax, ∀ duplex, StartsWithSpeed name.toList speed → ¬NamesDuplex name duplex) ∧
      (parseSpeedDuplexModeInto name).run out = (false, out) := by
  rw [parseSpeedDuplexModeInto_run]
  cases parsed : parseSpeedDuplexMode name with
  | some pair =>
    obtain ⟨small, starts, named⟩ := (parseSpeedDuplexMode_iff plain).1 parsed
    exact .inl ⟨pair.1, pair.2, small, starts, named, rfl⟩
  | none =>
    refine .inr ⟨?_, rfl⟩
    intro speed small duplex starts named
    rw [(parseSpeedDuplexMode_iff plain).2 ⟨small, starts, named⟩] at parsed
    cases parsed

theorem isLinkMode_ofName_iff (advertised : Bool) (plain : PlainStart name.toList) :
    isLinkMode (ModeInfo.ofName name advertised) = true ↔
      ∃ speed ≤ intMax, StartsWithSpeed name.toList speed ∧ ∃ duplex, NamesDuplex name duplex := by
  rw [ofName_eq_into name advertised ⟨.unknown, .unknown⟩]
  rcases parse_run_cases name ⟨.unknown, .unknown⟩ plain with ⟨speed, duplex, small, starts, named, run⟩ | ⟨refused, run⟩
  · rw [run]
    refine iff_of_true ?_ ⟨speed, small, starts, duplex, named⟩
    cases duplex with
    | full => rfl
    | half => rfl
    | unknown => cases named
  · rw [run]
    refine iff_of_false Bool.false_ne_true ?_
    intro ⟨speed, small, starts, duplex, named⟩
    exact refused speed small duplex starts named

theorem isDigit_plain {c : Char} (digit : c.isDigit = true) : isSpace c = false ∧ c ≠ '-' ∧ c ≠ '+' := by
  have differs : ∀ {d : Char}, d.isDigit = false → c ≠ d := by
    intro d other same
    rw [same, other] at digit
    cases digit
  refine ⟨?_, differs rfl, differs rfl⟩
  simp only [isSpace, Bool.or_eq_false_iff, beq_eq_false_iff_ne]
  exact ⟨⟨⟨⟨⟨differs rfl, differs rfl⟩, differs rfl⟩, differs rfl⟩, differs rfl⟩, differs rfl⟩

theorem StartsWithSpeed.plain {s : List Char} (starts : StartsWithSpeed s speed) : PlainStart s := by
  obtain ⟨digits, rest, nonempty, decimal, split, -⟩ := starts
  intro c first
  apply isDigit_plain
  apply decimal
  rw [split, List.head?_append_of_ne_nil _ nonempty] at first
  exact List.mem_of_mem_head? first

end

def modeName (speed : Nat) (media suffix : String) : String := toString speed ++ "base" ++ media ++ "_" ++ suffix

theorem modeName_toList (speed : Nat) (media suffix : String) :
    (modeName speed media suffix).toList =
      Nat.toDigits 10 speed ++ ("base".toList ++ (media.toList ++ '_' :: suffix.toList)) := by
  simp [modeName, Nat.toString_eq_repr, Nat.toList_repr]

theorem modeName_startsWithSpeed (speed : Nat) (media suffix : String) :
    StartsWithSpeed (modeName speed media suffix).toList speed := by
  refine ⟨Nat.toDigits 10 speed, _, Nat.toDigits_ne_nil, ?_, modeName_toList speed media suffix, ?_⟩
  · intro c mem
    exact Nat.isDigit_of_mem_toDigits (by decide) (by decide) mem
  · exact Nat.ofDigitChars_ten_toDigits

theorem modeName_suffix (speed : Nat) (media suffix : String) :
    '_' :: suffix.toList <:+ (modeName speed media suffix).toList := by
  rw [modeName_toList]
  calc '_' :: suffix.toList <:+ media.toList ++ '_' :: suffix.toList := List.suffix_append _ _
    _ <:+ "base".toList ++ (media.toList ++ '_' :: suffix.toList) := List.suffix_append _ _
    _ <:+ Nat.toDigits 10 speed ++ ("base".toList ++ (media.toList ++ '_' :: suffix.toList)) := List.suffix_append _ _

/-- Which names are accepted, what is written for them, and that rendered names are read back. -/
theorem parseSpeedDuplexMode_spec :
    (∀ (name : String) (out : ModeOut), PlainStart name.toList →
      (((parseSpeedDuplexModeInto name).run out).1 = true ↔
        (∃ speed ≤ intMax, StartsWithSpeed name.toList speed) ∧
          ("_Full".toList <:+ name.toList ∨ "_Half".toList <:+ name.toList ∨ name = "10000baseR_FEC")) ∧
      (((parseSpeedDuplexModeInto name).run out).1 = true →
        (∀ speed, StartsWithSpeed name.toList speed →
          ((parseSpeedDuplexModeInto name).run out).2.speed = .mbps speed) ∧
        ((parseSpeedDuplexModeInto name).run out).2.duplex =
          if "_Half".toList <:+ name.toList then .half else .full) ∧
      (((parseSpeedDuplexModeInto name).run out).1 = false → ((parseSpeedDuplexModeInto name).run out).2 = out)) ∧
    ∀ speed ≤ intMax, ∀ media duplex text, (duplex, text) ∈ [(Duplex.full, "Full"), (Duplex.half, "Half")] →
      ∀ out, (parseSpeedDuplexModeInto (modeName speed media text)).run out = (true, ⟨.mbps speed, duplex⟩) := by
  constructor
  · intro name out plain
    rw [← exists_namesDuplex_iff]
    rcases parse_run_cases name out plain with ⟨speed, duplex, small, starts, named, run⟩ | ⟨refused, run⟩
    · rw [run]
      refine ⟨iff_of_true rfl ⟨⟨speed, small, starts⟩, duplex, named⟩, ?_, ?_⟩
      · intro _
        constructor
        · intro speed' starts'
          rw [starts.unique starts']
        · exact named.eq_ite
      · intro failed
        cases failed
    · rw [run]
      refine ⟨iff_of_false Bool.false_ne_true ?_, ?_, fun _ => rfl⟩
      · intro ⟨⟨speed, small, starts⟩, duplex, named⟩
        exact refused speed small duplex starts named
      · intro parsed
        cases parsed
  · intro speed small media duplex text mem out
    have starts := modeName_startsWithSpeed speed media text
    have ends := modeName_suffix speed media text
    apply parse_run_of_names out starts.plain small starts
    simp only [List.mem_cons, Prod.mk.injEq, List.not_mem_nil, or_false] at mem
    rcases mem with ⟨rfl, rfl⟩ | ⟨rfl, rfl⟩
    · exact .inl ends
    · exact ends

theorem parseSpeedDuplexMode_media :
    PlainStart "2500base_T".toList ∧
    ((parseSpeedDuplexModeInto "2500base_T").run ⟨.mbps 7, .unknown⟩).2 = ⟨.mbps 7, .unknown⟩ ∧
    (parseSpeedDuplexModeInto (modeName 2500 "1_base_T" "Half")).run ⟨.mbps 7, .unknown⟩ =
      (true, ⟨.mbps 2500, .half⟩) := by
  have plain : PlainStart "2500base_T".toList := by
    intro c first
    cases first
    decide
  obtain ⟨names, rendered⟩ := parseSpeedDuplexMode_spec
  refine ⟨plain, ?_, ?_⟩
  · apply (names "2500base_T" ⟨.mbps 7, .unknown⟩ plain).2.2
    decide
  · exact rendered 2500 (by decide) "1_base_T" .half "Half" (by decide) ⟨.mbps 7, .unknown⟩

end NetDrv.Phy
