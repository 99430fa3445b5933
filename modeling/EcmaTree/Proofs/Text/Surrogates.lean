import EcmaTree.Text.Units
import Mathlib.Tactic.Common

/-!
# Joining surrogate pairs

`Text.joinSurrogates` goes through sixteen-bit units.  `Text.pairsJoined` says what comes out
without them: it walks over the code points and replaces a high surrogate and a low one directly
behind it by the code point that the two encode.  The two agree (`joinSurrogates_eq_pairsJoined`),
and a text is left as it is iff it has no such pair (`joinSurrogates_eq_self_iff`).  Putting units
together never changes them (`units_ofUnits`), so the texts without pairs stand for the sequences of
units one to one (`eq_ofUnits_iff`).

The walk is greedy, and a code point above `0xFFFF` never takes part: its first unit is a high
surrogate, so no unit in front of it can pair with it, and its second unit is used up by its
first.
-/

namespace EcmaTree

/-! ### Pairs of code points -/

/-- The code point that a high and a low surrogate encode.  Behind the first of their kind they
count `0x400` each, so the remainders only matter for code points that are no surrogates. -/
def CodePoint.joinedWith (high low : CodePoint) : CodePoint :=
  ⟨0x10000 + (high.toNat - 0xD800) % 0x400 * 0x400 + (low.toNat - 0xDC00) % 0x400, by omega⟩

/-- The text with every high surrogate directly followed by a low one replaced by the code point
that the pair encodes, left to right. -/
def Text.pairsJoined : Text → Text
  | [] => []
  | [c] => [c]
  | c :: d :: rest =>
    if c.isHighSurrogate && d.isLowSurrogate then c.joinedWith d :: pairsJoined rest
    else c :: pairsJoined (d :: rest)

/-- Somewhere in the text a high surrogate is directly followed by a low one. -/
def Text.HasSurrogatePair (t : Text) : Prop :=
  ∃ before high low after, t = before ++ high :: low :: after ∧
    high.isHighSurrogate = true ∧ low.isLowSurrogate = true

theorem CodePoint.joinedWith_ne {high low : CodePoint} (hh : high.isHighSurrogate = true) :
    high.joinedWith low ≠ high := by
  intro h
  have hn := congrArg CodePoint.toNat h
  simp only [isHighSurrogate, Bool.and_eq_true, decide_eq_true_eq] at hh
  simp only [joinedWith] at hn
  omega

/-! ### Units of single code points -/

theorem CodePoint.units_of_lt {c : CodePoint} (h : c.toNat < 0x10000) :
    c.units = [⟨c.toNat, h⟩] := by
  rw [units, dif_pos h]

theorem CodeUnit.units_alone (u : CodeUnit) : u.alone.units = [u] :=
  CodePoint.units_of_lt u.isLt

/-- A code point above `0xFFFF` is a high and a low surrogate, and these two encode it. -/
theorem CodePoint.units_of_le {c : CodePoint} (h : 0x10000 ≤ c.toNat) :
    ∃ high low : CodeUnit, c.units = [high, low] ∧ high.isHigh = true ∧ low.isLow = true ∧
      high.pair low = c := by
  have hc := c.isLt
  rw [units, dif_neg (by omega)]
  refine ⟨_, _, rfl, ?_, ?_, ?_⟩
  · simp only [CodeUnit.isHigh, Bool.and_eq_true, decide_eq_true_eq]
    omega
  · simp only [CodeUnit.isLow, Bool.and_eq_true, decide_eq_true_eq]
    omega
  · apply CodePoint.ext
    simp only [CodeUnit.pair]
    omega

/-- The code point that two surrogates encode is these two. -/
theorem CodeUnit.units_pair {u v : CodeUnit} (hu : u.isHigh = true) (hv : v.isLow = true) :
    (u.pair v).units = [u, v] := by
  simp only [isHigh, isLow, Bool.and_eq_true, decide_eq_true_eq] at hu hv
  have hle : ¬(u.pair v).toNat < 0x10000 := by
    simp only [pair]
    omega
  rw [CodePoint.units, dif_neg hle, List.cons.injEq, List.cons.injEq]
  refine ⟨CodeUnit.ext ?_, CodeUnit.ext ?_, rfl⟩ <;> simp only [pair] <;> omega

namespace Text

theorem units_cons (c : CodePoint) (t : Text) : units (c :: t) = c.units ++ units t :=
  List.flatMap_cons

theorem units_append (s t : Text) : units (s ++ t) = units s ++ units t :=
  List.flatMap_append

/-- Units that stand for themselves are their own units. -/
theorem units_map_alone (us : List CodeUnit) : units (us.map CodeUnit.alone) = us := by
  induction us with
  | nil => rfl
  | cons u us ih => rw [List.map_cons, units_cons, CodeUnit.units_alone, ih, List.singleton_append]

/-- The first unit of a text is a low surrogate iff its first code point is one. -/
theorem exists_units_cons (d : CodePoint) (t : Text) :
    ∃ v us, units (d :: t) = v :: us ∧ v.isLow = d.isLowSurrogate := by
  rw [units_cons]
  by_cases h : d.toNat < 0x10000
  · exact ⟨_, _, by rw [CodePoint.units_of_lt h]; rfl, rfl⟩
  · obtain ⟨high, low, hu, hhigh, -, -⟩ := CodePoint.units_of_le (Nat.not_lt.mp h)
    refine ⟨high, low :: units t, by rw [hu]; rfl, ?_⟩
    simp only [CodeUnit.isHigh, Bool.and_eq_true, decide_eq_true_eq] at hhigh
    simp only [CodeUnit.isLow, CodePoint.isLowSurrogate]
    rw [decide_eq_false (by omega : ¬0xDC00 ≤ high.toNat),
      decide_eq_false (by omega : ¬d.toNat ≤ 0xDFFF), Bool.and_false, Bool.false_and]

/-! ### The walk over units -/

/-- A code point comes back out of its units, unless it is a high surrogate and a low one
follows. -/
theorem ofUnits_units_append {c : CodePoint} {us : List CodeUnit}
    (h : c.isHighSurrogate = true → ∀ v ∈ us.head?, v.isLow = false) :
    ofUnits (c.units ++ us) = c :: ofUnits us := by
  -- A code point has one unit or two, and the two are a pair by themselves.
  by_cases hc : c.toNat < 0x10000
  · rw [CodePoint.units_of_lt hc, List.singleton_append]
    cases us with
    | nil => rfl
    | cons v us =>
      have hno : ¬(CodeUnit.isHigh ⟨c.toNat, hc⟩ && v.isLow) = true := by
        rw [Bool.and_eq_true]
        rintro ⟨hhigh, hlow⟩
        rw [h hhigh v rfl] at hlow
        exact Bool.false_ne_true hlow
      rw [ofUnits, if_neg hno]
      rfl
  · obtain ⟨high, low, hu, hhigh, hlow, hpair⟩ := CodePoint.units_of_le (Nat.not_lt.mp hc)
    rw [hu, List.cons_append, List.singleton_append, ofUnits, hhigh, hlow, hpair]
    rfl

/-- Two surrogates that make a pair come out joined. -/
theorem ofUnits_units_pair {c d : CodePoint} (hc : c.isHighSurrogate = true)
    (hd : d.isLowSurrogate = true) (us : List CodeUnit) :
    ofUnits (c.units ++ (d.units ++ us)) = c.joinedWith d :: ofUnits us := by
  have hc' := hc
  have hd' := hd
  simp only [CodePoint.isHighSurrogate, CodePoint.isLowSurrogate, Bool.and_eq_true,
    decide_eq_true_eq] at hc' hd'
  have hclt : c.toNat < 0x10000 := by omega
  have hdlt : d.toNat < 0x10000 := by omega
  have hpair : CodeUnit.pair ⟨c.toNat, hclt⟩ ⟨d.toNat, hdlt⟩ = c.joinedWith d := by
    apply CodePoint.ext
    simp only [CodeUnit.pair, CodePoint.joinedWith]
    omega
  have hcond : (CodeUnit.isHigh ⟨c.toNat, hclt⟩ && CodeUnit.isLow ⟨d.toNat, hdlt⟩) = true :=
    Bool.and_eq_true_iff.mpr ⟨hc, hd⟩
  rw [CodePoint.units_of_lt hclt, CodePoint.units_of_lt hdlt, List.singleton_append,
    List.singleton_append, ofUnits, if_pos hcond, hpair]

/-- Going through the units joins exactly the adjacent pairs of surrogates. -/
theorem joinSurrogates_eq_pairsJoined (t : Text) : t.joinSurrogates = t.pairsJoined := by
  unfold joinSurrogates
  fun_induction pairsJoined t with
  | case1 => rfl
  | case2 c =>
    rw [units_cons, ofUnits_units_append (by simp [units])]
    rfl
  | case3 c d rest hpair ih =>
    rw [Bool.and_eq_true] at hpair
    rw [units_cons, units_cons, ofUnits_units_pair hpair.1 hpair.2, ih]
  | case4 c d rest hpair ih =>
    rw [units_cons, ofUnits_units_append, ih]
    -- No pair is made across the border, since the next unit is low only if its code point is.
    intro hc v hv
    obtain ⟨w, us, hw, hlow⟩ := exists_units_cons d rest
    rw [hw] at hv
    obtain rfl := Option.some.inj hv
    rw [hlow]
    simpa [hc] using hpair

/-! ### When nothing is joined -/

/-- A pair is in front, or behind the first code point. -/
theorem hasSurrogatePair_cons_cons (c d : CodePoint) (rest : Text) :
    HasSurrogatePair (c :: d :: rest) ↔
      (c.isHighSurrogate = true ∧ d.isLowSurrogate = true) ∨ HasSurrogatePair (d :: rest) := by
  constructor
  · rintro ⟨before, high, low, after, heq, hhigh, hlow⟩
    cases before with
    | nil =>
      obtain ⟨rfl, rfl, rfl⟩ : c = high ∧ d = low ∧ rest = after := by simpa using heq
      exact Or.inl ⟨hhigh, hlow⟩
    | cons b before =>
      rw [List.cons_append, List.cons.injEq] at heq
      exact Or.inr ⟨before, high, low, after, heq.2, hhigh, hlow⟩
  · rintro (⟨hc, hd⟩ | ⟨before, high, low, after, heq, hhigh, hlow⟩)
    · exact ⟨[], c, d, rest, rfl, hc, hd⟩
    · exact ⟨c :: before, high, low, after, by rw [heq]; rfl, hhigh, hlow⟩

/-- A text has no pair iff joining pairs leaves it as it is. -/
theorem pairsJoined_eq_self_iff (t : Text) : t.pairsJoined = t ↔ ¬t.HasSurrogatePair := by
  -- Case 3 joins a pair, and only there the text changes.
  fun_induction pairsJoined t with
  | case1 => simp [HasSurrogatePair]
  | case2 c =>
    refine iff_of_true rfl ?_
    rintro ⟨before, high, low, after, heq, -, -⟩
    have hlen := congrArg List.length heq
    simp only [List.length_append, List.length_cons, List.length_nil] at hlen
    omega
  | case3 c d rest hpair ih =>
    rw [Bool.and_eq_true] at hpair
    refine iff_of_false ?_ ?_
    · intro heq
      exact CodePoint.joinedWith_ne hpair.1 (List.cons.inj heq).1
    · rw [not_not, hasSurrogatePair_cons_cons]
      exact Or.inl hpair
  | case4 c d rest hpair ih =>
    rw [Bool.and_eq_true] at hpair
    rw [List.cons.injEq, hasSurrogatePair_cons_cons, or_iff_right hpair, ← ih]
    exact and_iff_right rfl

theorem joinSurrogates_eq_self_iff (t : Text) : t.joinSurrogates = t ↔ ¬t.HasSurrogatePair := by
  rw [joinSurrogates_eq_pairsJoined, pairsJoined_eq_self_iff]

/-! ### Texts without pairs -/

/-- Units stay the same when a text is made of them. -/
theorem units_ofUnits (us : List CodeUnit) : units (ofUnits us) = us := by
  fun_induction ofUnits us with
  | case1 => rfl
  | case2 u => exact units_map_alone [u]
  | case3 u v rest hpair ih =>
    rw [Bool.and_eq_true] at hpair
    rw [units_cons, CodeUnit.units_pair hpair.1 hpair.2, ih]
    rfl
  | case4 u v rest hpair ih =>
    rw [units_cons, CodeUnit.units_alone, ih]
    rfl

theorem not_hasSurrogatePair_ofUnits (us : List CodeUnit) : ¬(ofUnits us).HasSurrogatePair := by
  rw [← joinSurrogates_eq_self_iff, joinSurrogates, units_ofUnits]

/-- There is one text without pairs to a sequence of units. -/
theorem eq_ofUnits_iff {t : Text} {us : List CodeUnit} :
    t = ofUnits us ↔ t.units = us ∧ ¬t.HasSurrogatePair := by
  constructor
  · rintro rfl
    exact ⟨units_ofUnits us, not_hasSurrogatePair_ofUnits us⟩
  · rintro ⟨rfl, hpair⟩
    exact ((joinSurrogates_eq_self_iff t).mpr hpair).symm

/-- Joining pairs keeps apart what differs in its units, and nothing else. -/
theorem joinSurrogates_eq_joinSurrogates_iff {s t : Text} :
    s.joinSurrogates = t.joinSurrogates ↔ s.units = t.units := by
  constructor
  · intro h
    rw [← units_ofUnits s.units, ← units_ofUnits t.units]
    exact congrArg units h
  · intro h
    rw [joinSurrogates, h, joinSurrogates]

end Text

end EcmaTree
