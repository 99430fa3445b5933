import EcmaTree.Proofs.Text.Surrogates

/-!
# Texts through UTF-16

Surrogate pairs are joined by writing a text as UTF-16 bytes and reading it again.  Both directions
can fail.  A surrogate on its own has no place in UTF-16, so writer and reader leave it to a
handler, which may refuse it, and the reader refuses bytes that end within a unit.

With the handlers that pass surrogates on, every text gets through, and what comes out is the text
with its pairs joined (`Text.throughUtf16?_eq`).  This makes joining a projection onto the texts
without pairs, and two texts have the same image iff they have the same units
(`Text.joinSurrogates_projection`).
-/

namespace EcmaTree

/-! ### Bytes and handlers -/

/-- Whether the unit is half of a pair. -/
def CodeUnit.isSurrogate (u : CodeUnit) : Bool := u.isHigh || u.isLow

/-- Whether the code point is half of a pair. -/
def CodePoint.isSurrogate (c : CodePoint) : Bool := c.isHighSurrogate || c.isLowSurrogate

theorem CodePoint.toNat_lt_of_isSurrogate {c : CodePoint} (h : c.isSurrogate = true) :
    c.toNat < 0x10000 := by
  simp only [isSurrogate, isHighSurrogate, isLowSurrogate, Bool.or_eq_true, Bool.and_eq_true,
    decide_eq_true_eq] at h
  omega

/-- The units of a code point, where the handler has the say about surrogates. -/
def CodePoint.units? (lone? : CodePoint → Option CodeUnit) (c : CodePoint) :
    Option (List CodeUnit) :=
  if c.isSurrogate then (lone? c).map fun u => [u] else some c.units

/-- The code point of a unit that is not part of a pair, where the handler has the say about
surrogates. -/
def CodeUnit.alone? (lone? : CodeUnit → Option CodePoint) (u : CodeUnit) : Option CodePoint :=
  if u.isSurrogate then lone? u else some u.alone

/-- The handler that writes a surrogate as the unit of its number, and refuses what is none. -/
def CodePoint.passedOn? (c : CodePoint) : Option CodeUnit :=
  if h : c.isSurrogate = true then some ⟨c.toNat, toNat_lt_of_isSurrogate h⟩ else none

/-- The handler that reads a surrogate as the code point of its number, and refuses what is none. -/
def CodeUnit.passedOn? (u : CodeUnit) : Option CodePoint :=
  if u.isSurrogate then some u.alone else none

/-- The handler is never asked for anything that it refuses. -/
theorem CodePoint.units?_passedOn? (c : CodePoint) : c.units? passedOn? = some c.units := by
  rw [units?]
  split_ifs with hc
  · rw [passedOn?, dif_pos hc, units_of_lt (toNat_lt_of_isSurrogate hc)]
    rfl
  · rfl

/-- The handler is never asked for anything that it refuses. -/
theorem CodeUnit.alone?_passedOn? (u : CodeUnit) : u.alone? passedOn? = some u.alone := by
  rw [alone?]
  split_ifs with hu
  · rw [passedOn?, if_pos hu]
  · rfl

/-- The two bytes of a unit, the low one first. -/
def CodeUnit.bytes (u : CodeUnit) : List UInt8 :=
  [UInt8.ofNat u.toNat, UInt8.ofNat (u.toNat / 0x100)]

/-- The unit that two bytes spell. -/
def CodeUnit.ofBytes (low high : UInt8) : CodeUnit where
  toNat := low.toNat + 0x100 * high.toNat
  isLt := by
    have hlow := low.toNat_lt
    have hhigh := high.toNat_lt
    omega

theorem CodeUnit.ofBytes_bytes (u : CodeUnit) :
    ofBytes (UInt8.ofNat u.toNat) (UInt8.ofNat (u.toNat / 0x100)) = u := by
  have hu := u.isLt
  apply CodeUnit.ext
  simp only [ofBytes, UInt8.toNat_ofNat']
  omega

namespace Text

/-! ### Writing -/

/-- The UTF-16 bytes of a text.  A surrogate is written as the unit that the handler gives. -/
def utf16? (lone? : CodePoint → Option CodeUnit) : Text → Option (List UInt8)
  | [] => some []
  | c :: rest => do
    let units ← c.units? lone?
    let behind ← utf16? lone? rest
    return units.flatMap CodeUnit.bytes ++ behind

/-- Without the help of a handler, texts with surrogates are refused, and no others. -/
theorem utf16?_refused_eq_none_iff {t : Text} :
    t.utf16? (fun _ => none) = none ↔ ∃ c ∈ t, c.isSurrogate = true := by
  induction t with
  | nil => simp [utf16?]
  | cons c t ih =>
    simp only [List.mem_cons, exists_eq_or_imp, ← ih, utf16?, CodePoint.units?]
    cases c.isSurrogate with
    | true => simp
    | false => cases utf16? (fun _ => none) t <;> simp

theorem utf16?_passedOn? (t : Text) :
    t.utf16? CodePoint.passedOn? = some (t.units.flatMap CodeUnit.bytes) := by
  induction t with
  | nil => rfl
  | cons c t ih =>
    rw [utf16?, CodePoint.units?_passedOn?, ih, units_cons, List.flatMap_append]
    rfl

/-! ### Reading -/

/-- The units that bytes spell, two bytes for each. -/
def unitsOfBytes? : List UInt8 → Option (List CodeUnit)
  | [] => some []
  | [_] => none
  | low :: high :: rest => (unitsOfBytes? rest).map fun us => CodeUnit.ofBytes low high :: us

/-- The text of a sequence of units.  A surrogate that is not half of a pair is read as the code
point that the handler gives. -/
def ofUnits? (lone? : CodeUnit → Option CodePoint) : List CodeUnit → Option Text
  | [] => some []
  | [u] => (u.alone? lone?).map fun c => [c]
  | u :: v :: rest =>
    if u.isHigh && v.isLow then (ofUnits? lone? rest).map fun behind => u.pair v :: behind
    else do
      let c ← u.alone? lone?
      let behind ← ofUnits? lone? (v :: rest)
      return c :: behind

/-- The text that UTF-16 bytes spell. -/
def ofUtf16? (lone? : CodeUnit → Option CodePoint) (bytes : List UInt8) : Option Text :=
  (unitsOfBytes? bytes).bind (ofUnits? lone?)

theorem unitsOfBytes?_flatMap_bytes (us : List CodeUnit) :
    unitsOfBytes? (us.flatMap CodeUnit.bytes) = some us := by
  induction us with
  | nil => rfl
  | cons u us ih =>
    rw [List.flatMap_cons, CodeUnit.bytes, List.cons_append, List.singleton_append, unitsOfBytes?,
      ih, CodeUnit.ofBytes_bytes]
    rfl

theorem ofUnits?_passedOn? (us : List CodeUnit) :
    ofUnits? CodeUnit.passedOn? us = some (ofUnits us) := by
  fun_induction ofUnits us with
  | case1 => rfl
  | case2 u => rw [ofUnits?, CodeUnit.alone?_passedOn?]; rfl
  | case3 u v rest hpair ih => rw [ofUnits?, if_pos hpair, ih]; rfl
  | case4 u v rest hpair ih => rw [ofUnits?, if_neg hpair, CodeUnit.alone?_passedOn?, ih]; rfl

/-! ### There and back -/

/-- The text written as UTF-16 and read again, with surrogates passed on both ways. -/
def throughUtf16? (t : Text) : Option Text :=
  (t.utf16? CodePoint.passedOn?).bind (ofUtf16? CodeUnit.passedOn?)

/-- Every text gets through, and its pairs come out joined. -/
theorem throughUtf16?_eq (t : Text) : t.throughUtf16? = some t.joinSurrogates := by
  rw [throughUtf16?, utf16?_passedOn?, Option.bind_some, ofUtf16?, unitsOfBytes?_flatMap_bytes,
    Option.bind_some, ofUnits?_passedOn?, joinSurrogates]

/-- Of two high surrogates the second one makes the pair. -/
example : throughUtf16? [⟨0xD83D, by decide⟩, ⟨0xD83D, by decide⟩, ⟨0xDE00, by decide⟩]
    = some [⟨0xD83D, by decide⟩, ⟨0x1F600, by decide⟩] := by
  decide

/-- **Joining pairs is a projection.**  Going through UTF-16 never fails and gives the text with its
pairs joined.  This text has the same units and no pair of surrogates, and going through UTF-16
again leaves it as it is.  A text comes back unchanged iff it has no pair, and two texts come back
alike iff they have the same units. -/
theorem joinSurrogates_projection (s t : Text) :
    s.throughUtf16? = some s.joinSurrogates ∧
    s.joinSurrogates.units = s.units ∧
    ¬s.joinSurrogates.HasSurrogatePair ∧
    s.joinSurrogates.throughUtf16? = some s.joinSurrogates ∧
    (s.throughUtf16? = some s ↔ ¬s.HasSurrogatePair) ∧
    (s.throughUtf16? = t.throughUtf16? ↔ s.units = t.units) := by
  have hpair : ¬s.joinSurrogates.HasSurrogatePair := not_hasSurrogatePair_ofUnits s.units
  refine ⟨throughUtf16?_eq s, units_ofUnits s.units, hpair, ?_, ?_, ?_⟩
  · rw [throughUtf16?_eq, (joinSurrogates_eq_self_iff _).mpr hpair]
  · rw [throughUtf16?_eq, Option.some.injEq, joinSurrogates_eq_self_iff]
  · rw [throughUtf16?_eq, throughUtf16?_eq, Option.some.injEq,
      joinSurrogates_eq_joinSurrogates_iff]

end Text

end EcmaTree
