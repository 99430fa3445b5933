import EcmaTree.Literal.Scan
import Mathlib.Data.List.TakeWhile
import Mathlib.Tactic.Common

/-!
# The grammar of literals

A literal form is well-formed if each of its parts holds only what may stand there, and a text is
a literal if it spells a well-formed form.  `LiteralForm.parse` finds exactly these
(`LiteralForm.parse_eq_ok_iff`), so a text spells at most one well-formed form.

The scanners make ordered choices and take as many digits as there are.  Soundness
(`LiteralForm.scan?_sound`) needs neither.  Completeness (`LiteralForm.scan?_spelling`) needs both:
every alternative in front of the right one fails on the first code points of the spelling, and
every run of digits stops where the form says, because what comes behind it is no digit.
-/

namespace EcmaTree

/-! ### Well-formed forms -/

/-- What may stand between two quotes: any code point but the quote, the backslash and the line
ends `LF` and `CR`, and any code point at all behind a backslash. -/
def StringItem.WellFormed (quote : Quote) : StringItem → Prop
  | plain c => c ≠ quote.mark ∧ c ≠ '\\' ∧ c ≠ CodePoint.lineFeed ∧ c ≠ CodePoint.carriageReturn
  | escaped _ => True
  | escapedLineEnd => True

/-- An exponent part has digits behind its letter and its sign. -/
structure ExponentPart.WellFormed (e : ExponentPart) : Prop where
  /-- The letter comes in both cases. -/
  marker : e.marker = 'e' ∨ e.marker = 'E'
  /-- Both signs may be written. -/
  sign : ∀ c ∈ e.sign, c = '+' ∨ c = '-'
  /-- There is a digit. -/
  digits_ne_nil : e.digits ≠ []
  /-- Digits of any script. -/
  digits : ∀ c ∈ e.digits, c.isDecimalDigit = true

/-- A decimal numeral has a digit before or behind its point. -/
structure DecimalNumeral.WellFormed (d : DecimalNumeral) : Prop where
  /-- Digits of any script. -/
  whole : ∀ c ∈ d.whole, c.isDecimalDigit = true
  /-- Digits of any script. -/
  fraction : ∀ c ∈ d.fraction, c.isDecimalDigit = true
  /-- Without a point there is nothing behind it. -/
  fraction_eq_nil : d.hasPoint = false → d.fraction = []
  /-- There is a digit. -/
  digit : d.whole ≠ [] ∨ d.fraction ≠ []
  /-- The exponent part is optional. -/
  exponent : ∀ e ∈ d.exponent, e.WellFormed

/-- A numeral with a base has its marker and at least one digit of it. -/
def Numeral.WellFormed : Numeral → Prop
  | nan => True
  | infinity => True
  | inRadix radix marker digits =>
    radix.isMarker marker = true ∧ digits ≠ [] ∧
      ∀ c ∈ digits, (c.digitIn? radix.base).isSome = true
  | decimal d => d.WellFormed

/-- A form is well-formed if its parts are. -/
def LiteralForm.WellFormed : LiteralForm → Prop
  | null => True
  | boolean _ => True
  | string quote items => ∀ item ∈ items, item.WellFormed quote
  | number _ numeral => numeral.WellFormed

/-- The text is a literal. -/
def Text.IsLiteral (t : Text) : Prop := ∃ form : LiteralForm, form.WellFormed ∧ form.spelling = t

/-! ### Fixed texts and runs -/

theorem Text.after?_eq_some_iff {lead t rest : Text} :
    lead.after? t = some rest ↔ t = lead ++ rest := by
  fun_induction Text.after? lead t with
  | case1 t => simp
  | case2 => simp
  | case3 c lead t ih => simp [ih]
  | case4 c lead d t hne => simp [Ne.symm hne]

theorem scanWord?_eq_some_iff {α : Type} {word : String} {value : α} {t : Text} {found : α × Text} :
    scanWord? word value t = some found ↔
      found.1 = value ∧ t = Text.ofString word ++ found.2 := by
  rw [scanWord?, Option.map_eq_some_iff]
  constructor
  · rintro ⟨rest, hrest, rfl⟩
    exact ⟨rfl, Text.after?_eq_some_iff.mp hrest⟩
  · rintro ⟨hvalue, ht⟩
    exact ⟨found.2, Text.after?_eq_some_iff.mpr ht, by rw [← hvalue]⟩

/-- A word is not found where another code point stands first. -/
theorem scanWord?_eq_none {α : Type} {word : String} {value : α} {t : Text} {c : CodePoint}
    {lead : Text} (hword : Text.ofString word = c :: lead) (ht : t.head? ≠ some c) :
    scanWord? word value t = none := by
  cases t with
  | nil => rw [scanWord?, hword]; rfl
  | cons d t =>
    have hne : c ≠ d := fun h => ht (by rw [h]; rfl)
    rw [scanWord?, hword, Text.after?, if_neg hne]
    rfl

section Runs

variable {p : CodePoint → Bool} {run rest : Text}

/-- A run ends where something stands that is not of it. -/
theorem takeWhile_run_append (hrun : ∀ c ∈ run, p c = true)
    (hrest : ∀ c ∈ rest.head?, p c = false) : (run ++ rest).takeWhile p = run := by
  rw [List.takeWhile_append_of_pos hrun]
  cases rest with
  | nil => simp
  | cons c rest => simp [hrest c rfl]

/-- Behind a run is what ends it. -/
theorem dropWhile_run_append (hrun : ∀ c ∈ run, p c = true)
    (hrest : ∀ c ∈ rest.head?, p c = false) : (run ++ rest).dropWhile p = rest := by
  rw [List.dropWhile_append_of_pos hrun]
  cases rest with
  | nil => rfl
  | cons c rest => simp [hrest c rfl]

end Runs

/-- What is no decimal digit differs from what is one. -/
theorem CodePoint.ne_of_isDecimalDigit {c d : CodePoint} (hc : c.isDecimalDigit = true)
    (hd : d.isDecimalDigit = false) : c ≠ d := by
  rintro rfl
  rw [hc] at hd
  exact Bool.noConfusion hd

/-! ### Soundness: what is found is there -/

/-- A numeral with a base is well-formed and stands where it was found. -/
theorem Radix.scan?_sound {radix : Radix} {t : Text} {found : Numeral × Text}
    (h : radix.scan? t = some found) :
    found.1.WellFormed ∧ t = found.1.spelling ++ found.2 := by
  -- The first two code points tell whether there is a base.
  rcases t with _ | ⟨zero, _ | ⟨marker, rest⟩⟩
  · simp [scan?] at h
  · simp [scan?] at h
  · simp only [scan?] at h
    split at h
    · next hcond =>
      obtain rfl := Option.some.inj h
      simp only [Bool.and_eq_true, decide_eq_true_eq, Bool.not_eq_true',
        List.isEmpty_eq_false_iff] at hcond
      obtain ⟨⟨rfl, hmarker⟩, hdigits⟩ := hcond
      refine ⟨⟨hmarker, hdigits, fun c hc => ?_⟩, ?_⟩
      · exact List.mem_takeWhile_imp (p := fun c : CodePoint => (c.digitIn? radix.base).isSome) hc
      · simp only [Numeral.spelling, List.cons_append, List.takeWhile_append_dropWhile]
    · exact absurd h (by simp)

/-- A sign that is found is one, and stands in front of the rest. -/
theorem scanSign_sound (t : Text) :
    (∀ c ∈ (scanSign t).1, c = '+' ∨ c = '-') ∧
      t = (scanSign t).1.toList ++ (scanSign t).2 := by
  cases t with
  | nil => simp [scanSign]
  | cons c rest =>
    rw [scanSign]
    split
    · next h => exact ⟨by simpa using h, rfl⟩
    · exact ⟨by simp, rfl⟩

/-- An exponent part that is found is well-formed and stands in front of the rest. -/
theorem ExponentPart.scan_sound (t : Text) :
    (∀ e ∈ (scan t).1, e.WellFormed) ∧
      t = ((scan t).1.map spelling).getD [] ++ (scan t).2 := by
  cases t with
  | nil => simp [scan]
  | cons c rest =>
    obtain ⟨hsign, hrest⟩ := scanSign_sound rest
    simp only [scan]
    split
    · next hcond =>
      simp only [Bool.and_eq_true, Bool.or_eq_true, decide_eq_true_eq, Bool.not_eq_true',
        List.isEmpty_eq_false_iff] at hcond
      constructor
      · rintro e ⟨⟩
        exact ⟨hcond.1, hsign, hcond.2, fun d hd => List.mem_takeWhile_imp hd⟩
      · simp only [Option.map_some, Option.getD_some, spelling, List.cons_append,
          List.append_assoc, List.takeWhile_append_dropWhile, ← hrest]
    · exact ⟨by simp, rfl⟩

/-- A fraction that is found has digits only, and stands behind a point. -/
theorem scanFraction_sound (t : Text) :
    (∀ c ∈ (scanFraction t).1.getD [], c.isDecimalDigit = true) ∧
      t = (if (scanFraction t).1.isSome then Text.ofString "." ++ (scanFraction t).1.getD []
        else [])
        ++ (scanFraction t).2 := by
  cases t with
  | nil => simp [scanFraction]
  | cons c rest =>
    rw [scanFraction]
    split
    · next h =>
      refine ⟨fun d hd => List.mem_takeWhile_imp hd, ?_⟩
      simp only [Option.isSome_some, if_true, Option.getD_some, List.append_assoc,
        List.takeWhile_append_dropWhile, h]
      rfl
    · exact ⟨by simp, rfl⟩

/-- A decimal numeral is spelled in three parts. -/
theorem DecimalNumeral.spelling_eq (d : DecimalNumeral) :
    d.spelling = d.whole ++ (if d.hasPoint then Text.ofString "." ++ d.fraction else [])
      ++ (d.exponent.map ExponentPart.spelling).getD [] := by
  rw [spelling]
  cases d.exponent <;> rfl

theorem DecimalNumeral.scan?_sound {t : Text} {found : DecimalNumeral × Text}
    (h : scan? t = some found) : found.1.WellFormed ∧ t = found.1.spelling ++ found.2 := by
  simp only [scan?] at h
  split at h
  · exact absurd h (by simp)
  · next hempty =>
    obtain rfl := Option.some.inj h
    -- Each part is looked for behind the one before it.
    obtain ⟨hfraction, hpoint⟩ := scanFraction_sound (t.dropWhile CodePoint.isDecimalDigit)
    obtain ⟨hexponent, hend⟩ :=
      ExponentPart.scan_sound (scanFraction (t.dropWhile CodePoint.isDecimalDigit)).2
    constructor
    · refine ⟨fun c hc => List.mem_takeWhile_imp hc, hfraction, ?_, ?_, hexponent⟩
      · intro hno
        rw [Option.isSome_eq_false_iff, Option.isNone_iff_eq_none] at hno
        simp only [hno, Option.getD_none]
      -- without a digit nothing would have been found
      · simpa [Classical.or_iff_not_imp_left] using hempty
    · rw [spelling_eq, List.append_assoc, List.append_assoc, ← hend, ← hpoint,
        List.takeWhile_append_dropWhile]

/-- What holds of everything that either alternative finds holds of what is found. -/
theorem forall_orElse {α : Type} {P : α → Prop} {first second : Option α}
    (hfirst : ∀ x, first = some x → P x) (hsecond : ∀ x, second = some x → P x) :
    ∀ x, (first <|> second) = some x → P x := by
  intro x hx
  cases first with
  | none => exact hsecond x hx
  | some y => exact hfirst x hx

/-- A numeral is well-formed and stands where it was found. -/
theorem Numeral.scan?_sound {t : Text} {found : Numeral × Text} (h : scan? t = some found) :
    found.1.WellFormed ∧ t = found.1.spelling ++ found.2 := by
  -- two words, three bases and base ten, in the order in which they are tried
  refine forall_orElse (P := fun found => found.1.WellFormed ∧ t = found.1.spelling ++ found.2)
    ?_ (forall_orElse ?_ (forall_orElse ?_ (forall_orElse ?_ (forall_orElse ?_ ?_)))) found h
  · intro found h
    obtain ⟨hvalue, ht⟩ := scanWord?_eq_some_iff.mp h
    rw [hvalue]
    exact ⟨trivial, ht⟩
  · intro found h
    obtain ⟨hvalue, ht⟩ := scanWord?_eq_some_iff.mp h
    rw [hvalue]
    exact ⟨trivial, ht⟩
  · exact fun found h => Radix.scan?_sound h
  · exact fun found h => Radix.scan?_sound h
  · exact fun found h => Radix.scan?_sound h
  · intro found h
    obtain ⟨inner, hinner, rfl⟩ := Option.map_eq_some_iff.mp h
    exact DecimalNumeral.scan?_sound hinner

theorem LiteralForm.scanNumber?_sound {t : Text} {found : LiteralForm × Text}
    (h : scanNumber? t = some found) :
    found.1.WellFormed ∧ t = found.1.spelling ++ found.2 := by
  cases t with
  | nil => simp [scanNumber?] at h
  | cons c rest =>
    rw [scanNumber?] at h
    split at h
    · next hminus =>
      obtain ⟨inner, hinner, rfl⟩ := Option.map_eq_some_iff.mp h
      obtain ⟨hform, ht⟩ := Numeral.scan?_sound hinner
      refine ⟨hform, ?_⟩
      rw [hminus, ht]
      rfl
    · obtain ⟨inner, hinner, rfl⟩ := Option.map_eq_some_iff.mp h
      exact Numeral.scan?_sound hinner

/-- An item is put in front of whatever is found behind it. -/
theorem StringItem.onto_eq_some {item : StringItem} {behind : Option (List StringItem × Text)}
    {found : List StringItem × Text} (h : item.onto behind = some found) :
    ∃ items, behind = some (items, found.2) ∧ found.1 = item :: items := by
  rcases behind with _ | ⟨items, rest⟩
  · exact absurd h (by simp [onto])
  · obtain rfl := Option.some.inj h
    exact ⟨items, rfl, rfl⟩

/-- The items of a string are well-formed and stand in front of the closing quotation mark. -/
theorem StringItem.scan?_sound {quote : Quote} {t : Text} {found : List StringItem × Text}
    (h : scan? quote t = some found) :
    (∀ item ∈ found.1, item.WellFormed quote) ∧
      t = found.1.flatMap spelling ++ quote.mark :: found.2 := by
  -- cases 5 and 6 take a backslash with or without a `CR LF`, case 8 takes a plain code point
  fun_induction scan? quote t generalizing found with
  | case1 => exact absurd h (by simp)
  | case2 rest =>
    obtain rfl := Option.some.inj h
    exact ⟨by simp, rfl⟩
  | case3 => exact absurd h (by simp)
  | case4 => exact absurd h (by simp)
  | case5 d e behind hcrlf _ ih =>
    rw [Bool.and_eq_true, decide_eq_true_eq, decide_eq_true_eq] at hcrlf
    obtain ⟨items, hitems, hfound⟩ := onto_eq_some h
    obtain ⟨hwf, ht⟩ := ih hitems
    rw [hfound]
    refine ⟨List.forall_mem_cons.mpr ⟨trivial, hwf⟩, ?_⟩
    rw [ht, hcrlf.1, hcrlf.2]
    rfl
  | case6 d e behind hcrlf _ ih =>
    obtain ⟨items, hitems, hfound⟩ := onto_eq_some h
    obtain ⟨hwf, ht⟩ := ih hitems
    rw [hfound]
    refine ⟨List.forall_mem_cons.mpr ⟨trivial, hwf⟩, ?_⟩
    rw [ht]
    rfl
  | case7 => exact absurd h (by simp)
  | case8 c rest hmark hc hend ih =>
    rw [Bool.or_eq_true, decide_eq_true_eq, decide_eq_true_eq, not_or] at hend
    obtain ⟨items, hitems, hfound⟩ := onto_eq_some h
    obtain ⟨hwf, ht⟩ := ih hitems
    rw [hfound]
    refine ⟨List.forall_mem_cons.mpr ⟨⟨hmark, hc, hend.1, hend.2⟩, hwf⟩, ?_⟩
    rw [ht]
    rfl

theorem Quote.scan?_sound {quote : Quote} {t : Text} {found : LiteralForm × Text}
    (h : quote.scan? t = some found) :
    found.1.WellFormed ∧ t = found.1.spelling ++ found.2 := by
  cases t with
  | nil => simp [scan?] at h
  | cons c rest =>
    rw [scan?] at h
    split at h
    · next hmark =>
      obtain ⟨inner, hinner, rfl⟩ := Option.map_eq_some_iff.mp h
      obtain ⟨hitems, ht⟩ := StringItem.scan?_sound hinner
      refine ⟨hitems, ?_⟩
      rw [hmark, ht, LiteralForm.spelling, List.cons_append, List.append_assoc]
      rfl
    · exact absurd h (by simp)

/-- A literal is well-formed and stands where it was found. -/
theorem LiteralForm.scan?_sound {t : Text} {found : LiteralForm × Text}
    (h : scan? t = some found) : found.1.WellFormed ∧ t = found.1.spelling ++ found.2 := by
  -- two quotes, three words and the numbers
  refine forall_orElse (P := fun found => found.1.WellFormed ∧ t = found.1.spelling ++ found.2)
    ?_ (forall_orElse ?_ (forall_orElse ?_ (forall_orElse ?_ (forall_orElse ?_ ?_)))) found h
  · exact fun found h => Quote.scan?_sound h
  · exact fun found h => Quote.scan?_sound h
  · intro found h
    obtain ⟨hvalue, ht⟩ := scanWord?_eq_some_iff.mp h
    rw [hvalue]
    exact ⟨trivial, ht⟩
  · intro found h
    obtain ⟨hvalue, ht⟩ := scanWord?_eq_some_iff.mp h
    rw [hvalue]
    exact ⟨trivial, ht⟩
  · intro found h
    obtain ⟨hvalue, ht⟩ := scanWord?_eq_some_iff.mp h
    rw [hvalue]
    exact ⟨trivial, ht⟩
  · exact fun found h => scanNumber?_sound h

/-! ### Completeness: what is there is found -/

/-- A numeral with a base is found by that base. -/
theorem Radix.scan?_spelling {radix : Radix} {marker : CodePoint} {digits : Text}
    (h : (Numeral.inRadix radix marker digits).WellFormed) :
    radix.scan? (Numeral.inRadix radix marker digits).spelling
      = some (.inRadix radix marker digits, []) := by
  obtain ⟨hmarker, hne, hdigits⟩ := h
  simp only [Numeral.spelling, scan?]
  rw [List.takeWhile_eq_self_iff.mpr hdigits, List.dropWhile_eq_nil_iff.mpr hdigits, if_pos]
  simp [hmarker, hne]

/-- Without its marker, a base finds nothing. -/
theorem Radix.scan?_eq_none {radix : Radix} {t : Text}
    (h : ∀ c ∈ t.tail.head?, radix.isMarker c = false) : radix.scan? t = none := by
  rcases t with _ | ⟨zero, _ | ⟨marker, rest⟩⟩
  · rfl
  · rfl
  · have hmarker := h marker rfl
    simp [scan?, hmarker]

/-- A marker announces its own base and no other. -/
theorem Radix.isMarker_eq_decide {radix : Radix} {c : CodePoint} (h : radix.isMarker c = true)
    (other : Radix) : other.isMarker c = decide (other = radix) := by
  cases radix <;> simp only [isMarker, Bool.or_eq_true, decide_eq_true_eq] at h <;>
    rcases h with rfl | rfl <;> cases other <;> rfl

/-- A sign in front of digits is found, and so is its absence. -/
theorem scanSign_append {sign : Option CodePoint} {digits : Text}
    (hsign : ∀ c ∈ sign, c = '+' ∨ c = '-')
    (hdigits : ∀ c ∈ digits.head?, c.isDecimalDigit = true) :
    scanSign (sign.toList ++ digits) = (sign, digits) := by
  cases sign with
  | some c =>
    rw [Option.toList_some, List.singleton_append, scanSign, if_pos]
    simpa using hsign c rfl
  -- A digit is no sign.
  | none =>
    rw [Option.toList_none, List.nil_append]
    cases digits with
    | nil => rfl
    | cons c digits =>
      have hc := hdigits c rfl
      rw [scanSign, if_neg]
      simp [CodePoint.ne_of_isDecimalDigit (d := '+') hc rfl,
        CodePoint.ne_of_isDecimalDigit (d := '-') hc rfl]

theorem ExponentPart.scan_spelling {e : ExponentPart} (h : e.WellFormed) :
    scan e.spelling = (some e, []) := by
  obtain ⟨hmarker, hsign, hne, hdigits⟩ := h
  simp only [spelling, scan]
  rw [scanSign_append hsign fun c hc => hdigits c (List.mem_of_mem_head? hc),
    List.takeWhile_eq_self_iff.mpr hdigits, List.dropWhile_eq_nil_iff.mpr hdigits, if_pos]
  simp [hmarker, hne]

/-- Behind the point and its digits, or where they are missing, an exponent part or nothing is
left over. -/
theorem scanFraction_append {d : DecimalNumeral} (h : d.WellFormed) {rest : Text}
    (hrest : ∀ c ∈ rest.head?, c = 'e' ∨ c = 'E') :
    scanFraction ((if d.hasPoint then Text.ofString "." ++ d.fraction else []) ++ rest)
      = (if d.hasPoint then some d.fraction else none, rest) := by
  -- The marker of the exponent part ends the digits behind the point.
  have hstop : ∀ c ∈ rest.head?, c.isDecimalDigit = false := by
    intro c hc
    rcases hrest c hc with rfl | rfl <;> rfl
  by_cases hpoint : d.hasPoint = true
  · rw [if_pos hpoint, if_pos hpoint, List.append_assoc]
    show scanFraction ('.' :: (d.fraction ++ rest)) = _
    rw [scanFraction, if_pos rfl, takeWhile_run_append h.fraction hstop,
      dropWhile_run_append h.fraction hstop]
  · rw [if_neg hpoint, if_neg hpoint, List.nil_append]
    cases rest with
    | nil => rfl
    | cons c rest =>
      have hc : c ≠ '.' := by
        rcases hrest c rfl with rfl | rfl <;> decide
      rw [scanFraction, if_neg hc]

/-- The whole digits end at the point or at the marker, since neither is a digit. -/
theorem DecimalNumeral.head?_fraction_append (d : DecimalNumeral) {rest : Text}
    (hrest : ∀ c ∈ rest.head?, c = 'e' ∨ c = 'E') :
    ∀ c ∈ ((if d.hasPoint then Text.ofString "." ++ d.fraction else []) ++ rest).head?,
      c.isDecimalDigit = false := by
  intro c hc
  by_cases hpoint : d.hasPoint = true
  · rw [if_pos hpoint] at hc
    obtain rfl := Option.some.inj hc
    rfl
  · rw [if_neg hpoint] at hc
    rcases hrest c hc with rfl | rfl <;> rfl

/-- An exponent part starts with its marker. -/
theorem DecimalNumeral.head?_exponent {d : DecimalNumeral} (h : d.WellFormed) :
    ∀ c ∈ ((d.exponent.map ExponentPart.spelling).getD []).head?, c = 'e' ∨ c = 'E' := by
  intro c hc
  cases hexp : d.exponent with
  | none => simp [hexp] at hc
  | some e =>
    rw [hexp] at hc
    obtain rfl := Option.some.inj hc
    exact (h.exponent e hexp).marker

theorem DecimalNumeral.scan?_spelling {d : DecimalNumeral} (h : d.WellFormed) :
    scan? d.spelling = some (d, []) := by
  have hexponent := head?_exponent h
  have hstop := d.head?_fraction_append hexponent
  have hfraction : (if d.hasPoint then some d.fraction else none).getD [] = d.fraction := by
    by_cases hpoint : d.hasPoint = true
    · rw [if_pos hpoint, Option.getD_some]
    · rw [if_neg hpoint, h.fraction_eq_nil (by simpa using hpoint), Option.getD_none]
  have hsome : (if d.hasPoint then some d.fraction else none).isSome = d.hasPoint := by
    cases d.hasPoint <;> rfl
  have hscan : ExponentPart.scan ((d.exponent.map ExponentPart.spelling).getD [])
      = (d.exponent, []) := by
    cases hexp : d.exponent with
    | none => rfl
    | some e => exact ExponentPart.scan_spelling (h.exponent e hexp)
  rw [spelling_eq, List.append_assoc]
  simp only [scan?]
  rw [takeWhile_run_append h.whole hstop, dropWhile_run_append h.whole hstop,
    scanFraction_append h hexponent, hfraction, hsome, hscan, if_neg]
  simpa [Classical.or_iff_not_imp_left] using h.digit

/-- The code points of a decimal numeral are digits, the point, the letter `e` and signs. -/
theorem DecimalNumeral.isMarker_eq_false {d : DecimalNumeral} (h : d.WellFormed) (radix : Radix) :
    ∀ c ∈ d.spelling, radix.isMarker c = false := by
  have hdigit : ∀ c : CodePoint, c.isDecimalDigit = true → radix.isMarker c = false := by
    intro c hc
    cases hm : radix.isMarker c with
    | false => rfl
    | true =>
      cases radix <;> simp only [Radix.isMarker, Bool.or_eq_true, decide_eq_true_eq] at hm <;>
        rcases hm with rfl | rfl <;> cases hc
  intro c hc
  -- whole digits, point and fraction, exponent part
  rw [spelling_eq, List.mem_append, List.mem_append] at hc
  rcases hc with (hc | hc) | hc
  · exact hdigit c (h.whole c hc)
  · by_cases hpoint : d.hasPoint = true
    · rw [if_pos hpoint, List.mem_append] at hc
      rcases hc with hc | hc
      · obtain rfl : c = '.' := List.mem_singleton.mp hc
        cases radix <;> rfl
      · exact hdigit c (h.fraction c hc)
    · rw [if_neg hpoint] at hc
      exact absurd hc List.not_mem_nil
  · cases hexp : d.exponent with
    | none => simp [hexp] at hc
    | some e =>
      obtain ⟨hmarker, hsign, -, hdigits⟩ := h.exponent e hexp
      rw [hexp, Option.map_some, Option.getD_some, ExponentPart.spelling, List.mem_cons,
        List.mem_append, Option.mem_toList] at hc
      rcases hc with rfl | hc | hc
      · rcases hmarker with h | h <;> rw [h] <;> cases radix <;> rfl
      · rcases hsign c hc with rfl | rfl <;> cases radix <;> rfl
      · exact hdigit c (hdigits c hc)

/-- A numeral without whole digits has a fraction, and that stands behind a point. -/
theorem DecimalNumeral.WellFormed.fraction_of_whole_eq_nil {d : DecimalNumeral} (h : d.WellFormed)
    (hwhole : d.whole = []) : d.fraction ≠ [] ∧ d.hasPoint = true := by
  have hne : d.fraction ≠ [] := h.digit.resolve_left (not_not.mpr hwhole)
  refine ⟨hne, ?_⟩
  by_contra hno
  exact hne (h.fraction_eq_nil (by simpa using hno))

/-- A decimal numeral starts with a digit or with the point. -/
theorem DecimalNumeral.exists_spelling_cons {d : DecimalNumeral} (h : d.WellFormed) :
    ∃ c rest, d.spelling = c :: rest ∧ (c.isDecimalDigit = true ∨ c = '.') := by
  rw [spelling_eq]
  rcases hwhole : d.whole with _ | ⟨c, whole⟩
  · rw [if_pos (h.fraction_of_whole_eq_nil hwhole).2]
    exact ⟨_, _, rfl, Or.inr rfl⟩
  · exact ⟨_, _, rfl, Or.inl (h.whole c (by simp [hwhole]))⟩

/-- A numeral starts with a digit, with a point or with the first letter of its word. -/
theorem Numeral.exists_spelling_cons {n : Numeral} (h : n.WellFormed) :
    ∃ c rest, n.spelling = c :: rest ∧
      (c.isDecimalDigit = true ∨ c = '.' ∨ c = 'N' ∨ c = 'I') := by
  cases n with
  | nan => exact ⟨_, _, rfl, Or.inr (Or.inr (Or.inl rfl))⟩
  | infinity => exact ⟨_, _, rfl, Or.inr (Or.inr (Or.inr rfl))⟩
  | inRadix radix marker digits => exact ⟨_, _, rfl, Or.inl rfl⟩
  | decimal d =>
    obtain ⟨c, rest, hspelling, hc⟩ := DecimalNumeral.exists_spelling_cons h
    exact ⟨c, rest, hspelling, hc.imp_right Or.inl⟩

/-- Where no word starts, the bases with a marker are tried before base ten. -/
theorem Numeral.scan?_of_head?_ne {t : Text} (hN : t.head? ≠ some (CodePoint.ofChar 'N'))
    (hI : t.head? ≠ some (CodePoint.ofChar 'I')) :
    scan? t = (Radix.hexadecimal.scan? t <|> Radix.octal.scan? t <|> Radix.binary.scan? t
      <|> (DecimalNumeral.scan? t).map fun found => (.decimal found.1, found.2)) := by
  have hnan : scanWord? "NaN" Numeral.nan t = none := scanWord?_eq_none rfl hN
  have hinfinity : scanWord? "Infinity" Numeral.infinity t = none := scanWord?_eq_none rfl hI
  rw [scan?, hnan, hinfinity]
  rfl

/-- A marker belongs to one base only, and that is the only one that is tried before base ten. -/
theorem Numeral.scan?_inRadix_append {radix : Radix} {marker : CodePoint} {digits : Text}
    (h : (inRadix radix marker digits).WellFormed) (rest : Text) :
    scan? ((inRadix radix marker digits).spelling ++ rest)
      = (radix.scan? ((inRadix radix marker digits).spelling ++ rest)
        <|> (DecimalNumeral.scan? ((inRadix radix marker digits).spelling ++ rest)).map
          fun found => (.decimal found.1, found.2)) := by
  have hnone : ∀ other ≠ radix,
      other.scan? ((inRadix radix marker digits).spelling ++ rest) = none := by
    intro other hne
    refine Radix.scan?_eq_none fun c hc => ?_
    obtain rfl := Option.some.inj hc
    rw [Radix.isMarker_eq_decide h.1, decide_eq_false hne]
  have hhead : ((inRadix radix marker digits).spelling ++ rest).head?
      = some (CodePoint.ofChar '0') := rfl
  rw [scan?_of_head?_ne (by rw [hhead]; decide) (by rw [hhead]; decide)]
  cases radix with
  | hexadecimal =>
    rw [hnone .octal (by decide), hnone .binary (by decide)]
    rfl
  | octal =>
    rw [hnone .hexadecimal (by decide), hnone .binary (by decide)]
    rfl
  | binary =>
    rw [hnone .hexadecimal (by decide), hnone .octal (by decide)]
    rfl

/-- A decimal numeral starts like no word, so the bases are tried, and base ten is the last. -/
theorem Numeral.scan?_decimal_append {d : DecimalNumeral} (h : d.WellFormed) (rest : Text) :
    scan? (d.spelling ++ rest) = (Radix.hexadecimal.scan? (d.spelling ++ rest)
      <|> Radix.octal.scan? (d.spelling ++ rest) <|> Radix.binary.scan? (d.spelling ++ rest)
      <|> (DecimalNumeral.scan? (d.spelling ++ rest)).map
        fun found => (.decimal found.1, found.2)) := by
  obtain ⟨c, more, hspelling, hc⟩ := DecimalNumeral.exists_spelling_cons h
  have hhead : ∀ letter : CodePoint, letter.isDecimalDigit = false → letter ≠ '.' →
      (d.spelling ++ rest).head? ≠ some letter := by
    rw [hspelling]
    rintro letter hdigit hpoint ⟨⟩
    rcases hc with hc | hc
    · rw [hc] at hdigit
      exact Bool.noConfusion hdigit
    · exact hpoint hc
  exact scan?_of_head?_ne (hhead 'N' rfl (by decide)) (hhead 'I' rfl (by decide))

/-- A numeral by itself is found. -/
theorem Numeral.scan?_spelling {n : Numeral} (h : n.WellFormed) :
    scan? n.spelling = some (n, []) := by
  cases n with
  | nan => rfl
  | infinity => rfl
  | inRadix radix marker digits =>
    have hscan := scan?_inRadix_append h []
    rw [List.append_nil, Radix.scan?_spelling h] at hscan
    exact hscan
  | decimal d =>
    -- a zero in front does not start a base, because no marker follows it
    have hnone : ∀ radix : Radix, radix.scan? d.spelling = none := fun radix =>
      Radix.scan?_eq_none fun c hc =>
        DecimalNumeral.isMarker_eq_false h radix c
          (List.mem_of_mem_tail (List.mem_of_mem_head? hc))
    have hscan := scan?_decimal_append h []
    rw [List.append_nil, hnone, hnone, hnone, DecimalNumeral.scan?_spelling h] at hscan
    exact hscan

/-- No numeral starts with a minus sign. -/
theorem Numeral.exists_spelling_cons_ne_minus {n : Numeral} (h : n.WellFormed) :
    ∃ c rest, n.spelling = c :: rest ∧ c ≠ '-' := by
  obtain ⟨c, rest, hspelling, hc⟩ := exists_spelling_cons h
  refine ⟨c, rest, hspelling, ?_⟩
  rcases hc with hc | rfl | rfl | rfl
  · exact CodePoint.ne_of_isDecimalDigit hc rfl
  · decide
  · decide
  · decide

theorem LiteralForm.scanNumber?_spelling {negative : Bool} {n : Numeral} (h : n.WellFormed) :
    scanNumber? (number negative n).spelling = some (number negative n, []) := by
  have hscan := Numeral.scan?_spelling h
  cases negative with
  | true =>
    show scanNumber? ('-' :: n.spelling) = _
    rw [scanNumber?, if_pos rfl, hscan]
    rfl
  | false =>
    obtain ⟨c, rest, hspelling, hminus⟩ := Numeral.exists_spelling_cons_ne_minus h
    show scanNumber? n.spelling = _
    rw [hspelling, scanNumber?, if_neg hminus, ← hspelling, hscan]
    rfl

/-! ### Strings -/

/-- Neither the closing quote nor what an item starts with is a line feed. -/
theorem StringItem.exists_spelling_cons {quote : Quote} {items : List StringItem}
    (h : ∀ item ∈ items, item.WellFormed quote) (rest : Text) :
    ∃ c behind, items.flatMap spelling ++ quote.mark :: rest = c :: behind ∧
      c ≠ CodePoint.lineFeed := by
  rcases items with _ | ⟨item, items⟩
  · exact ⟨_, _, rfl, by cases quote <;> decide⟩
  · cases item with
    | plain c => exact ⟨_, _, rfl, (h _ List.mem_cons_self).2.2.1⟩
    | escaped c => exact ⟨_, _, rfl, by decide⟩
    | escapedLineEnd => exact ⟨_, _, rfl, by decide⟩

/-- The items of a string are found up to the quotation mark behind them. -/
theorem StringItem.scan?_append {quote : Quote} {items : List StringItem}
    (h : ∀ item ∈ items, item.WellFormed quote) (rest : Text) :
    scan? quote (items.flatMap spelling ++ quote.mark :: rest) = some (items, rest) := by
  have hbackslash : CodePoint.ofChar '\\' ≠ quote.mark := by cases quote <;> decide
  -- One item is scanned after the other, up to the quotation mark behind them.
  induction items with
  | nil =>
    show scan? quote (quote.mark :: rest) = _
    rw [scan?.eq_def]
    exact if_pos rfl
  | cons item items ih =>
    obtain ⟨hitem, hitems⟩ := List.forall_mem_cons.mp h
    have ih := ih hitems
    cases item with
    | plain c =>
      obtain ⟨hmark, hesc, hlf, hcr⟩ := hitem
      show scan? quote (c :: (items.flatMap spelling ++ quote.mark :: rest)) = _
      rw [scan?.eq_def]
      simp only [if_neg hmark, if_neg hesc, hlf, hcr, decide_false, Bool.or_false,
        Bool.false_eq_true, if_false, ih]
      rfl
    | escaped d =>
      -- an escaped `CR` cannot have a line feed behind it, which would go with it
      obtain ⟨e, behind, hbehind, he⟩ := exists_spelling_cons hitems rest
      show scan? quote ('\\' :: d :: (items.flatMap spelling ++ quote.mark :: rest)) = _
      rw [hbehind] at ih ⊢
      rw [scan?, if_neg hbackslash, if_pos rfl]
      simp only [he, decide_false, Bool.and_false, Bool.false_eq_true, if_false, ih]
      rfl
    | escapedLineEnd =>
      show scan? quote ('\\' :: CodePoint.carriageReturn :: CodePoint.lineFeed ::
        (items.flatMap spelling ++ quote.mark :: rest)) = _
      rw [scan?, if_neg hbackslash, if_pos rfl]
      simp only [decide_true, Bool.and_true, if_true, ih]
      rfl

theorem Quote.scan?_spelling {quote : Quote} {items : List StringItem}
    (h : (LiteralForm.string quote items).WellFormed) :
    quote.scan? (LiteralForm.string quote items).spelling = some (.string quote items, []) := by
  rw [LiteralForm.spelling, scan?, if_pos rfl, StringItem.scan?_append h]
  rfl

/-- Where no quotation mark stands, no string is found. -/
theorem Quote.scan?_eq_none {quote : Quote} {t : Text} (h : t.head? ≠ some quote.mark) :
    quote.scan? t = none := by
  cases t with
  | nil => rfl
  | cons c rest =>
    have hc : c ≠ quote.mark := fun heq => h (by rw [heq]; rfl)
    rw [scan?, if_neg hc]

/-! ### Literals -/

namespace LiteralForm

/-- Where neither a string nor a word starts, only a number can be found. -/
theorem scan?_of_head?_ne {t : Text}
    (h : ∀ c ∈ t.head?, c ≠ '"' ∧ c ≠ '\'' ∧ c ≠ 't' ∧ c ≠ 'f' ∧ c ≠ 'n') :
    scan? t = scanNumber? t := by
  have hhead : ∀ letter : CodePoint, (∀ c ∈ t.head?, c ≠ letter) → t.head? ≠ some letter :=
    fun letter hne heq => hne letter heq rfl
  have hdouble : Quote.double.scan? t = none :=
    Quote.scan?_eq_none (hhead _ fun c hc => (h c hc).1)
  have hsingle : Quote.single.scan? t = none :=
    Quote.scan?_eq_none (hhead _ fun c hc => (h c hc).2.1)
  have htrue : scanWord? "true" (boolean true) t = none :=
    scanWord?_eq_none rfl (hhead _ fun c hc => (h c hc).2.2.1)
  have hfalse : scanWord? "false" (boolean false) t = none :=
    scanWord?_eq_none rfl (hhead _ fun c hc => (h c hc).2.2.2.1)
  have hnull : scanWord? "null" null t = none :=
    scanWord?_eq_none rfl (hhead _ fun c hc => (h c hc).2.2.2.2)
  rw [scan?, hdouble, hsingle, htrue, hfalse, hnull]
  rfl

/-- Neither a string nor a word starts as a number does. -/
theorem head?_number_append {negative : Bool} {n : Numeral} (h : n.WellFormed) (rest : Text) :
    ∀ c ∈ ((number negative n).spelling ++ rest).head?,
      c ≠ '"' ∧ c ≠ '\'' ∧ c ≠ 't' ∧ c ≠ 'f' ∧ c ≠ 'n' := by
  intro c hc
  -- A negative number starts with its sign, any other one as its numeral does.
  cases negative with
  | true =>
    obtain rfl := Option.some.inj hc
    decide
  | false =>
    obtain ⟨d, more, hspelling, hd⟩ := Numeral.exists_spelling_cons h
    obtain rfl : d = c := by
      have : (n.spelling ++ rest).head? = some c := hc
      rw [hspelling] at this
      exact Option.some.inj this
    rcases hd with hd | rfl | rfl | rfl
    · refine ⟨?_, ?_, ?_, ?_, ?_⟩ <;> exact CodePoint.ne_of_isDecimalDigit hd rfl
    · decide
    · decide
    · decide

/-- **Scanning finds every literal** that makes up the text. -/
theorem scan?_spelling {form : LiteralForm} (h : form.WellFormed) :
    scan? form.spelling = some (form, []) := by
  cases form with
  | null => rfl
  | boolean b => cases b <;> rfl
  -- Double quotes are tried before single ones.
  | string quote items =>
    have hscan := Quote.scan?_spelling h
    cases quote with
    | double => rw [scan?, hscan]; rfl
    | single =>
      have hdouble : Quote.double.scan? (string .single items).spelling = none :=
        Quote.scan?_eq_none (by rw [spelling, List.head?_cons]; decide)
      rw [scan?, hdouble, hscan]
      rfl
  | number negative n =>
    have hhead := @head?_number_append negative n h []
    rw [List.append_nil] at hhead
    rw [scan?_of_head?_ne hhead, scanNumber?_spelling h]

/-- Parsing accepts the spellings of well-formed forms, and nothing else. -/
theorem parse_eq_ok_iff {t : Text} {form : LiteralForm} :
    parse t = .ok form ↔ form.WellFormed ∧ form.spelling = t := by
  constructor
  · intro h
    rw [parse] at h
    -- Something is found with nothing, with something or not at all behind it.
    split at h
    · next hscan =>
      obtain rfl := Except.ok.inj h
      obtain ⟨hform, ht⟩ := scan?_sound hscan
      exact ⟨hform, by rw [ht, List.append_nil]⟩
    · exact absurd h (by simp)
    · exact absurd h (by simp)
  · rintro ⟨hform, rfl⟩
    rw [parse, scan?_spelling hform]

/-- A text is refused iff it is no literal. -/
theorem exists_parse_eq_error_iff {t : Text} :
    (∃ column, parse t = .error column) ↔ ¬t.IsLiteral := by
  constructor
  · rintro ⟨column, h⟩ ⟨form, hform⟩
    rw [parse_eq_ok_iff.mpr hform] at h
    exact absurd h (by simp)
  · intro h
    cases hparse : parse t with
    | error column => exact ⟨column, rfl⟩
    | ok form => exact absurd ⟨form, parse_eq_ok_iff.mp hparse⟩ h

end LiteralForm

end EcmaTree
