import EcmaTree.Literal.Value
import EcmaTree.Proofs.Literal.Grammar
import Mathlib.Order.Bounds.Basic

/-!
# The longest literal at the front of a text

A text that is no literal is refused at the place where the longest literal in front of it ends
(`read_invalid_column`).  A minus sign counts as such a front as well, because it is taken before
the numeral behind it is looked for.

Scanning decides at every code point on its own and never goes back, so that it reaches the end of
the longest literal has to be shown: if the text starts with a literal, then no more is left behind
what is found than behind that literal (`LiteralForm.scan?_append`).  Below, `FoundUpTo` is this
property for one scanner.  It is not enough that every scanner takes as much as it can: the
numeral `0` is a literal in front of `x1F` but the scanner for base sixteen, which is asked first,
goes on behind it (`Radix.length_le_of_scan?`).
-/

namespace EcmaTree

/-- Something is found, and no more than `rest` is left behind it. -/
def FoundUpTo {α : Type} (found? : Option (α × Text)) (rest : Text) : Prop :=
  ∃ found, found? = some found ∧ found.2.length ≤ rest.length

namespace FoundUpTo

variable {α β : Type} {found? other? : Option (α × Text)} {rest : Text}

theorem of_eq_some {value : α} (h : found? = some (value, rest)) : FoundUpTo found? rest :=
  ⟨_, h, le_rfl⟩

theorem map (h : FoundUpTo found? rest) (f : α → β) :
    FoundUpTo (found?.map fun found => (f found.1, found.2)) rest := by
  obtain ⟨found, rfl, hle⟩ := h
  exact ⟨_, rfl, hle⟩

theorem orElse_left (h : FoundUpTo found? rest) : FoundUpTo (found? <|> other?) rest := by
  obtain ⟨found, rfl, hle⟩ := h
  exact ⟨found, rfl, hle⟩

/-- An alternative that is asked first may find something else, as long as that reaches as far. -/
theorem orElse_right (hfirst : ∀ found, found? = some found → found.2.length ≤ rest.length)
    (h : FoundUpTo other? rest) : FoundUpTo (found? <|> other?) rest := by
  cases hfound : found? with
  | none => exact h
  | some found => exact ⟨found, rfl, hfirst found hfound⟩

end FoundUpTo

/-! ### Numerals with a base -/

/-- A numeral with a base is found, with all the digits that follow it. -/
theorem Radix.scan?_append {radix : Radix} {marker : CodePoint} {digits : Text}
    (h : (Numeral.inRadix radix marker digits).WellFormed) (rest : Text) :
    FoundUpTo (radix.scan? ((Numeral.inRadix radix marker digits).spelling ++ rest)) rest := by
  obtain ⟨hmarker, hne, hdigits⟩ := h
  show FoundUpTo (radix.scan? ('0' :: marker :: (digits ++ rest))) rest
  simp only [scan?]
  rw [List.takeWhile_append_of_pos hdigits, List.dropWhile_append_of_pos hdigits, if_pos]
  · exact ⟨_, rfl, List.length_dropWhile_le _ _⟩
  · simp [hmarker, hne]

/-- Whatever is found with a base starts with a zero and the marker of the base. -/
theorem Radix.exists_of_scan?_eq_some {radix : Radix} {t : Text} {found : Numeral × Text}
    (h : radix.scan? t = some found) :
    ∃ (marker : CodePoint) (behind : Text), t = CodePoint.ofChar '0' :: marker :: behind ∧
      radix.isMarker marker = true ∧
      found.2.length ≤ behind.length := by
  rcases t with _ | ⟨zero, _ | ⟨marker, behind⟩⟩
  · simp [scan?] at h
  · simp [scan?] at h
  · simp only [scan?] at h
    split at h
    · next hcond =>
      obtain rfl := Option.some.inj h
      simp only [Bool.and_eq_true, decide_eq_true_eq] at hcond
      obtain ⟨⟨rfl, hmarker⟩, -⟩ := hcond
      exact ⟨marker, behind, rfl, hmarker, List.length_dropWhile_le _ _⟩
    · exact absurd h (by simp)

/-- A base that is found where a decimal numeral stands reaches beyond that numeral, of which it
takes the zero only. -/
theorem Radix.length_le_of_scan? {radix : Radix} {d : DecimalNumeral} (hd : d.WellFormed)
    {rest : Text} {found : Numeral × Text} (h : radix.scan? (d.spelling ++ rest) = some found) :
    found.2.length ≤ rest.length := by
  obtain ⟨marker, behind, ht, hmarker, hle⟩ := exists_of_scan?_eq_some h
  have hlength := congrArg List.length ht
  rw [List.length_append, List.length_cons, List.length_cons] at hlength
  have hshort : d.spelling.length ≤ 1 := by
    -- otherwise the marker would be one of the code points of the decimal numeral
    by_contra hlong
    have hsecond : (d.spelling ++ rest)[1]? = d.spelling[1]? :=
      List.getElem?_append_left (not_le.mp hlong)
    rw [ht] at hsecond
    have hmem : marker ∈ d.spelling := List.mem_of_getElem? hsecond.symm
    rw [DecimalNumeral.isMarker_eq_false hd radix marker hmem] at hmarker
    exact Bool.noConfusion hmarker
  omega

/-! ### Decimal numerals -/

/-- A fraction takes some of the text, or nothing. -/
theorem scanFraction_length_le (t : Text) : (scanFraction t).2.length ≤ t.length := by
  have h := congrArg List.length (scanFraction_sound t).2
  rw [List.length_append] at h
  omega

/-- An exponent part takes some of the text, or nothing. -/
theorem ExponentPart.scan_length_le (t : Text) : (scan t).2.length ≤ t.length := by
  have h := congrArg List.length (scan_sound t).2
  rw [List.length_append] at h
  omega

/-- An exponent part at the front is taken, with all the digits that follow it. -/
theorem ExponentPart.scan_append {e : ExponentPart} (h : e.WellFormed) (rest : Text) :
    (scan (e.spelling ++ rest)).2.length ≤ rest.length := by
  obtain ⟨hmarker, hsign, hne, hdigits⟩ := h
  -- The sign ends at a digit, so nothing of it is missed.
  have hhead : ∀ c ∈ (e.digits ++ rest).head?, c.isDecimalDigit = true := by
    intro c hc
    obtain ⟨d, digits, hcons⟩ := List.exists_cons_of_ne_nil hne
    rw [hcons] at hc hdigits
    obtain rfl : d = c := Option.some.inj hc
    exact hdigits d List.mem_cons_self
  have hspelling : e.spelling ++ rest = e.marker :: (e.sign.toList ++ (e.digits ++ rest)) := by
    rw [spelling, List.cons_append, List.append_assoc]
  simp only [hspelling, scan, scanSign_append hsign hhead]
  rw [List.takeWhile_append_of_pos hdigits, List.dropWhile_append_of_pos hdigits, if_pos]
  · exact List.length_dropWhile_le _ _
  · simp [hmarker, hne]

namespace DecimalNumeral

variable {d : DecimalNumeral}

/-- There is a digit, so something is found. -/
theorem scan?_cond_append (h : d.WellFormed) (rest : Text) :
    ¬(((d.spelling ++ rest).takeWhile CodePoint.isDecimalDigit).isEmpty &&
      ((scanFraction ((d.spelling ++ rest).dropWhile CodePoint.isDecimalDigit)).1.getD
        []).isEmpty) = true := by
  rw [Bool.and_eq_true, List.isEmpty_iff, List.isEmpty_iff]
  rintro ⟨hwhole, hfraction⟩
  rw [spelling_eq, List.append_assoc, List.append_assoc] at hwhole hfraction
  rw [List.takeWhile_append_of_pos h.whole, List.append_eq_nil_iff] at hwhole
  obtain ⟨hne, hpoint⟩ := h.fraction_of_whole_eq_nil hwhole.1
  have hscan : ∀ behind : Text, (scanFraction ((Text.ofString "." ++ d.fraction ++
      behind).dropWhile CodePoint.isDecimalDigit)).1.getD []
        = (d.fraction ++ behind).takeWhile CodePoint.isDecimalDigit := fun _ => rfl
  rw [hwhole.1, if_pos hpoint, List.nil_append, hscan,
    List.takeWhile_append_of_pos h.fraction] at hfraction
  exact hne (List.append_eq_nil_iff.mp hfraction).1

/-- Without an exponent part, the digits at the end may go on. -/
theorem scanFraction_length_le_of_exponent_eq_none (h : d.WellFormed) (hexp : d.exponent = none)
    (rest : Text) :
    (scanFraction ((d.spelling ++ rest).dropWhile CodePoint.isDecimalDigit)).2.length
      ≤ rest.length := by
  rw [spelling_eq, hexp, Option.map_none, Option.getD_none, List.append_nil, List.append_assoc,
    List.dropWhile_append_of_pos h.whole]
  -- What stands behind may add digits to the fraction, or begin one.
  by_cases hpoint : d.hasPoint = true
  · rw [if_pos hpoint]
    show ((d.fraction ++ rest).dropWhile CodePoint.isDecimalDigit).length ≤ _
    rw [List.dropWhile_append_of_pos h.fraction]
    exact List.length_dropWhile_le _ _
  · rw [if_neg hpoint, List.nil_append]
    exact (scanFraction_length_le _).trans (List.length_dropWhile_le _ _)

/-- With an exponent part, digits and point end in front of it. -/
theorem scanFraction_of_exponent_eq_some (h : d.WellFormed) {e : ExponentPart}
    (hexp : d.exponent = some e) (rest : Text) :
    (scanFraction ((d.spelling ++ rest).dropWhile CodePoint.isDecimalDigit)).2
      = e.spelling ++ rest := by
  have hmarker := (h.exponent e hexp).marker
  have hhead : ∀ c ∈ (e.spelling ++ rest).head?, c = 'e' ∨ c = 'E' := by
    intro c hc
    obtain rfl := Option.some.inj hc
    exact hmarker
  rw [spelling_eq, hexp, Option.map_some, Option.getD_some, List.append_assoc, List.append_assoc,
    dropWhile_run_append h.whole (d.head?_fraction_append hhead), scanFraction_append h hhead]

/-- A decimal numeral at the front is found, or a longer one. -/
theorem scan?_append (h : d.WellFormed) (rest : Text) :
    FoundUpTo (scan? (d.spelling ++ rest)) rest := by
  refine ⟨_, if_neg (scan?_cond_append h rest), ?_⟩
  show (ExponentPart.scan _).2.length ≤ _
  cases hexp : d.exponent with
  | none =>
    exact (ExponentPart.scan_length_le _).trans
      (scanFraction_length_le_of_exponent_eq_none h hexp rest)
  | some e =>
    rw [scanFraction_of_exponent_eq_some h hexp]
    exact ExponentPart.scan_append (h.exponent e hexp) rest

end DecimalNumeral

/-! ### Numerals -/

/-- A numeral at the front is found, or one that reaches further. -/
theorem Numeral.scan?_append {n : Numeral} (h : n.WellFormed) (rest : Text) :
    FoundUpTo (scan? (n.spelling ++ rest)) rest := by
  cases n with
  | nan => exact .of_eq_some rfl
  | infinity => exact .of_eq_some rfl
  | inRadix radix marker digits =>
    rw [scan?_inRadix_append h rest]
    exact (Radix.scan?_append h rest).orElse_left
  | decimal d =>
    -- A base may find something here: the zero of `0x1` is a decimal numeral.  It reaches further.
    have hradix : ∀ radix : Radix, ∀ found, radix.scan? (d.spelling ++ rest) = some found →
        found.2.length ≤ rest.length := fun radix found hfound => Radix.length_le_of_scan? h hfound
    rw [spelling, scan?_decimal_append h rest]
    exact .orElse_right (hradix _) (.orElse_right (hradix _) (.orElse_right (hradix _)
      ((DecimalNumeral.scan?_append h rest).map _)))

namespace LiteralForm

theorem scanNumber?_append {negative : Bool} {n : Numeral} (h : n.WellFormed) (rest : Text) :
    FoundUpTo (scanNumber? ((number negative n).spelling ++ rest)) rest := by
  have hfound := Numeral.scan?_append h rest
  cases negative with
  | true =>
    show FoundUpTo (scanNumber? ('-' :: (n.spelling ++ rest))) rest
    rw [scanNumber?, if_pos rfl]
    exact hfound.map _
  | false =>
    obtain ⟨c, more, hspelling, hminus⟩ := Numeral.exists_spelling_cons_ne_minus h
    show FoundUpTo (scanNumber? (n.spelling ++ rest)) rest
    rw [hspelling] at hfound ⊢
    rw [List.cons_append, scanNumber?, if_neg hminus]
    exact hfound.map _

/-- **Scanning takes the longest literal.**  If a text starts with a literal, then something is
found that reaches at least as far. -/
theorem scan?_append {form : LiteralForm} (h : form.WellFormed) (rest : Text) :
    FoundUpTo (scan? (form.spelling ++ rest)) rest := by
  cases form with
  | null => exact .of_eq_some rfl
  | boolean b =>
    cases b with
    | true => exact .of_eq_some rfl
    | false => exact .of_eq_some rfl
  | string quote items =>
    have hfound : quote.scan? ((string quote items).spelling ++ rest)
        = some (string quote items, rest) := by
      rw [spelling, List.cons_append, List.append_assoc, Quote.scan?, if_pos rfl,
        List.singleton_append, StringItem.scan?_append h]
      rfl
    cases quote with
    | double => exact FoundUpTo.orElse_left (.of_eq_some hfound)
    | single =>
      -- The other quotation mark is tried first, and does not stand here.
      have hdouble : Quote.double.scan? ((string .single items).spelling ++ rest) = none :=
        Quote.scan?_eq_none (by rw [spelling, List.cons_append, List.head?_cons]; decide)
      have hsingle := FoundUpTo.of_eq_some hfound
      rw [scan?, hdouble]
      exact hsingle.orElse_left
  | number negative n =>
    -- A number starts like neither a string nor a word.
    rw [scan?_of_head?_ne (head?_number_append h rest)]
    exact scanNumber?_append h rest

/-- No literal is empty. -/
theorem spelling_ne_nil {form : LiteralForm} (h : form.WellFormed) : form.spelling ≠ [] := by
  cases form with
  | null => exact List.cons_ne_nil _ _
  | boolean b => cases b <;> exact List.cons_ne_nil _ _
  | string quote items => exact List.cons_ne_nil _ _
  | number negative n =>
    obtain ⟨c, more, hspelling, -⟩ := Numeral.exists_spelling_cons h
    have hne : n.spelling ≠ [] := by
      rw [hspelling]
      exact List.cons_ne_nil _ _
    exact List.append_ne_nil_of_right_ne_nil _ hne

/-- Every literal at the front of a text is a front of what is found. -/
theorem exists_scan?_of_isLiteral {s t : Text} (hs : s <+: t) (hliteral : s.IsLiteral) :
    ∃ form rest, scan? t = some (form, rest) ∧ s.length ≤ form.spelling.length := by
  obtain ⟨form, hform, rfl⟩ := hliteral
  obtain ⟨behind, rfl⟩ := hs
  obtain ⟨⟨found, rest⟩, hfound, hle⟩ := scan?_append hform behind
  have hlength := congrArg List.length (scan?_sound hfound).2
  rw [List.length_append, List.length_append] at hlength
  simp only at hlength hle
  exact ⟨found, rest, hfound, by omega⟩

end LiteralForm

/-! ### Columns -/

/-- The line is what stands behind the last line feed of the text, or all of the text if there is
none. -/
def Text.EndsInLine (t line : Text) : Prop :=
  CodePoint.lineFeed ∉ line ∧ (t = line ∨ ∃ before, t = before ++ CodePoint.lineFeed :: line)

theorem Text.exists_endsInLine (t : Text) : ∃ line, t.EndsInLine line := by
  induction t with
  | nil => exact ⟨[], List.not_mem_nil, Or.inl rfl⟩
  | cons c t ih =>
    obtain ⟨line, hline, rfl | ⟨before, rfl⟩⟩ := ih
    · by_cases hc : c = CodePoint.lineFeed
      · exact ⟨t, hline, Or.inr ⟨[], by rw [hc]; rfl⟩⟩
      · refine ⟨c :: t, ?_, Or.inl rfl⟩
        rw [List.mem_cons, not_or]
        exact ⟨Ne.symm hc, hline⟩
    · exact ⟨line, hline, Or.inr ⟨c :: before, rfl⟩⟩

/-- Columns are counted from the last line feed on. -/
theorem Text.EndsInLine.columnAfter {t line : Text} (h : t.EndsInLine line) :
    t.columnAfter = 1 + line.length := by
  obtain ⟨hline, ht⟩ := h
  have hrun : ∀ c ∈ line.reverse, decide (c ≠ CodePoint.lineFeed) = true := by
    intro c hc
    rw [decide_eq_true_eq]
    rintro rfl
    exact hline (List.mem_reverse.mp hc)
  -- read backwards, the line is what comes before the first line feed
  have htake : t.reverse.takeWhile (· ≠ CodePoint.lineFeed) = line.reverse := by
    rcases ht with rfl | ⟨before, rfl⟩
    · exact List.takeWhile_eq_self_iff.mpr hrun
    · rw [List.reverse_append, List.reverse_cons, List.append_assoc, List.singleton_append]
      refine takeWhile_run_append hrun fun c hc => ?_
      obtain rfl := Option.some.inj hc
      exact decide_eq_false (not_not.mpr rfl)
  rw [Text.columnAfter, htake, List.length_reverse, Nat.add_comm]

/-! ### Where a text is refused -/

/-- A text is accepted as far as it goes if it is empty, a minus sign or a literal. -/
def Text.IsAccepted (t : Text) : Prop := t = [] ∨ t = [CodePoint.ofChar '-'] ∨ t.IsLiteral

/-- Where neither a literal nor a minus sign stands, the first code point is at fault. -/
theorem LiteralForm.columnWithoutLiteral_of_ne {c : CodePoint} {rest : Text} (hc : c ≠ '-') :
    columnWithoutLiteral (c :: rest) = 1 := by
  cases rest with
  | nil => rfl
  | cons d rest => exact if_neg hc

/-- What is refused has a longest accepted front, and something stands behind it. -/
theorem exists_longest_accepted {t : Text} (hliteral : ¬t.IsLiteral) (hne : t ≠ [])
    (hminus : t ≠ [CodePoint.ofChar '-']) :
    ∃ front behind : Text, t = front ++ behind ∧ behind ≠ [] ∧ front.IsAccepted ∧
      (∀ s : Text, s <+: t → s.IsAccepted → s.length ≤ front.length) ∧
      LiteralForm.parse t = .error front.columnAfter := by
  unfold LiteralForm.parse
  cases hscan : LiteralForm.scan? t with
  | none =>
    -- No front is a literal, since a literal at the front would have been found.
    have hnone : ∀ s : Text, s <+: t → ¬s.IsLiteral := by
      intro s hs hlit
      obtain ⟨form, rest, hfound, -⟩ := LiteralForm.exists_scan?_of_isLiteral hs hlit
      rw [hscan] at hfound
      cases hfound
    obtain ⟨c, rest, rfl⟩ := List.exists_cons_of_ne_nil hne
    by_cases hc : c = CodePoint.ofChar '-'
    · -- the minus sign has been taken, but no numeral is behind it
      subst hc
      have hrest : rest ≠ [] := fun h => hminus (by rw [h])
      refine ⟨[CodePoint.ofChar '-'], rest, rfl, hrest, Or.inr (Or.inl rfl), ?_, ?_⟩
      · rintro s hs (rfl | rfl | hlit)
        · exact Nat.zero_le _
        · exact le_rfl
        · exact absurd hlit (hnone s hs)
      · obtain ⟨d, more, rfl⟩ := List.exists_cons_of_ne_nil hrest
        rfl
    · refine ⟨[], c :: rest, rfl, hne, Or.inl rfl, ?_, ?_⟩
      · rintro s hs (rfl | rfl | hlit)
        · exact le_rfl
        · exact absurd (List.cons_prefix_cons.mp hs).1.symm hc
        · exact absurd hlit (hnone s hs)
      · simp only [LiteralForm.columnWithoutLiteral_of_ne hc]
        rfl
  | some found =>
    obtain ⟨form, rest⟩ := found
    obtain ⟨hform, ht⟩ := LiteralForm.scan?_sound hscan
    cases rest with
    | nil => exact absurd ⟨form, hform, by rw [ht, List.append_nil]⟩ hliteral
    | cons c rest =>
      -- What is found is the longest literal at the front, and the other accepted texts are no
      -- longer.
      refine ⟨form.spelling, c :: rest, ht, List.cons_ne_nil c rest,
        Or.inr (Or.inr ⟨form, hform, rfl⟩), ?_, rfl⟩
      have hpos : 0 < form.spelling.length :=
        List.length_pos_iff.mpr (LiteralForm.spelling_ne_nil hform)
      rintro s hs (rfl | rfl | hlit)
      · exact Nat.zero_le _
      · exact hpos
      · obtain ⟨other, others, hfound, hle⟩ := LiteralForm.exists_scan?_of_isLiteral hs hlit
        rw [hscan] at hfound
        cases hfound
        exact hle

/-- **The column of an invalid literal.**  The empty text and a lone minus sign are refused in
column one.  Any other text that is no literal has a longest front that is empty, a minus sign or a
literal, which is not all of it, and is refused in the column behind that front, counted from its
last line feed. -/
theorem read_invalid_column {t : Text} (hliteral : ¬t.IsLiteral) :
    (t = [] ∨ t = [CodePoint.ofChar '-'] → LiteralValue.read t = .error (.invalid t 1)) ∧
    (t ≠ [] → t ≠ [CodePoint.ofChar '-'] →
      ∃ (p : ℕ) (line : Text), IsGreatest {n | n ≤ t.length ∧ Text.IsAccepted (t.take n)} p ∧
        p < t.length ∧ Text.EndsInLine (t.take p) line ∧
        LiteralValue.read t = .error (.invalid t (1 + line.length))) := by
  constructor
  · rintro (rfl | rfl) <;> rfl
  · intro hne hminus
    obtain ⟨front, behind, rfl, hbehind, haccepted, hlongest, hparse⟩ :=
      exists_longest_accepted hliteral hne hminus
    obtain ⟨line, hline⟩ := front.exists_endsInLine
    have hfront : (front ++ behind).take front.length = front := List.take_left
    have hlength : front.length < (front ++ behind).length := by
      have := List.length_pos_iff.mpr hbehind
      rw [List.length_append]
      omega
    refine ⟨front.length, line, ⟨⟨hlength.le, by rwa [hfront]⟩, ?_⟩, hlength, by rwa [hfront], ?_⟩
    · rintro n ⟨hn, hn'⟩
      have hle := hlongest _ (List.take_prefix n _) hn'
      rwa [List.length_take, Nat.min_eq_left hn] at hle
    · rw [LiteralValue.read, hparse, hline.columnAfter]

/-- A string with a line feed in it, and a base without digits behind it. -/
theorem read_invalid_column_string :
    let t := Text.ofString "\"a\\\nb\"0x"
    ¬t.IsLiteral ∧ t ≠ [] ∧ t ≠ [CodePoint.ofChar '-'] ∧
      ∃ (p : ℕ) (line : Text), IsGreatest {n | n ≤ t.length ∧ Text.IsAccepted (t.take n)} p ∧
        p < t.length ∧ Text.EndsInLine (t.take p) line ∧
        LiteralValue.read t = .error (.invalid t (1 + line.length)) := by
  intro t
  have hliteral : ¬t.IsLiteral :=
    LiteralForm.exists_parse_eq_error_iff.mp ⟨3, by decide +kernel⟩
  have hne : t ≠ [] := List.cons_ne_nil _ _
  have hminus : t ≠ [CodePoint.ofChar '-'] := by decide +kernel
  exact ⟨hliteral, hne, hminus, (read_invalid_column hliteral).2 hne hminus⟩

end EcmaTree
