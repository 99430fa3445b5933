import EcmaTree.Proofs.Literal.Outcome
import EcmaTree.Proofs.Literal.StringRoundTrip

/-!
# The value of a string

A string stands for sixteen-bit units, which `Text.BodyUnits` tells clause by clause over the body
between the quotes: a code point stands for its own units, and so does the code point that an escape
names.  What is read from a string without faulty escapes is the one text of these units that has no
surrogate pair (`read_string_units`).

The clauses speak of the text alone.  Decoding agrees with them because the scanner recognises
exactly the escape that a clause describes (`EscapeUnits.exists_scanFrom`), and they cover every
body because what falls under no clause is a faulty escape (`startsEscape_of_not_faultyEscape`).
-/

namespace EcmaTree

/-! ### The clauses -/

/-- The letters that stand for a control character behind a backslash. -/
def controlLetters : List (CodePoint × CodePoint) := [
  ('b', CodePoint.backspace), ('f', CodePoint.formFeed), ('n', CodePoint.lineFeed),
  ('r', CodePoint.carriageReturn), ('t', CodePoint.tab), ('v', CodePoint.verticalTab)]

/-- The code points behind which a line goes on when a backslash stands in front of them. -/
def lineTerminators : List CodePoint := [
  CodePoint.lineFeed, CodePoint.carriageReturn, CodePoint.lineSeparator,
  CodePoint.paragraphSeparator]

/-- The greatest number of digits of an octal escape with the given first digit. -/
def octalPlaces (first : CodePoint) : ℕ := if first.toNat ≤ 0x33 then 3 else 2

/-- Behind a backslash, and in front of `rest`, the text `escape` is an escape that stands for the
units. -/
inductive EscapeUnits : (escape rest : Text) → List CodeUnit → Prop
  /-- A code point by its number in braces. -/
  | braced {digits rest : Text} {c : CodePoint} (hne : digits ≠ [])
      (hdigits : ∀ d ∈ digits, Escape.isHexDigit d = true)
      (hc : c.toNat = Text.valueOf 16 CodePoint.hexDigit? digits) :
      EscapeUnits ('u' :: '\x7b' :: (digits ++ [CodePoint.ofChar '\x7d'])) rest c.units
  /-- A code point by four digits. -/
  | unit {digits rest : Text} {c : CodePoint} (hlength : digits.length = 4)
      (hdigits : ∀ d ∈ digits, Escape.isHexDigit d = true)
      (hc : c.toNat = Text.valueOf 16 CodePoint.hexDigit? digits) :
      EscapeUnits ('u' :: digits) rest c.units
  /-- A code point by two digits. -/
  | byte {digits rest : Text} {c : CodePoint} (hlength : digits.length = 2)
      (hdigits : ∀ d ∈ digits, Escape.isHexDigit d = true)
      (hc : c.toNat = Text.valueOf 16 CodePoint.hexDigit? digits) :
      EscapeUnits ('x' :: digits) rest c.units
  /-- A code point by octal digits, as many as there are within the limit. -/
  | octal {first : CodePoint} {digits rest : Text} {c : CodePoint}
      (hdigits : ∀ d ∈ first :: digits, Escape.isOctalDigit d = true)
      (hlength : (first :: digits).length ≤ octalPlaces first)
      (hlongest : (first :: digits).length < octalPlaces first →
        ∀ d ∈ rest.head?, Escape.isOctalDigit d = false)
      (hc : c.toNat = Text.valueOf 8 CodePoint.hexDigit? (first :: digits)) :
      EscapeUnits (first :: digits) rest c.units
  /-- A line end of two code points stands for nothing. -/
  | carriageReturnLineFeed {rest : Text} :
      EscapeUnits [CodePoint.carriageReturn, CodePoint.lineFeed] rest []
  /-- A line end of one code point stands for nothing. -/
  | lineTerminator {c : CodePoint} {rest : Text} (hc : c ∈ lineTerminators)
      (hrest : c = CodePoint.carriageReturn → rest.head? ≠ some CodePoint.lineFeed) :
      EscapeUnits [c] rest []
  /-- A letter for a control character. -/
  | control {letter c : CodePoint} {rest : Text} (hc : (letter, c) ∈ controlLetters) :
      EscapeUnits [letter] rest c.units
  /-- Any other code point stands for itself. -/
  | itself {c : CodePoint} {rest : Text} (hu : c ≠ 'u') (hx : c ≠ 'x')
      (hoctal : Escape.isOctalDigit c = false) (hend : c ∉ lineTerminators)
      (hcontrol : ∀ d, (c, d) ∉ controlLetters) : EscapeUnits [c] rest c.units

/-- Between two quotes, the text stands for the units. -/
inductive Text.BodyUnits : Text → List CodeUnit → Prop
  /-- The empty body has no units. -/
  | nil : BodyUnits [] []
  /-- A code point without a backslash in front stands for itself. -/
  | plain {c : CodePoint} {rest : Text} {us : List CodeUnit} (hc : c ≠ '\\')
      (h : BodyUnits rest us) : BodyUnits (c :: rest) (c.units ++ us)
  /-- A backslash starts an escape. -/
  | escape {escape rest : Text} {here us : List CodeUnit} (he : EscapeUnits escape rest here)
      (h : BodyUnits rest us) : BodyUnits ('\\' :: (escape ++ rest)) (here ++ us)

/-! ### The scanner follows the clauses -/

namespace Escape

theorem numbered_eq_ok {escape : Escape} {column n : ℕ} {c : CodePoint} (hc : c.toNat = n) :
    escape.numbered column n = .ok [c] := by
  subst hc
  rw [numbered, CodePoint.ofNat?, dif_pos c.isLt]

theorem ne_of_isOctalDigit {c d : CodePoint} (hc : isOctalDigit c = true)
    (hd : isOctalDigit d = false) : c ≠ d := by
  rintro rfl
  rw [hc] at hd
  exact Bool.noConfusion hd

theorem scanFrom_of_isOctalDigit {c : CodePoint} (hc : isOctalDigit c = true) (rest : Text) :
    scanFrom c rest = octal (octalDigits c rest) := by
  rw [scanFrom, if_neg (ne_of_isOctalDigit hc rfl), if_neg (ne_of_isOctalDigit hc rfl), if_pos hc]

/-- What is neither a digit nor a letter that asks for digits is a line end or a single code
point. -/
theorem scanFrom_of_not_digit {c : CodePoint} {rest : Text} (hu : c ≠ 'u') (hx : c ≠ 'x')
    (hoctal : isOctalDigit c = false)
    (hrest : c = CodePoint.carriageReturn → rest.head? ≠ some CodePoint.lineFeed) :
    scanFrom c rest = if c ∈ lineTerminators then lineEnd [c] else single c := by
  have hcrlf : ¬(decide (c = CodePoint.carriageReturn) &&
      decide (rest.take 1 = [CodePoint.lineFeed])) = true := by
    rw [Bool.and_eq_true, decide_eq_true_eq, decide_eq_true_eq]
    rintro ⟨hc, htake⟩
    cases rest with
    | nil => cases htake
    | cons d rest => exact hrest hc (congrArg List.head? htake)
  rw [scanFrom, if_neg hu, if_neg hx, if_neg (by rw [hoctal]; exact Bool.false_ne_true),
    if_neg hcrlf]
  simp [lineTerminators, or_assoc]

theorem ofSingle_of_forall_not_mem {c : CodePoint} (h : ∀ d, (c, d) ∉ controlLetters) :
    ofSingle c = c := by
  simp only [controlLetters, List.mem_cons, List.not_mem_nil, Prod.mk.injEq, or_false, not_or,
    not_and] at h
  rw [ofSingle]
  split_ifs with hb hf hn hr ht hv
  · exact absurd rfl ((h _).1 hb)
  · exact absurd rfl ((h _).2.1 hf)
  · exact absurd rfl ((h _).2.2.1 hn)
  · exact absurd rfl ((h _).2.2.2.1 hr)
  · exact absurd rfl ((h _).2.2.2.2.1 ht)
  · exact absurd rfl ((h _).2.2.2.2.2 hv)
  · rfl

theorem decode_single {c : CodePoint} (hu : c ≠ 'u') (hx : c ≠ 'x') (column : ℕ) :
    (single c).decode column = .ok [ofSingle c] := by
  rw [decode, if_neg]
  simp [hu, hx]

/-- Octal digits are taken up to the limit or up to the first code point that is none. -/
theorem octalDigits_append {first : CodePoint} {digits rest : Text}
    (hdigits : ∀ d ∈ digits, isOctalDigit d = true)
    (hlength : (first :: digits).length ≤ octalPlaces first)
    (hlongest : (first :: digits).length < octalPlaces first →
      ∀ d ∈ rest.head?, isOctalDigit d = false) :
    octalDigits first (digits ++ rest) = first :: digits := by
  have hplaces : (if first.toNat ≤ 0x33 then 2 else 1) = octalPlaces first - 1 := by
    rw [octalPlaces]
    split <;> rfl
  rw [List.length_cons] at hlength hlongest
  -- The scanner cuts the rest off at its limit first, so the run ends at the cut or at a code point
  -- that is no octal digit.
  have hstop : ∀ d ∈ (rest.take (octalPlaces first - 1 - digits.length)).head?,
      isOctalDigit d = false := by
    intro d hd
    rw [List.head?_take] at hd
    split at hd
    · cases hd
    · exact hlongest (by omega) d hd
  rw [octalDigits, hplaces, List.take_append, List.take_of_length_le (by omega),
    takeWhile_run_append hdigits hstop]

end Escape

/-- The scanner recognises the escape of a clause, and decodes it to a text of its units. -/
theorem EscapeUnits.exists_scanFrom {escape rest : Text} {here : List CodeUnit}
    (h : EscapeUnits escape rest here) :
    ∃ first run s, escape = first :: run ∧
      (Escape.scanFrom first (run ++ rest)).spelling = first :: run ∧
      (∀ column, (Escape.scanFrom first (run ++ rest)).decode column = .ok s) ∧
      s.units = here := by
  have hunits : ∀ c : CodePoint, Text.units [c] = c.units := fun c => List.append_nil _
  -- One case for each clause of the grammar.  The numbered ones are recognised by the digits that
  -- lead, the others by their first code point.
  cases h with
  | @braced digits _ c hne hdigits hc =>
    refine ⟨_, _, [c], rfl, ?_⟩
    rw [Escape.scanFrom_of_leadingBraced ⟨hne, hdigits, List.prefix_append _ _⟩]
    exact ⟨rfl, fun column => Escape.numbered_eq_ok hc, hunits c⟩
  | @unit digits _ c hlength hdigits hc =>
    refine ⟨_, _, [c], rfl, ?_⟩
    rw [Escape.scanFrom_of_leadingHex_four ⟨hlength, hdigits, List.prefix_append _ _⟩]
    exact ⟨rfl, fun column => Escape.numbered_eq_ok hc, hunits c⟩
  | @byte digits _ c hlength hdigits hc =>
    refine ⟨_, _, [c], rfl, ?_⟩
    rw [Escape.scanFrom_of_leadingHex_two ⟨hlength, hdigits, List.prefix_append _ _⟩]
    exact ⟨rfl, fun column => Escape.numbered_eq_ok hc, hunits c⟩
  | @octal first digits _ c hdigits hlength hlongest hc =>
    refine ⟨_, _, [c], rfl, ?_⟩
    obtain ⟨hfirst, hdigits⟩ := List.forall_mem_cons.mp hdigits
    rw [Escape.scanFrom_of_isOctalDigit hfirst,
      Escape.octalDigits_append hdigits hlength hlongest]
    exact ⟨rfl, fun column => Escape.numbered_eq_ok hc, hunits c⟩
  | carriageReturnLineFeed => exact ⟨_, _, [], rfl, rfl, fun column => rfl, rfl⟩
  | @lineTerminator c _ hc hrest =>
    refine ⟨_, _, [], rfl, ?_⟩
    -- None of the four line terminators starts an escape of another kind.
    have hne : c ≠ 'u' ∧ c ≠ 'x' ∧ Escape.isOctalDigit c = false := by
      simp only [lineTerminators, List.mem_cons, List.not_mem_nil, or_false] at hc
      rcases hc with rfl | rfl | rfl | rfl <;> decide
    rw [List.nil_append, Escape.scanFrom_of_not_digit hne.1 hne.2.1 hne.2.2 hrest, if_pos hc]
    exact ⟨rfl, fun column => rfl, rfl⟩
  | @control letter c _ hc =>
    refine ⟨_, _, [c], rfl, ?_⟩
    simp only [controlLetters, List.mem_cons, List.not_mem_nil, Prod.mk.injEq, or_false] at hc
    rcases hc with ⟨rfl, rfl⟩ | ⟨rfl, rfl⟩ | ⟨rfl, rfl⟩ | ⟨rfl, rfl⟩ | ⟨rfl, rfl⟩ | ⟨rfl, rfl⟩ <;>
      exact ⟨rfl, fun column => rfl, rfl⟩
  | @itself c _ hu hx hoctal hend hcontrol =>
    refine ⟨_, _, [c], rfl, ?_⟩
    -- A carriage return is a line terminator, which this clause excludes.
    have hrest : c = CodePoint.carriageReturn → rest.head? ≠ some CodePoint.lineFeed := by
      rintro rfl
      exact absurd (by decide) hend
    rw [List.nil_append, Escape.scanFrom_of_not_digit hu hx hoctal hrest, if_neg hend]
    refine ⟨rfl, fun column => ?_, hunits c⟩
    rw [Escape.decode_single hu hx, Escape.ofSingle_of_forall_not_mem hcontrol]

/-- Decoding a body gives a text of its units. -/
theorem Text.BodyUnits.exists_decodesTo {body : Text} {us : List CodeUnit} (h : body.BodyUnits us) :
    ∃ s, body.DecodesTo s ∧ s.units = us := by
  induction h with
  | nil => exact ⟨[], decodesTo_nil, rfl⟩
  | @plain c rest us hc h ih =>
    obtain ⟨s, hs, rfl⟩ := ih
    exact ⟨c :: s, hs.cons hc, units_cons c s⟩
  | @escape escape rest here us he h ih =>
    obtain ⟨s, hs, rfl⟩ := ih
    obtain ⟨first, run, t, rfl, hspelling, hdecode, rfl⟩ := he.exists_scanFrom
    exact ⟨t ++ s, DecodesTo.escape _ run t rfl hspelling hdecode hs, units_append t s⟩

/-! ### The clauses cover every body -/

/-- A number that is not behind the code space is that of a code point. -/
theorem exists_toNat_eq {n : ℕ} (h : n ≤ 0x10FFFF) : ∃ c : CodePoint, c.toNat = n :=
  ⟨⟨n, Nat.lt_succ_of_le h⟩, rfl⟩

/-- The longest run of at most `n` code points at the front of a text. -/
theorem exists_longest_run (p : CodePoint → Bool) (n : ℕ) (t : Text) :
    ∃ run behind, t = run ++ behind ∧ (∀ c ∈ run, p c = true) ∧ run.length ≤ n ∧
      (run.length < n → ∀ c ∈ behind.head?, p c = false) := by
  -- The run is as long as the limit allows, one code point at a time.
  induction n generalizing t with
  | zero => exact ⟨[], t, rfl, by simp, le_rfl, fun h => absurd h (Nat.not_lt_zero _)⟩
  | succ n ih =>
    cases t with
    | nil => exact ⟨[], [], rfl, by simp, Nat.zero_le _, by simp⟩
    | cons c t =>
      cases hc : p c with
      | false => exact ⟨[], c :: t, rfl, by simp, Nat.zero_le _, by simpa using hc⟩
      | true =>
        obtain ⟨run, behind, rfl, hrun, hlength, hlongest⟩ := ih t
        refine ⟨c :: run, behind, rfl, List.forall_mem_cons.mpr ⟨hc, hrun⟩, ?_, ?_⟩
        · exact Nat.succ_le_succ hlength
        · exact fun hlt => hlongest (Nat.lt_of_succ_lt_succ hlt)

theorem not_mem_of_forall {p : CodePoint → Bool} {t : Text} {c : CodePoint} (hc : p c = false)
    (h : ∀ d ∈ t, p d = true) : c ∉ t := by
  intro hmem
  have := h c hmem
  rw [hc] at this
  exact Bool.noConfusion this

section Cover

variable {first : CodePoint} {rest : Text}

/-- The text starts, behind a backslash and the first code point, with the rest of an escape that
falls under a clause. -/
def StartsEscape (first : CodePoint) (rest : Text) : Prop :=
  ∃ run behind here, rest = run ++ behind ∧ CodePoint.ofChar '\\' ∉ run ∧
    EscapeUnits (first :: run) behind here

/-- Behind `u` a number is recognised unless it is faulty. -/
theorem startsEscape_u (h : ¬FaultyEscape 'u' rest) : StartsEscape 'u' rest := by
  rw [FaultyEscape, not_or, not_or] at h
  obtain ⟨-, hnone, hrange⟩ := h
  -- In braces any number of the code space will do, and four digits are always one.
  by_cases hbraced : ∃ digits, rest.LeadingBraced digits
  · obtain ⟨digits, hleading⟩ := hbraced
    obtain ⟨c, hc⟩ := exists_toNat_eq
      (not_lt.mp fun hlt => hrange ⟨rfl, digits, hleading, hlt⟩)
    obtain ⟨hne, hdigits, behind, rfl⟩ := hleading
    refine ⟨_, behind, c.units, rfl, ?_, .braced hne hdigits hc⟩
    have hmem := not_mem_of_forall (c := CodePoint.ofChar '\\') rfl hdigits
    rw [List.mem_cons, List.mem_append, List.mem_singleton, not_or, not_or]
    exact ⟨by decide, hmem, by decide⟩
  · have hunit : ∃ digits, rest.LeadingHex 4 digits := by
      by_contra hno
      exact hnone ⟨rfl, not_exists.mp hno, not_exists.mp hbraced⟩
    obtain ⟨digits, hleading⟩ := hunit
    have hlt := Escape.valueOf_hexDigits_lt hleading
    obtain ⟨c, hc⟩ := exists_toNat_eq (Nat.le_of_lt_succ (hlt.trans (by omega)))
    obtain ⟨hlength, hdigits, behind, rfl⟩ := hleading
    exact ⟨digits, behind, c.units, rfl, not_mem_of_forall rfl hdigits,
      .unit hlength hdigits hc⟩

/-- Behind `x` two digits are recognised unless they are missing. -/
theorem startsEscape_x (h : ¬FaultyEscape 'x' rest) : StartsEscape 'x' rest := by
  have hbyte : ∃ digits, rest.LeadingHex 2 digits := by
    by_contra hno
    exact h (Or.inl ⟨rfl, not_exists.mp hno⟩)
  obtain ⟨digits, hleading⟩ := hbyte
  have hlt := Escape.valueOf_hexDigits_lt hleading
  obtain ⟨c, hc⟩ := exists_toNat_eq (Nat.le_of_lt_succ (hlt.trans (by omega)))
  obtain ⟨hlength, hdigits, behind, rfl⟩ := hleading
  exact ⟨digits, behind, c.units, rfl, not_mem_of_forall rfl hdigits,
    .byte hlength hdigits hc⟩

/-- An octal digit starts a number, as long as it goes. -/
theorem startsEscape_of_isOctalDigit (h : Escape.isOctalDigit first = true) :
    StartsEscape first rest := by
  obtain ⟨digits, behind, rfl, hdigits, hlength, hlongest⟩ :=
    exists_longest_run Escape.isOctalDigit (octalPlaces first - 1) rest
  have hplaces : 2 ≤ octalPlaces first := by
    rw [octalPlaces]
    split <;> omega
  have hlength' : (first :: digits).length ≤ octalPlaces first := by
    rw [List.length_cons]
    omega
  have hlongest' : (first :: digits).length < octalPlaces first →
      ∀ d ∈ behind.head?, Escape.isOctalDigit d = false := by
    intro hlt
    rw [List.length_cons] at hlt
    exact hlongest (by omega)
  -- Three octal digits from `3` down stay below 256.
  have hlt := Escape.valueOf_octalDigits_lt h (digits ++ behind)
  rw [Escape.octalDigits_append hdigits hlength' hlongest'] at hlt
  obtain ⟨c, hc⟩ := exists_toNat_eq (Nat.le_of_lt_succ (hlt.trans (by omega)))
  exact ⟨digits, behind, c.units, rfl, not_mem_of_forall rfl hdigits,
    .octal (List.forall_mem_cons.mpr ⟨h, hdigits⟩) hlength' hlongest' hc⟩

/-- Anything else ends a line, names a control or stands for itself. -/
theorem startsEscape_of_not_digit (hu : first ≠ 'u') (hx : first ≠ 'x')
    (hoctal : Escape.isOctalDigit first = false) : StartsEscape first rest := by
  have hsingle : ∀ here, EscapeUnits [first] rest here → StartsEscape first rest :=
    fun here h => ⟨[], rest, here, rfl, List.not_mem_nil, h⟩
  by_cases hend : first ∈ lineTerminators
  -- A carriage return takes a line feed along.
  · by_cases hcrlf : first = CodePoint.carriageReturn → rest.head? ≠ some CodePoint.lineFeed
    · exact hsingle _ (.lineTerminator hend hcrlf)
    · obtain ⟨rfl, hhead⟩ := Classical.not_imp.mp hcrlf
      obtain ⟨behind, rfl⟩ := List.head?_eq_some_iff.mp (not_not.mp hhead)
      exact ⟨[CodePoint.lineFeed], behind, [], rfl, by decide, .carriageReturnLineFeed⟩
  · by_cases hcontrol : ∃ d, (first, d) ∈ controlLetters
    · obtain ⟨d, hd⟩ := hcontrol
      exact hsingle _ (.control hd)
    · exact hsingle _ (.itself hu hx hoctal hend (not_exists.mp hcontrol))

/-- What stands behind a backslash and is not faulty falls under a clause. -/
theorem startsEscape_of_not_faultyEscape (h : ¬FaultyEscape first rest) :
    StartsEscape first rest := by
  by_cases hu : first = 'u'
  · subst hu
    exact startsEscape_u h
  by_cases hx : first = 'x'
  · subst hx
    exact startsEscape_x h
  cases hoctal : Escape.isOctalDigit first with
  | true => exact startsEscape_of_isOctalDigit hoctal
  | false => exact startsEscape_of_not_digit hu hx hoctal

end Cover

/-- A body without faulty escapes has units. -/
theorem exists_bodyUnits {quote : Quote} {items : List StringItem}
    (hwf : ∀ item ∈ items, item.WellFormed quote) :
    ¬HasFaultyEscape items → ∃ us, Text.BodyUnits (items.flatMap StringItem.spelling) us := by
  refine StringItem.inductionOnEscapes (P := fun items => ¬HasFaultyEscape items →
    ∃ us, Text.BodyUnits (items.flatMap StringItem.spelling) us)
    ?nil ?plain ?escaped ?escapedLineEnd hwf
  case nil => exact fun _ => ⟨[], .nil⟩
  case plain =>
    intro c items hc ih hok
    rw [hasFaultyEscape_cons_of_ne (by simp)] at hok
    obtain ⟨us, hus⟩ := ih hok
    exact ⟨_, .plain hc hus⟩
  case escaped =>
    intro c items ih hok
    rw [hasFaultyEscape_escaped_cons, not_or] at hok
    obtain ⟨run, behind, here, hbehind, hrun, hhere⟩ := startsEscape_of_not_faultyEscape hok.1
    -- what the escape takes behind its first code point are plain items
    obtain ⟨rest, rfl, rfl, hrest⟩ := ih run behind hrun hbehind
    rw [hasFaultyEscape_map_plain_append] at hok
    obtain ⟨us, hus⟩ := hrest hok.2
    rw [StringItem.flatMap_spelling_escaped_cons, hbehind]
    exact ⟨_, .escape hhere hus⟩
  case escapedLineEnd =>
    intro items ih hok
    rw [hasFaultyEscape_cons_of_ne (by simp)] at hok
    obtain ⟨us, hus⟩ := ih hok
    exact ⟨_, .escape .carriageReturnLineFeed hus⟩

/-! ### Reading a string -/

/-- A body stands for the same units however they are told. -/
theorem Text.BodyUnits.eq {body : Text} {us vs : List CodeUnit} (h : body.BodyUnits us)
    (h' : body.BodyUnits vs) : us = vs := by
  obtain ⟨s, hs, rfl⟩ := h.exists_decodesTo
  obtain ⟨t, ht, rfl⟩ := h'.exists_decodesTo
  rw [Except.ok.inj ((hs 2).symm.trans (ht 2))]

theorem Text.BodyUnits.unescape {body : Text} {us : List CodeUnit} (h : body.BodyUnits us) :
    body.unescape = .ok (ofUnits us) := by
  obtain ⟨s, hs, rfl⟩ := h.exists_decodesTo
  rw [Text.unescape, hs 2]
  rfl

/-- What can be read from a string has no faulty escape. -/
theorem not_hasFaultyEscape_of_read {t : Text} {quote : Quote} {items : List StringItem}
    {v : LiteralValue} (hparse : LiteralForm.parse t = .ok (.string quote items))
    (hread : LiteralValue.read t = .ok v) : ¬HasFaultyEscape items := by
  obtain ⟨hwf, -⟩ := LiteralForm.parse_eq_ok_iff.mp hparse
  rw [LiteralValue.read, hparse] at hread
  simp only at hread
  rcases LiteralForm.value_outcome hwf with ⟨-, -, e, he, -⟩ | ⟨hno, -⟩ | ⟨hno, -⟩
  · rw [hread] at he
    cases he
  · exact hno
  · exact hno

/-- **The value of a string.**  A text that parses as a string and has no faulty escape is read as
the one text without surrogate pairs that has the units of its body. -/
theorem read_string_units {t : Text} {quote : Quote} {items : List StringItem}
    (hparse : LiteralForm.parse t = .ok (.string quote items)) (hok : ¬HasFaultyEscape items) :
    ∃ body v : Text, t = quote.mark :: (body ++ [quote.mark]) ∧
      LiteralValue.read t = .ok (.string v) ∧
      (∀ us, body.BodyUnits us ↔ v.units = us) ∧
      ∀ w : Text, w = v ↔ w.units = v.units ∧ ¬w.HasSurrogatePair := by
  obtain ⟨hwf, hspelling⟩ := LiteralForm.parse_eq_ok_iff.mp hparse
  obtain ⟨us, hus⟩ := exists_bodyUnits hwf hok
  refine ⟨_, Text.ofUnits us, hspelling.symm, ?_, ?_, ?_⟩
  · rw [LiteralValue.read, hparse]
    simp only [LiteralForm.value, hus.unescape]
  · intro vs
    rw [Text.units_ofUnits]
    constructor
    · exact hus.eq
    · rintro rfl
      exact hus
  · intro w
    rw [Text.units_ofUnits, Text.eq_ofUnits_iff]

/-- An octal escape that ends in front of an `8`, two escapes that make a pair, and a line that goes
on. -/
theorem read_string_units_mixed :
    let t := Text.ofString "\"\\1018\\ud83d\\uDE00\\\r\n\""
    let items : List StringItem := [.escaped '1', .plain '0', .plain '1', .plain '8',
      .escaped 'u', .plain 'd', .plain '8', .plain '3', .plain 'd',
      .escaped 'u', .plain 'D', .plain 'E', .plain '0', .plain '0', .escapedLineEnd]
    LiteralForm.parse t = .ok (.string .double items) ∧ ¬HasFaultyEscape items ∧
      ∃ body v : Text, t = Quote.double.mark :: (body ++ [Quote.double.mark]) ∧
        LiteralValue.read t = .ok (.string v) ∧
        (∀ us, body.BodyUnits us ↔ v.units = us) ∧
        ∀ w : Text, w = v ↔ w.units = v.units ∧ ¬w.HasSurrogatePair := by
  intro t items
  have hparse : LiteralForm.parse t = .ok (.string .double items) := by decide +kernel
  have hread : LiteralValue.read t = .ok (.string (Text.ofString "A8😀")) := by decide +kernel
  have hok := not_hasFaultyEscape_of_read hparse hread
  exact ⟨hparse, hok, read_string_units hparse hok⟩

end EcmaTree
