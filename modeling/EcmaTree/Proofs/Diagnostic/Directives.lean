import EcmaTree.Proofs.Diagnostic.Steps
import Mathlib.Data.List.Induction
import Mathlib.Data.List.TakeDrop
import Mathlib.Tactic.Common

/-!
# Formats are filled in one pass

A format is cut into items from the left (`FormatItem.Cuts`): a percent sign takes the code point
behind it, whatever it is, unless that is a line feed.  There is exactly one such cut, and filling a
format writes down what its items stand for, one behind the other, with the first argument for the
first slot `%s` and so on (`Format.fill_eq_render`).  What an argument looks like plays no part in
the cut, so nothing in it is filled in again.

Only an argument can be in the way: a format can be filled if the arguments that its slots ask for
can be written, whatever the others are (`Format.exists_fill_iff`), and it breaks off at the first
of them that cannot.

Hence a format can be filled in two parts wherever the first one does not end in the middle of a
directive, and a text whose percent signs are doubled is a format for just that text
(`Format.message_one_pass`).
-/

namespace EcmaTree

/-- What a format is made of. -/
inductive FormatItem where
  /-- A code point that stands for itself. -/
  | plain (c : CodePoint)
  /-- A percent sign and the code point behind it. -/
  | directive (d : CodePoint)
deriving DecidableEq

namespace FormatItem

/-- Whether the item asks for an argument. -/
def isSlot : FormatItem → Bool
  | plain _ => false
  | directive d => d = 's'

/-- What the item stands for when `arg?` is the argument that is next, if one is left. -/
def meaning : FormatItem → (arg? : Option Value) → Except WritingError Text
  | plain c, _ => .ok [c]
  | directive d, arg? =>
    if d = 's' then (arg?.map Value.display).getD (.ok ['%', d])
    else if d = '%' then .ok ['%']
    else .ok ['%', d]

/-- The items that a text is made of, from left to right. -/
inductive Cuts : Text → List FormatItem → Prop
  /-- The empty text has no items. -/
  | nil : Cuts [] []
  /-- A percent sign takes the code point behind it. -/
  | directive {d : CodePoint} {rest : Text} {items : List FormatItem}
      (hd : d ≠ CodePoint.lineFeed) (h : Cuts rest items) :
      Cuts ('%' :: d :: rest) (directive d :: items)
  /-- Any other code point is an item, and so is a percent sign in front of a line feed or of
  nothing. -/
  | plain {c : CodePoint} {rest : Text} {items : List FormatItem}
      (hc : c = '%' → ∀ d ∈ rest.head?, d = CodePoint.lineFeed) (h : Cuts rest items) :
      Cuts (c :: rest) (plain c :: items)

/-- What the items stand for, one behind the other, unless one of them stands for nothing that can
be written.  The argument of a slot is the one that has as many arguments in front of it as there
are slots in front of the slot. -/
def render (args : List Value) (items : List FormatItem) : Except WritingError Text := do
  let texts ← (items.mapIdx fun j item => item.meaning args[(items.take j).countP isSlot]?).mapM id
  return texts.flatten

variable {t u : Text} {items others : List FormatItem} {args : List Value}

/-! ### The cut -/

/-- Every text has a cut. -/
theorem exists_cuts (t : Text) : ∃ items, Cuts t items := by
  -- Two code points are looked at, and one or both of them are taken.
  induction t using List.twoStepInduction with
  | nil => exact ⟨[], .nil⟩
  | singleton c => exact ⟨_, .plain (fun _ d hd => nomatch hd) .nil⟩
  | cons_cons c d rest ih ihd =>
    by_cases h : c = '%' ∧ d ≠ CodePoint.lineFeed
    · obtain ⟨rfl, hd⟩ := h
      obtain ⟨items, hitems⟩ := ih
      exact ⟨_, .directive hd hitems⟩
    · obtain ⟨items, hitems⟩ := ihd d
      refine ⟨_, .plain (fun hc e he => ?_) hitems⟩
      obtain rfl := Option.some.inj he
      by_contra hd
      exact h ⟨hc, hd⟩

namespace Cuts

/-- A text is cut in one way. -/
theorem unique (h : Cuts t items) (h' : Cuts t others) : others = items := by
  induction h generalizing others with
  | nil => cases h'; rfl
  | directive hd _ ih =>
    cases h' with
    | directive _ h' => rw [ih h']
    | plain hc _ => exact absurd (hc rfl _ rfl) hd
  | plain hc _ ih =>
    cases h' with
    | directive hd _ => exact absurd (hc rfl _ rfl) hd
    | plain _ h' => rw [ih h']

/-- The cuts of two texts make up the cut of both, unless a percent sign at the end of the first one
is waiting for a code point. -/
theorem append (h : Cuts t items) (hlast : items.getLast? ≠ some (.plain '%'))
    (h' : Cuts u others) : Cuts (t ++ u) (items ++ others) := by
  induction h with
  | nil => exact h'
  | @directive d rest items hd h ih =>
    refine .directive hd (ih fun hitems => hlast ?_)
    rw [List.getLast?_cons, hitems]
    rfl
  | @plain c rest items hc h ih =>
    refine .plain ?_ (ih fun hitems => hlast ?_)
    -- Only the last code point has another neighbour now.
    · cases h with
      | nil =>
        rintro rfl
        exact absurd rfl hlast
      | directive _ _ => exact hc
      | plain _ _ => exact hc
    · rw [List.getLast?_cons, hitems]
      rfl

end Cuts

/-! ### What items stand for -/

/-- An item uses up as many arguments as it is slots. -/
theorem render_cons (args : List Value) (item : FormatItem) (items : List FormatItem) :
    render args (item :: items) = do
      let t ← item.meaning args[0]?
      let u ← render (args.drop ([item].countP isSlot)) items
      return t ++ u := by
  -- behind the first item, slots are counted without it and arguments without those it takes
  have hothers : (items.mapIdx fun j item' =>
        item'.meaning args[((item :: items).take (j + 1)).countP isSlot]?)
      = items.mapIdx fun j item' =>
        item'.meaning (args.drop ([item].countP isSlot))[(items.take j).countP isSlot]? := by
    congr 1
    funext j item'
    rw [List.take_succ_cons, List.getElem?_drop, ← List.countP_append]
    rfl
  unfold render
  rw [List.mapIdx_cons, List.mapM_cons, hothers]
  simp only [bind_assoc, pure_bind, List.flatten_cons]
  rfl

/-- Only a slot looks at the argument. -/
theorem meaning_take (item : FormatItem) (args : List Value) (k : ℕ) :
    item.meaning (args.take ([item].countP isSlot + k))[0]? = item.meaning args[0]? := by
  cases item with
  | plain c => rfl
  | directive d =>
    by_cases hd : d = 's'
    · have hslot : [directive d].countP isSlot = 1 := by simp [isSlot, hd]
      rw [hslot, List.getElem?_take_of_lt (by omega)]
    · rw [meaning, meaning, if_neg hd, if_neg hd]

/-- The slots are those of the first item and those of the others. -/
theorem countP_isSlot_cons (item : FormatItem) (items : List FormatItem) :
    (item :: items).countP isSlot = [item].countP isSlot + items.countP isSlot := by
  rw [← List.countP_append]
  rfl

/-- Items in front use up the arguments in front. -/
theorem render_append (args : List Value) (items others : List FormatItem) :
    render args (items ++ others) = do
      let t ← render (args.take (items.countP isSlot)) items
      let u ← render (args.drop (items.countP isSlot)) others
      return t ++ u := by
  induction items generalizing args with
  | nil => exact (bind_pure (render args others)).symm
  | cons item items ih =>
    rw [List.cons_append, render_cons, ih, render_cons, countP_isSlot_cons item items, meaning_take,
      List.drop_take, Nat.add_sub_cancel_left, List.drop_drop]
    simp only [bind_assoc, pure_bind, List.append_assoc]

/-- An item can be written if the argument that it asks for can. -/
theorem exists_meaning_iff (item : FormatItem) (args : List Value) :
    (∃ t, item.meaning args[0]? = .ok t)
      ↔ ∀ arg ∈ args.take ([item].countP isSlot), ∃ t, arg.display = .ok t := by
  -- Only a slot asks for an argument, and it does without if none is left.
  cases item with
  | plain c => exact iff_of_true ⟨_, rfl⟩ (List.forall_mem_nil _)
  | directive d =>
    by_cases hd : d = 's'
    · have hslot : [directive d].countP isSlot = 1 := by simp [isSlot, hd]
      rw [hslot, meaning, if_pos hd]
      cases args <;> simp
    · have hslot : [directive d].countP isSlot = 0 := by simp [isSlot, hd]
      rw [hslot, meaning, if_neg hd]
      refine iff_of_true ?_ (List.forall_mem_nil _)
      split_ifs <;> exact ⟨_, rfl⟩

/-- Items can be written if the arguments that they ask for can. -/
theorem exists_render_iff (args : List Value) (items : List FormatItem) :
    (∃ t, render args items = .ok t)
      ↔ ∀ arg ∈ args.take (items.countP isSlot), ∃ t, arg.display = .ok t := by
  induction items generalizing args with
  | nil => exact iff_of_true ⟨[], rfl⟩ (List.forall_mem_nil _)
  | cons item items ih =>
    -- All items can be written iff the first and then the others can.
    have hboth : (∃ t, render args (item :: items) = .ok t)
        ↔ (∃ t, item.meaning args[0]? = .ok t)
          ∧ ∃ u, render (args.drop ([item].countP isSlot)) items = .ok u := by
      rw [render_cons]
      constructor
      · rintro ⟨_, h⟩
        obtain ⟨t, ht, hrest⟩ := bind_eq_ok.mp h
        obtain ⟨u, hu, -⟩ := bind_eq_ok.mp hrest
        exact ⟨⟨t, ht⟩, u, hu⟩
      · rintro ⟨⟨t, ht⟩, u, hu⟩
        refine ⟨t ++ u, ?_⟩
        rw [ht, hu]
        rfl
    rw [hboth, exists_meaning_iff, ih, countP_isSlot_cons item items, List.take_add,
      List.forall_mem_append]

end FormatItem

namespace Format

open FormatItem

variable {t : Text} {items : List FormatItem}

/-! ### Filling -/

/-- A code point that stands for itself is written as it is. -/
theorem fill_plain {c : CodePoint} {rest : Text}
    (hc : c = '%' → ∀ d ∈ rest.head?, d = CodePoint.lineFeed) (args : List Value) :
    fill args (c :: rest) = (fill args rest).map fun t => c :: t := by
  cases rest with
  | nil => rfl
  | cons d rest =>
    have hno : ¬(decide (c = '%') && decide (d ≠ CodePoint.lineFeed)) = true := by
      rw [Bool.and_eq_true, decide_eq_true_eq, decide_eq_true_eq]
      rintro ⟨hpercent, hd⟩
      exact hd (hc hpercent d rfl)
    rw [fill.eq_def]
    exact if_neg hno

/-- A percent sign and what follows are replaced by what they mean, and take an argument if they are
a slot. -/
theorem fill_directive {d : CodePoint} (hd : d ≠ CodePoint.lineFeed) (args : List Value)
    (rest : Text) :
    fill args ('%' :: d :: rest) = do
      let t ← (directive d).meaning args[0]?
      let u ← fill (args.drop ([directive d].countP isSlot)) rest
      return t ++ u := by
  have hyes : (decide (CodePoint.ofChar '%' = '%') && decide (d ≠ CodePoint.lineFeed)) = true := by
    rw [Bool.and_eq_true, decide_eq_true_eq, decide_eq_true_eq]
    exact ⟨rfl, hd⟩
  rw [fill.eq_def]
  dsimp only
  rw [if_pos hyes, meaning]
  -- A slot, a doubled percent sign, or anything else, which stays.
  by_cases hslot : d = 's'
  · have hcount : [directive d].countP isSlot = 1 := by simp [isSlot, hslot]
    rw [if_pos hslot, if_pos hslot, hcount]
    cases args with
    | nil =>
      show (fill [] rest).map _ = (fill [] rest).bind _
      cases fill [] rest <;> rfl
    | cons arg args => rfl
  · have hcount : [directive d].countP isSlot = 0 := by simp [isSlot, hslot]
    rw [if_neg hslot, if_neg hslot, hcount, List.drop_zero]
    split_ifs with hpercent
    · rw [hpercent]
      cases fill args rest <;> rfl
    · cases fill args rest <;> rfl

/-- Filling a format writes down what its items stand for. -/
theorem fill_eq_render (h : Cuts t items) (args : List Value) :
    fill args t = render args items := by
  induction h generalizing args with
  | nil => rfl
  | directive hd _ ih =>
    rw [fill_directive hd, render_cons]
    simp only [ih]
  | plain hc _ ih =>
    rw [fill_plain hc, render_cons, ih]
    show _ = (render args _).bind _
    cases render args _ <;> rfl

/-- A format can be filled if the arguments that its slots ask for can be written. -/
theorem exists_fill_iff (h : Cuts t items) (args : List Value) :
    (∃ r, fill args t = .ok r)
      ↔ ∀ arg ∈ args.take (items.countP isSlot), ∃ r, arg.display = .ok r := by
  rw [fill_eq_render h]
  exact exists_render_iff args items

/-! ### Texts as formats -/

/-- The text with every percent sign doubled. -/
def escaped (t : Text) : Text :=
  t.flatMap fun c : CodePoint => if c = '%' then ['%', '%'] else [c]

/-- The items of a text with every percent sign doubled. -/
def escapedItems (t : Text) : List FormatItem :=
  t.map fun c : CodePoint => if c = '%' then .directive '%' else .plain c

/-- A doubled percent sign is one item. -/
theorem cuts_escaped (t : Text) : Cuts (escaped t) (escapedItems t) := by
  induction t with
  | nil => exact .nil
  | cons c t ih =>
    rw [escaped, List.flatMap_cons, escapedItems, List.map_cons]
    split_ifs with hc
    · exact .directive (by decide) ih
    · exact .plain (fun h => absurd h hc) ih

/-- A doubled percent sign stands for one, and asks for no argument. -/
theorem render_escapedItems (args : List Value) (t : Text) :
    render args (escapedItems t) = .ok t := by
  induction t with
  | nil => rfl
  | cons c t ih =>
    -- Either item stands for the code point that it came from.
    have hitem : ∃ item, (if c = '%' then FormatItem.directive '%' else .plain c) = item ∧
        item.meaning args[0]? = .ok [c] ∧ [item].countP isSlot = 0 := by
      split_ifs with hc
      · exact ⟨_, rfl, by rw [hc]; rfl, rfl⟩
      · exact ⟨_, rfl, rfl, rfl⟩
    obtain ⟨item, hhead, hmeaning, hcount⟩ := hitem
    have htail : render args (t.map fun c : CodePoint =>
        if c = '%' then FormatItem.directive '%' else .plain c) = .ok t := ih
    rw [escapedItems, List.map_cons, hhead, render_cons, hmeaning, hcount, List.drop_zero, htail]
    rfl

/-- **Formats are filled in one pass.**  A format has exactly one cut into items, and its message is
what these stand for, or breaks off at the first of them that cannot be written.  There is a message
iff the arguments that the slots ask for can be written.  Unless the format ends in a percent sign
that no code point follows, any format may be put behind it, which then has the arguments that its
slots leave.  A text with its percent signs doubled stands for itself, whatever the arguments. -/
theorem message_one_pass (t : Text) (args : List Value) :
    ∃ items, Cuts t items ∧ (∀ others, Cuts t others → others = items) ∧
      message .none t args = render args items ∧
      ((∃ r, message .none t args = .ok r) ↔
        ∀ arg ∈ args.take (items.countP isSlot), ∃ r, arg.display = .ok r) ∧
      (items.getLast? ≠ some (.plain '%') → ∀ u,
        message .none (t ++ u) args = do
          let front ← message .none t (args.take (items.countP isSlot))
          let back ← message .none u (args.drop (items.countP isSlot))
          return front ++ back) ∧
      message .none (escaped t) args = .ok t := by
  obtain ⟨items, hitems⟩ := exists_cuts t
  refine ⟨items, hitems, fun others => hitems.unique, ?_, ?_, fun hlast u => ?_, ?_⟩
  · rw [message_none, fill_eq_render hitems]
  · rw [message_none]
    exact exists_fill_iff hitems args
  · obtain ⟨others, hothers⟩ := exists_cuts u
    rw [message_none, message_none, message_none, fill_eq_render (hitems.append hlast hothers),
      fill_eq_render hitems, fill_eq_render hothers, render_append]
  · rw [message_none, fill_eq_render (cuts_escaped t), render_escapedItems]

/-- The format `%s%%` with another one behind it, where the first argument looks like a slot. -/
theorem message_one_pass_slot :
    ([directive 's', directive '%'] : List FormatItem).getLast? ≠ some (.plain '%') ∧
      message .none ((['%', 's', '%', '%'] : Text) ++ (['s', '%', 's', '%'] : Text))
          [.text ['%', 's'], .int 7]
        = do
          let front ← message .none ['%', 's', '%', '%'] [.text ['%', 's']]
          let back ← message .none ['s', '%', 's', '%'] [.int 7]
          return front ++ back := by
  obtain ⟨items, -, hunique, -, -, hsplit, -⟩ :=
    message_one_pass ['%', 's', '%', '%'] [.text ['%', 's'], .int 7]
  have hitems := hunique _ (.directive (by decide) (.directive (by decide) .nil))
  subst hitems
  exact ⟨by decide, hsplit (by decide) _⟩

end Format

end EcmaTree
