/-
QueryCache.Proofs.Filter.Pieces — a list is cut at its own commas, and
nowhere else.

What a text opens and closes is said without the scan: it ends inside quotes
when it holds an odd number of them (`EndsQuoted`), and its brackets are those
outside quotes (`opened`, `closed`).  The scan counts along
(`foldlM_step_iff`), so it gets through a text exactly if no front of it closes
more than it opens (`ClosesTooMuch`).  A list is accepted exactly if the scan
gets through it and nothing is open at its end.  The pieces are then the only
ones that the list can be joined from and that none of their own commas
divides (`split_eq_ok_iff`).
-/
import QueryCache.Proofs.Filter.TopLevel
import Mathlib.Data.List.Induction

namespace QueryCache.TopLevel

/-! ## 1. Quotes and brackets of a text -/

/-- The text ends inside quotes. -/
def EndsQuoted (text : Text) : Prop :=
  text.count '"' % 2 = 1

instance : DecidablePred EndsQuoted := fun _ => inferInstanceAs (Decidable (_ = _))

/-- The characters outside quotes, of a text that begins inside them or
not. -/
def outside (quoted : Bool) : Text → Text
  | [] => []
  | c :: rest =>
    if c = '"' then outside (!quoted) rest
    else if quoted then outside quoted rest
    else c :: outside quoted rest

/-- How many brackets the text opens outside quotes. -/
def opened (text : Text) : Nat :=
  (outside false text).countP opens

/-- How many brackets the text closes outside quotes. -/
def closed (text : Text) : Nat :=
  (outside false text).countP closes

/-- Some bracket outside quotes closes more than was opened. -/
def ClosesTooMuch (text : Text) : Prop :=
  ∃ front, front <+: text ∧ opened front < closed front

/-- Some bracket outside quotes stays open. -/
def StaysOpen (text : Text) : Prop :=
  closed text < opened text

/-- The text closes its quotes and its brackets, these never below zero, and
each of its commas stands inside quotes or brackets. -/
structure IsPiece (text : Text) : Prop where
  unquoted : ¬ EndsQuoted text
  nonneg : ¬ ClosesTooMuch text
  balanced : ¬ StaysOpen text
  commas : ∀ front back, text = front ++ ',' :: back → EndsQuoted front ∨ StaysOpen front

/-- The text in front of a piece: the pieces before it, each with its
comma. -/
def ahead (pieces : List (Nat × Text)) : Text :=
  pieces.flatMap fun piece => piece.2 ++ [',']

/-- The text is cut into the pieces: joined by commas they give it back, each
stands in it at its byte position, and none can be cut further. -/
structure IsCut (text : Text) (pieces : List (Nat × Text)) : Prop where
  ne_nil : pieces ≠ []
  joined : Text.join ',' (pieces.map Prod.snd) = text
  placed : ∀ before piece after, pieces = before ++ piece :: after →
    ahead before ++ piece.2 <+: text ∧ piece.1 = Text.byteSize (ahead before)
  whole : ∀ piece ∈ pieces, IsPiece piece.2

/-! ## 2. One character more -/

section

variable (text : Text) (c : Char)

theorem endsQuoted_concat : EndsQuoted (text ++ [c]) ↔ (c = '"' ↔ ¬ EndsQuoted text) := by
  rw [EndsQuoted, EndsQuoted, List.count_append, List.count_singleton]
  by_cases hc : c = '"'
  · simp only [hc, BEq.rfl, if_true, true_iff]
    omega
  · simp only [hc, beq_iff_eq, if_false, false_iff, not_not, Nat.add_zero]

theorem outside_concat (quoted : Bool) : outside quoted (text ++ [c]) =
    outside quoted text ++
      if (quoted = true ↔ EndsQuoted text) ∧ c ≠ '"' then [c] else [] := by
  induction text generalizing quoted with
  | nil =>
    by_cases hc : c = '"' <;> cases quoted <;> simp [outside, EndsQuoted, hc]
  | cons first rest ih =>
    rw [List.cons_append, outside, outside]
    by_cases hfirst : first = '"'
    · rw [if_pos hfirst, if_pos hfirst, ih]
      have hends : EndsQuoted (first :: rest) ↔ ¬ EndsQuoted rest := by
        rw [EndsQuoted, EndsQuoted, hfirst, List.count_cons_self]
        omega
      congr 2
      rw [hends]
      cases quoted <;> simp
    · have hends : EndsQuoted (first :: rest) ↔ EndsQuoted rest := by
        rw [EndsQuoted, EndsQuoted, List.count_cons_of_ne hfirst]
      simp only [if_neg hfirst, ih, hends]
      split <;> rfl

theorem opened_concat : opened (text ++ [c]) =
    opened text + if ¬ EndsQuoted text ∧ opens c = true then 1 else 0 := by
  have hquote : opens '"' = false := by decide
  rw [opened, opened, outside_concat, List.countP_append]
  by_cases hc : c = '"' <;> by_cases hends : EndsQuoted text <;>
    simp [hc, hends, hquote, List.countP_singleton]

theorem closed_concat : closed (text ++ [c]) =
    closed text + if ¬ EndsQuoted text ∧ closes c = true then 1 else 0 := by
  have hquote : closes '"' = false := by decide
  rw [closed, closed, outside_concat, List.countP_append]
  by_cases hc : c = '"' <;> by_cases hends : EndsQuoted text <;>
    simp [hc, hends, hquote, List.countP_singleton]

theorem closesTooMuch_concat : ClosesTooMuch (text ++ [c]) ↔
    ClosesTooMuch text ∨ opened (text ++ [c]) < closed (text ++ [c]) := by
  simp only [ClosesTooMuch, List.prefix_concat_iff, or_and_right, exists_or, exists_eq_left]
  exact or_comm

end

/-! ## 3. The scan counts along -/

theorem closes_eq_false {c : Char} (h : opens c = true) : closes c = false := by
  simp only [opens, Bool.or_eq_true, beq_iff_eq] at h
  rcases h with (rfl | rfl) | rfl <;> decide

/-- What one character does to the nesting. -/
theorem step_eq_some_iff {nesting next : Nesting} {c : Char} : nesting.step c = some next ↔
    (next.depth + (if ¬ nesting.quoted = true ∧ closes c = true then 1 else 0) =
      nesting.depth + if ¬ nesting.quoted = true ∧ opens c = true then 1 else 0) ∧
    (next.quoted = true ↔ (c = '"' ↔ ¬ nesting.quoted = true)) := by
  obtain ⟨depth, quoted⟩ := nesting
  obtain ⟨depth', quoted'⟩ := next
  have hquote : opens '"' = false ∧ closes '"' = false := by decide
  rw [Nesting.step]
  by_cases hc : c = '"'
  · subst hc
    grind
  · by_cases hquoted : quoted = true
    · grind
    · by_cases hopens : opens c = true
      · have hcloses := closes_eq_false hopens
        grind
      · grind

theorem closed_le_opened {text : Text} (h : ¬ ClosesTooMuch text) : closed text ≤ opened text :=
  Nat.le_of_not_lt fun hless => h ⟨text, List.prefix_refl text, hless⟩

theorem foldlM_step_concat {text : Text} {c : Char} {nesting : Nesting} :
    (text ++ [c]).foldlM Nesting.step {} = some nesting ↔
      ∃ before, text.foldlM Nesting.step {} = some before ∧ before.step c = some nesting := by
  rw [List.foldlM_append, ← Option.bind_eq_some_iff]
  simp [List.foldlM_cons, List.foldlM_nil]

/-- The scan gets through a text that never closes more than it opens, and it
knows what is open then. -/
theorem foldlM_step_iff {text : Text} {nesting : Nesting} :
    text.foldlM Nesting.step {} = some nesting ↔
      ¬ ClosesTooMuch text ∧ nesting.depth + closed text = opened text ∧
        (nesting.quoted = true ↔ EndsQuoted text) := by
  induction text using List.reverseRecOn generalizing nesting with
  | nil =>
    have hnone : ¬ ClosesTooMuch [] := by
      rintro ⟨front, hfront, hless⟩
      obtain rfl := List.prefix_nil.1 hfront
      exact absurd hless (Nat.lt_irrefl 0)
    obtain ⟨depth, quoted⟩ := nesting
    simp [hnone, opened, closed, outside, EndsQuoted, eq_comm]
  | append_singleton text c ih =>
    rw [foldlM_step_concat, closesTooMuch_concat, opened_concat, closed_concat, endsQuoted_concat]
    constructor
    · rintro ⟨before, hbefore, hstep⟩
      obtain ⟨hnot, hdepth, hquoted⟩ := ih.1 hbefore
      obtain ⟨hnext, hbehind⟩ := step_eq_some_iff.1 hstep
      simp only [hquoted] at hnext hbehind
      exact ⟨not_or.2 ⟨hnot, by omega⟩, by omega, hbehind⟩
    · rintro ⟨hnot, hdepth, hquoted⟩
      obtain ⟨hnot, hless⟩ := not_or.1 hnot
      have hle := closed_le_opened hnot
      refine ⟨⟨opened text - closed text, decide (EndsQuoted text)⟩,
        ih.2 ⟨hnot, Nat.sub_add_cancel hle, decide_eq_true_iff⟩, step_eq_some_iff.2 ?_⟩
      simp only [decide_eq_true_iff]
      exact ⟨by omega, hquoted⟩

/-- Nothing is open for the scan when nothing is open. -/
theorem isClosed_iff {text : Text} {nesting : Nesting}
    (h : text.foldlM Nesting.step {} = some nesting) :
    nesting.isClosed = true ↔ ¬ EndsQuoted text ∧ ¬ StaysOpen text := by
  obtain ⟨-, hdepth, hquoted⟩ := foldlM_step_iff.1 h
  have hzero : nesting.depth = 0 ↔ ¬ StaysOpen text := by
    rw [StaysOpen]
    omega
  rw [← hquoted, ← hzero, Nesting.isClosed, Bool.and_eq_true, beq_iff_eq, Bool.not_eq_true',
    Bool.not_eq_true, and_comm]

theorem through_concat {text : Text} {c : Char} {nesting : Nesting} :
    Nesting.through {} (text ++ [c]) = some nesting ↔
      ∃ before, Nesting.through {} text = some before ∧ before.separates c = false ∧
        before.step c = some nesting := by
  rw [Nesting.through_append, Option.bind_eq_some_iff]
  refine exists_congr fun before => and_congr_right fun _ => ?_
  rw [Nesting.through]
  cases before.separates c <;> simp [Nesting.through]

/-- The commas of a text are those of its front and perhaps its last
character. -/
theorem forall_commas_concat {p : Text → Prop} {text : Text} {c : Char} :
    (∀ front back, text ++ [c] = front ++ ',' :: back → p front) ↔
      (∀ front back, text = front ++ ',' :: back → p front) ∧ (c = ',' → p text) := by
  constructor
  · refine fun h => ⟨fun front back heq => h front (back ++ [c]) (by simp [heq]), ?_⟩
    rintro rfl
    exact h text [] rfl
  · rintro ⟨hinside, hlast⟩ front back heq
    rcases List.eq_nil_or_concat back with rfl | ⟨back, last, rfl⟩
    · obtain ⟨rfl, hc⟩ := List.append_inj' heq rfl
      exact hlast (List.cons.inj hc).1
    · rw [List.concat_eq_append, ← List.cons_append, ← List.append_assoc] at heq
      exact hinside front back (List.append_inj' heq rfl).1

/-- The scan meets no separator in a text whose commas stand inside quotes or
brackets. -/
theorem through_eq_some_iff {text : Text} {nesting : Nesting} :
    Nesting.through {} text = some nesting ↔ text.foldlM Nesting.step {} = some nesting ∧
      ∀ front back, text = front ++ ',' :: back → EndsQuoted front ∨ StaysOpen front := by
  induction text using List.reverseRecOn generalizing nesting with
  | nil => simp [Nesting.through]
  | append_singleton text c ih =>
    have hseparates : ∀ before : Nesting, text.foldlM Nesting.step {} = some before →
        (before.separates c = false ↔ (c = ',' → EndsQuoted text ∨ StaysOpen text)) := by
      intro before hbefore
      rw [Nesting.separates, Bool.and_eq_false_imp, beq_iff_eq, ← Bool.not_eq_true,
        isClosed_iff hbefore]
      tauto
    rw [forall_commas_concat, through_concat, foldlM_step_concat]
    constructor
    · rintro ⟨before, hthrough, hseparate, hnext⟩
      obtain ⟨hbefore, hinside⟩ := ih.1 hthrough
      exact ⟨⟨before, hbefore, hnext⟩, hinside, (hseparates before hbefore).1 hseparate⟩
    · rintro ⟨⟨before, hbefore, hnext⟩, hinside, hlast⟩
      exact ⟨before, ih.2 ⟨hbefore, hinside⟩, (hseparates before hbefore).2 hlast, hnext⟩

theorem isPiece_iff {text : Text} : IsPiece text ↔ Nesting.through {} text = some {} := by
  rw [through_eq_some_iff, foldlM_step_iff]
  constructor
  · intro h
    have hle := closed_le_opened h.nonneg
    have hbalanced := h.balanced
    rw [StaysOpen] at hbalanced
    exact ⟨⟨h.nonneg, by dsimp only; omega, by simpa using h.unquoted⟩, h.commas⟩
  · rintro ⟨⟨hnonneg, hdepth, hquoted⟩, hcommas⟩
    rw [Nat.zero_add] at hdepth
    refine ⟨by simpa using hquoted, hnonneg, ?_, hcommas⟩
    rw [StaysOpen, hdepth]
    exact Nat.lt_irrefl _

/-! ## 4. Pieces -/

theorem ahead_cons (piece : Nat × Text) (pieces : List (Nat × Text)) :
    ahead (piece :: pieces) = piece.2 ++ ',' :: ahead pieces := by
  simp [ahead]

/-- Each piece is at its byte position, in a text that begins at `start`. -/
def ArePlaced (start : Nat) (pieces : List (Nat × Text)) : Prop :=
  ∀ before piece after, pieces = before ++ piece :: after →
    piece.1 = start + Text.byteSize (ahead before)

theorem byteSize_append (front back : Text) :
    Text.byteSize (front ++ back) = Text.byteSize front + Text.byteSize back := by
  induction front with
  | nil => exact (Nat.zero_add _).symm
  | cons c rest ih => rw [List.cons_append, Text.byteSize, ih, Text.byteSize, Nat.add_assoc]

theorem arePlaced_cons {start : Nat} {piece : Nat × Text} {rest : List (Nat × Text)} :
    ArePlaced start (piece :: rest) ↔
      piece.1 = start ∧ ArePlaced (start + Text.byteSize piece.2 + Char.utf8Size ',') rest := by
  have hahead : ∀ before, Text.byteSize (ahead (piece :: before)) =
      Text.byteSize piece.2 + (Char.utf8Size ',' + Text.byteSize (ahead before)) := by
    intro before
    rw [ahead_cons, byteSize_append, Text.byteSize]
  constructor
  · intro h
    refine ⟨h [] piece rest rfl, fun before other after heq => ?_⟩
    rw [h (piece :: before) other after (by rw [heq]; rfl), hahead]
    omega
  · rintro ⟨hfirst, hrest⟩ before other after heq
    rcases before with _ | ⟨first, before⟩
    · obtain ⟨rfl, -⟩ := List.cons.inj heq
      exact hfirst
    · obtain ⟨rfl, hothers⟩ := List.cons.inj heq
      rw [hrest before other after hothers, hahead]
      omega

theorem eq_of_isClosed {nesting : Nesting} (h : nesting.isClosed = true) : nesting = {} := by
  obtain ⟨depth, quoted⟩ := nesting
  simpa [Nesting.isClosed] using h

/-- What is cut is a first piece, and behind its comma there are the others. -/
theorem exists_of_cut {nesting : Nesting} {index start : Nat} {item text : Text}
    {pieces : List (Nat × Text)} (h : cut nesting index start item text = .ok pieces) :
    ∃ front rest, nesting.through front = some {} ∧
      pieces = (start, item.reverse ++ front) :: rest ∧
      (text = front ∧ rest = [] ∨ ∃ back, text = front ++ ',' :: back ∧
        cut {} (index + Text.byteSize front + Char.utf8Size ',')
          (index + Text.byteSize front + Char.utf8Size ',') [] back = .ok rest) := by
  induction text generalizing nesting index item pieces with
  | nil =>
    rw [cut] at h
    split at h
    · rename_i hnesting
      obtain rfl := Except.ok.inj h
      obtain rfl := eq_of_isClosed hnesting
      exact ⟨[], [], rfl, by rw [List.append_nil], Or.inl ⟨rfl, rfl⟩⟩
    · contradiction
  | cons c text ih =>
    rw [cut] at h
    split at h
    · rename_i hseparates
      obtain ⟨hcomma, hnesting⟩ := Bool.and_eq_true_iff.1 hseparates
      obtain rfl := beq_iff_eq.1 hcomma
      obtain rfl := eq_of_isClosed hnesting
      rcases hrest : cut {} (index + Char.utf8Size ',') (index + Char.utf8Size ',') [] text with
        error | rest
      · rw [hrest] at h
        contradiction
      · rw [hrest] at h
        obtain rfl := Except.ok.inj h
        exact ⟨[], rest, rfl, by rw [List.append_nil], Or.inr ⟨text, rfl, hrest⟩⟩
    · rename_i hseparates
      split at h
      · rename_i next hstep
        obtain ⟨front, rest, hthrough, hpieces, hrest⟩ := ih h
        refine ⟨c :: front, rest, ?_, ?_, ?_⟩
        · rw [Nesting.through, if_neg hseparates, hstep, Option.bind_some, hthrough]
        · rw [hpieces, List.reverse_cons, List.append_assoc]
          rfl
        · refine hrest.imp (And.imp_left (congrArg _)) ?_
          rintro ⟨back, rfl, hback⟩
          refine ⟨back, rfl, ?_⟩
          rwa [Text.byteSize, ← Nat.add_assoc]
      · contradiction

/-- What the scan cuts, and where: the pieces that join to the text, none of
which it can divide. -/
theorem cut_eq_ok_iff {start : Nat} {text : Text} {pieces : List (Nat × Text)} :
    cut {} start start [] text = .ok pieces ↔
      pieces ≠ [] ∧ Text.join ',' (pieces.map Prod.snd) = text ∧ ArePlaced start pieces ∧
        ∀ piece ∈ pieces, Nesting.through {} piece.2 = some {} := by
  induction pieces generalizing start text with
  | nil =>
    refine iff_of_false (fun h => ?_) fun h => h.1 rfl
    obtain ⟨front, rest, -, hpieces, -⟩ := exists_of_cut h
    contradiction
  | cons piece rest ih =>
    rw [arePlaced_cons, List.forall_mem_cons]
    constructor
    · intro h
      obtain ⟨front, others, hthrough, hpieces, hrest⟩ := exists_of_cut h
      obtain ⟨rfl, rfl⟩ := List.cons.inj hpieces
      refine ⟨List.cons_ne_nil _ _, ?_⟩
      rcases hrest with ⟨rfl, rfl⟩ | ⟨back, rfl, hback⟩
      · refine ⟨rfl, ⟨rfl, ?_⟩, hthrough, by simp⟩
        rintro before other after heq
        simp at heq
      · obtain ⟨hne, hjoin, hplaced, hwhole⟩ := ih.1 hback
        refine ⟨?_, ⟨rfl, hplaced⟩, hthrough, hwhole⟩
        rw [List.map_cons, Text.join_cons (by simpa using hne), hjoin]
        rfl
    · rintro ⟨-, rfl, ⟨hfirst, hplaced⟩, hthrough, hwhole⟩
      obtain ⟨position, item⟩ := piece
      obtain rfl : position = start := hfirst
      have hitem := cut_append hthrough position position []
      rcases eq_or_ne rest [] with rfl | hne
      · have hclosed : Nesting.isClosed {} = true := rfl
        have hlast := hitem []
        rw [List.append_nil, List.append_nil] at hlast
        rw [List.map_singleton, Text.join, hlast, cut, if_pos hclosed, List.reverse_reverse]
      · -- The comma behind the piece ends it, as nothing is open there.
        have hcomma : Nesting.separates {} ',' = true := rfl
        rw [List.map_cons, Text.join_cons (by simpa using hne), hitem, List.append_nil, cut,
          if_pos hcomma, ih.2 ⟨hne, rfl, hplaced, hwhole⟩, List.reverse_reverse]
        rfl

/-- A list is cut exactly if the scan gets through it and nothing is open at
its end. -/
theorem exists_cut_iff {nesting : Nesting} {index start : Nat} {item text : Text} :
    (∃ pieces, cut nesting index start item text = .ok pieces) ↔
      ∃ next, text.foldlM Nesting.step nesting = some next ∧ next.isClosed = true := by
  induction text generalizing nesting index start item with
  | nil =>
    rw [cut, List.foldlM_nil]
    split <;> simp_all
  | cons c text ih =>
    rw [cut, List.foldlM_cons]
    split
    · rename_i hseparates
      obtain ⟨hcomma, hclosed⟩ := Bool.and_eq_true_iff.1 hseparates
      obtain rfl := beq_iff_eq.1 hcomma
      obtain rfl := eq_of_isClosed hclosed
      -- A separator changes nothing for what follows.
      have hstep : Nesting.step {} ',' = some {} := rfl
      rw [hstep]
      refine Iff.trans ?_ (@ih {} (index + Char.utf8Size ',') (index + Char.utf8Size ',') [])
      rcases cut {} (index + Char.utf8Size ',') (index + Char.utf8Size ',') [] text with
        error | rest
      · exact iff_of_false (by rintro ⟨_, ⟨⟩⟩) (by rintro ⟨_, ⟨⟩⟩)
      · exact iff_of_true ⟨_, rfl⟩ ⟨rest, rfl⟩
    · split
      · rename_i next hstep
        rw [hstep]
        exact ih
      · rename_i hstep
        rw [hstep]
        simp

/-! ## 5. The cut is exact -/

theorem join_append_cons (before : List (Nat × Text)) (piece : Nat × Text)
    (after : List (Nat × Text)) :
    Text.join ',' ((before ++ piece :: after).map Prod.snd) =
      ahead before ++ Text.join ',' ((piece :: after).map Prod.snd) := by
  induction before with
  | nil => rfl
  | cons first before ih =>
    rw [List.cons_append, List.map_cons, Text.join_cons (by simp), ih, ahead_cons]
    simp

theorem isCut_iff {text : Text} {pieces : List (Nat × Text)} :
    IsCut text pieces ↔ pieces ≠ [] ∧ Text.join ',' (pieces.map Prod.snd) = text ∧
      ArePlaced 0 pieces ∧ ∀ piece ∈ pieces, IsPiece piece.2 := by
  constructor
  · intro h
    refine ⟨h.ne_nil, h.joined, fun before piece after heq => ?_, h.whole⟩
    rw [(h.placed before piece after heq).2, Nat.zero_add]
  · rintro ⟨hne, hjoined, hplaced, hwhole⟩
    refine ⟨hne, hjoined, fun before piece after heq => ⟨?_, ?_⟩, hwhole⟩
    · rw [← hjoined, heq, join_append_cons, List.prefix_append_right_inj]
      rcases after with _ | ⟨next, after⟩
      · exact List.prefix_refl _
      · rw [List.map_cons, Text.join_cons (by simp)]
        exact List.prefix_append _ _
    · rw [hplaced before piece after heq, Nat.zero_add]

theorem split_eq_ok {text : Text} {offset : Nat} {pieces : List (Nat × Text)} :
    split text offset = .ok pieces ↔ cut {} 0 0 [] text = .ok pieces := by
  rw [split]
  rcases cut {} 0 0 [] text with error | found
  · exact iff_of_false (by rintro ⟨⟩) (by rintro ⟨⟩)
  · exact ⟨fun h => congrArg _ (Except.ok.inj h), fun h => congrArg _ (Except.ok.inj h)⟩

/-- A list is cut into the pieces that it can be joined from, each at its byte
position and none of them divisible, and into no others.  It is refused
exactly if it ends inside quotes, or a bracket outside quotes closes more than
was opened, or one stays open. -/
theorem split_eq_ok_iff (text : Text) (offset : Nat) :
    (∀ pieces, split text offset = .ok pieces ↔ IsCut text pieces) ∧
      ((∃ error, split text offset = .error error) ↔
        EndsQuoted text ∨ ClosesTooMuch text ∨ StaysOpen text) := by
  constructor
  · intro pieces
    rw [split_eq_ok, cut_eq_ok_iff, isCut_iff]
    simp only [isPiece_iff]
  · have haccepted : (∃ pieces, split text offset = .ok pieces) ↔
        ¬ EndsQuoted text ∧ ¬ ClosesTooMuch text ∧ ¬ StaysOpen text := by
      simp only [split_eq_ok, exists_cut_iff]
      constructor
      · rintro ⟨nesting, hrun, hclosed⟩
        obtain ⟨hquoted, hopen⟩ := (isClosed_iff hrun).1 hclosed
        exact ⟨hquoted, (foldlM_step_iff.1 hrun).1, hopen⟩
      · rintro ⟨hquoted, hnonneg, hopen⟩
        have hle := closed_le_opened hnonneg
        have hrun : text.foldlM Nesting.step {} = some ⟨opened text - closed text, false⟩ :=
          foldlM_step_iff.2 ⟨hnonneg, Nat.sub_add_cancel hle, by simpa using hquoted⟩
        exact ⟨_, hrun, (isClosed_iff hrun).2 ⟨hquoted, hopen⟩⟩
    have hrefused : (∃ error, split text offset = .error error) ↔
        ¬ ∃ pieces, split text offset = .ok pieces := by
      rcases split text offset with error | pieces
      · exact iff_of_true ⟨error, rfl⟩ (by rintro ⟨_, ⟨⟩⟩)
      · exact iff_of_false (by rintro ⟨_, ⟨⟩⟩) fun h => h ⟨pieces, rfl⟩
    rw [hrefused, haccepted]
    tauto

/-- Commas inside brackets or quotes divide nothing, and positions count
bytes. -/
example : split "ä.eq.1,in.(b,c),\"x,y\"".toList 0 =
    .ok [(0, "ä.eq.1".toList), (8, "in.(b,c)".toList), (17, "\"x,y\"".toList)] := by
  rfl

end QueryCache.TopLevel
