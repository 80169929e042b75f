/-
QueryCache.Proofs.Filter.TopLevel — lists cut into the items that they
were joined from.

`Nesting.through` reads a text none of whose characters separates items.
An item ends as nested as it began, at whatever depth it stands
(`IsItem`), so a list of items is cut at its own commas
(`exists_split_join`), and a list in parentheses is an item again
(`isItem_parenthesized`).
-/
import QueryCache.Filter.TopLevel
import QueryCache.Text.Basic

namespace QueryCache

/-- Items between parentheses with commas between them. -/
def parenthesized (items : List Text) : Text :=
  '(' :: (Text.join ',' items ++ [')'])

namespace TopLevel

/-! ## 1. Texts that separate nothing -/

/-- The nesting behind a text, none when one of its characters separates
items or closes too much. -/
def Nesting.through (nesting : Nesting) : Text → Option Nesting
  | [] => some nesting
  | c :: rest =>
    if nesting.separates c then none else (nesting.step c).bind fun next => next.through rest

theorem Nesting.through_append (nesting : Nesting) (front back : Text) :
    nesting.through (front ++ back) =
      (nesting.through front).bind fun next => next.through back := by
  induction front generalizing nesting with
  | nil => rfl
  | cons c rest ih =>
    rw [List.cons_append, through, through]
    split
    · rfl
    · rw [Option.bind_assoc]
      exact congrArg _ (funext ih)

/-- Such a text is read into the current item. -/
theorem cut_append {nesting next : Nesting} {text : Text} (h : nesting.through text = some next)
    (index start : Nat) (item rest : Text) :
    cut nesting index start item (text ++ rest) =
      cut next (index + Text.byteSize text) start (text.reverse ++ item) rest := by
  induction text generalizing nesting index item with
  | nil =>
    obtain rfl := Option.some.inj h
    rfl
  | cons c cs ih =>
    rw [Nesting.through] at h
    split at h
    · contradiction
    · rename_i hsep
      obtain ⟨after, hstep, hafter⟩ := Option.bind_eq_some_iff.1 h
      rw [List.cons_append, cut, if_neg hsep, hstep]
      simp only
      rw [ih hafter, Text.byteSize, List.reverse_cons, List.append_assoc, Nat.add_assoc]
      rfl

/-! ## 2. Items -/

/-- The text is an item of a list, within any brackets: whatever it opens
it closes, and its own commas stand inside brackets or quotes. -/
def IsItem (text : Text) : Prop :=
  ∀ depth, Nesting.through ⟨depth, false⟩ text = some ⟨depth, false⟩

theorem IsItem.append {front back : Text} (hfront : IsItem front) (hback : IsItem back) :
    IsItem (front ++ back) := by
  intro depth
  rw [Nesting.through_append, hfront depth, Option.bind_some, hback depth]

/-- A character that means nothing to the cut. -/
def isOrdinary (c : Char) : Bool :=
  c != '"' && !opens c && !closes c && c != ','

theorem isItem_of_ordinary {text : Text} (h : ∀ c ∈ text, isOrdinary c = true) : IsItem text := by
  intro depth
  induction text with
  | nil => rfl
  | cons c rest ih =>
    have hc := h c List.mem_cons_self
    simp only [isOrdinary, Bool.and_eq_true, Bool.not_eq_true', bne_iff_ne] at hc
    obtain ⟨⟨⟨hquote, hopens⟩, hcloses⟩, hcomma⟩ := hc
    have hstep : Nesting.step ⟨depth, false⟩ c = some ⟨depth, false⟩ := by
      simp [Nesting.step, hquote, hopens, hcloses]
    rw [Nesting.through, if_neg (by simp [Nesting.separates, hcomma]), hstep, Option.bind_some]
    exact ih fun other hmem => h other (List.mem_cons_of_mem _ hmem)

/-- Inside quotes nothing but a quote means anything. -/
theorem through_quoted {text : Text} (h : '"' ∉ text) (depth : Nat) :
    Nesting.through ⟨depth, true⟩ text = some ⟨depth, true⟩ := by
  induction text with
  | nil => rfl
  | cons c rest ih =>
    rw [List.mem_cons, not_or] at h
    have hstep : Nesting.step ⟨depth, true⟩ c = some ⟨depth, true⟩ := by
      simp [Nesting.step, Ne.symm h.1]
    rw [Nesting.through, if_neg (by simp [Nesting.separates, Nesting.isClosed]), hstep,
      Option.bind_some, ih h.2]

theorem isItem_quoted {text : Text} (h : '"' ∉ text) : IsItem ('"' :: (text ++ ['"'])) := by
  intro depth
  have hopen : Nesting.through ⟨depth, false⟩ ['"'] = some ⟨depth, true⟩ := rfl
  have hclose : Nesting.through ⟨depth, true⟩ ['"'] = some ⟨depth, false⟩ := rfl
  rw [← List.singleton_append, Nesting.through_append, hopen, Option.bind_some,
    Nesting.through_append, through_quoted h, Option.bind_some, hclose]

/-- Within brackets a comma separates nothing. -/
theorem through_join {items : List Text} (h : ∀ item ∈ items, IsItem item) (depth : Nat) :
    Nesting.through ⟨depth + 1, false⟩ (Text.join ',' items) = some ⟨depth + 1, false⟩ := by
  have hcomma : ∀ rest, Nesting.through ⟨depth + 1, false⟩ (',' :: rest) =
      Nesting.through ⟨depth + 1, false⟩ rest := fun _ => rfl
  induction items with
  | nil => rfl
  | cons item rest ih =>
    have hitem := h item List.mem_cons_self (depth + 1)
    rcases rest with _ | ⟨next, rest⟩
    · exact hitem
    · rw [Text.join_cons (by simp), Nesting.through_append, hitem, Option.bind_some, hcomma]
      exact ih fun other hmem => h other (List.mem_cons_of_mem _ hmem)

theorem isItem_parenthesized {items : List Text} (h : ∀ item ∈ items, IsItem item) :
    IsItem (parenthesized items) := by
  intro depth
  have hopen : ∀ rest, Nesting.through ⟨depth, false⟩ ('(' :: rest) =
      Nesting.through ⟨depth + 1, false⟩ rest := by
    intro rest
    rw [Nesting.through, if_neg (by simp [Nesting.separates])]
    rfl
  have hclose : Nesting.through ⟨depth + 1, false⟩ [')'] = some ⟨depth, false⟩ := rfl
  rw [parenthesized, hopen, Nesting.through_append, through_join h, Option.bind_some, hclose]

/-! ## 3. Lists of items -/

/-- A list is cut into the items that it was joined from. -/
theorem exists_cut_join {items : List Text} (hne : items ≠ []) (h : ∀ item ∈ items, IsItem item)
    (index start : Nat) :
    ∃ pieces, cut {} index start [] (Text.join ',' items) = .ok pieces ∧
      pieces.map Prod.snd = items := by
  induction items generalizing index start with
  | nil => exact absurd rfl hne
  | cons item rest ih =>
    have hitem := cut_append (h item List.mem_cons_self 0) index start []
    rcases rest with _ | ⟨next, rest⟩
    · refine ⟨[(start, item)], ?_, rfl⟩
      have hlast := hitem []
      rw [List.append_nil, List.append_nil] at hlast
      have hclosed : Nesting.isClosed {} = true := rfl
      rw [Text.join, hlast, cut, if_pos hclosed, List.reverse_reverse]
    · have hbehind := fun other hmem => h other (List.mem_cons_of_mem _ hmem)
      have hcomma : Nesting.separates {} ',' = true := rfl
      obtain ⟨pieces, hcut, hpieces⟩ := ih (by simp) hbehind
        (index + Text.byteSize item + Char.utf8Size ',')
        (index + Text.byteSize item + Char.utf8Size ',')
      refine ⟨(start, item) :: pieces, ?_, by rw [List.map_cons, hpieces]⟩
      rw [Text.join_cons (by simp), hitem, List.append_nil, cut, if_pos hcomma, hcut,
        List.reverse_reverse]
      rfl

theorem exists_split_join {items : List Text} (hne : items ≠ [])
    (h : ∀ item ∈ items, IsItem item) (offset : Nat) :
    ∃ pieces, split (Text.join ',' items) offset = .ok pieces ∧ pieces.map Prod.snd = items := by
  obtain ⟨pieces, hcut, hpieces⟩ := exists_cut_join hne h 0 0
  exact ⟨pieces, by rw [split, hcut]; rfl, hpieces⟩

/-- What is read of every piece is read of the list. -/
theorem mapM_pieces {α : Type} {read : Nat × Text → Except ParseError α} {spell : α → Text}
    {pieces : List (Nat × Text)} {values : List α} (h : pieces.map Prod.snd = values.map spell)
    (hread : ∀ value ∈ values, ∀ position, read (position, spell value) = .ok value) :
    pieces.mapM read = .ok values := by
  induction values generalizing pieces with
  | nil =>
    obtain rfl := List.map_eq_nil_iff.1 h
    rfl
  | cons value rest ih =>
    obtain ⟨⟨position, text⟩, others, rfl, rfl, hothers⟩ := List.map_eq_cons_iff.1 h
    rw [List.mapM_cons, hread value List.mem_cons_self,
      ih hothers fun other hmem => hread other (List.mem_cons_of_mem _ hmem)]
    rfl

end TopLevel
end QueryCache
