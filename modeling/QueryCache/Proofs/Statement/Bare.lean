/-
QueryCache.Proofs.Statement.Bare — statements without aliases.

A bare entry declares its segment and nothing else, so the field that it
spells answers under the name that the segment refers to.  When no two
entries of a level refer to one name, a chain of segments leads to one
place of the statement at most.
-/
import Mathlib.Data.List.Nodup
import QueryCache.Proofs.Select.Chains
import QueryCache.Proofs.Select.Written

namespace QueryCache

/-- The entry that declares a segment and nothing else. -/
def Entry.bare (segment : Text) : Entry :=
  ⟨segment, segment, none⟩

/-- The entry declares a plain segment and nothing else. -/
def Entry.IsBare (entry : Entry) : Prop :=
  Segment.isPlain entry.path = true ∧ entry = bare entry.path

namespace GroupedPath

/-- The name that an entry refers to. -/
def name (grouped : GroupedPath) : Text :=
  Segment.bareName grouped.entry.path

/-- Whether an entry is a relation, and its segment. -/
def heading : GroupedPath → Bool × Text
  | leaf entry => (false, entry.path)
  | nested entry _ => (true, entry.path)

theorem snd_heading (grouped : GroupedPath) : grouped.heading.2 = grouped.entry.path := by
  cases grouped <;> rfl

mutual

/-- The entry and all below it are bare, and no relation is empty. -/
def IsBare : GroupedPath → Prop
  | leaf entry => entry.IsBare
  | nested entry paths => entry.IsBare ∧ paths ≠ [] ∧ AreBare paths

def AreBare : List GroupedPath → Prop
  | [] => True
  | grouped :: rest => IsBare grouped ∧ AreBare rest

end

mutual

/-- No two entries of a level below refer to one name. -/
def DistinctNames : GroupedPath → Prop
  | leaf _ => True
  | nested _ paths => DistinctNamesOf paths

/-- Neither do the entries of this level. -/
def DistinctNamesOf : List GroupedPath → Prop
  | [] => True
  | grouped :: rest =>
    DistinctNames grouped ∧ (∀ other ∈ rest, other.name ≠ grouped.name) ∧ DistinctNamesOf rest

end

mutual

/-- Distinctness is checked name by name. -/
def decidableDistinctNames : (grouped : GroupedPath) → Decidable grouped.DistinctNames
  | leaf _ => isTrue trivial
  | nested _ paths => decidableDistinctNamesOf paths

def decidableDistinctNamesOf : (paths : List GroupedPath) → Decidable (DistinctNamesOf paths)
  | [] => isTrue trivial
  | grouped :: rest =>
    @instDecidableAnd _ _ (decidableDistinctNames grouped)
      (@instDecidableAnd _ _ inferInstance (decidableDistinctNamesOf rest))

end

instance : DecidablePred DistinctNamesOf := decidableDistinctNamesOf

/-- The chain of segments leads through relations to a leaf. -/
def LeadsTo : List Text → List GroupedPath → Prop
  | [], _ => False
  | [segment], paths => ∃ entry, leaf entry ∈ paths ∧ entry.path = segment
  | segment :: next :: rest, paths =>
    ∃ entry inner, nested entry inner ∈ paths ∧ entry.path = segment ∧
      LeadsTo (next :: rest) inner

/-! ## 1. Bare entries -/

theorem areBare_iff {paths : List GroupedPath} :
    AreBare paths ↔ ∀ grouped ∈ paths, IsBare grouped := by
  induction paths with
  | nil => simp [AreBare]
  | cons grouped rest ih => simp [AreBare, ih]

theorem isBare_entry {grouped : GroupedPath} (h : grouped.IsBare) : grouped.entry.IsBare := by
  cases grouped with
  | leaf entry =>
    rw [IsBare] at h
    exact h
  | nested entry paths =>
    rw [IsBare] at h
    exact h.1

theorem isPlainEntry_bare {entry : Entry} (h : entry.IsBare) : IsPlainEntry entry := by
  refine isPlainEntry_segment ?_
  rw [h.2]
  exact h.1

mutual

/-- What is bare is plain. -/
theorem isPlain_of_isBare : (grouped : GroupedPath) → grouped.IsBare → grouped.IsPlain
  | leaf entry, h => by
    rw [IsBare] at h
    rw [IsPlain]
    exact isPlainEntry_bare h
  | nested entry paths, h => by
    rw [IsBare] at h
    rw [IsPlain]
    exact ⟨isPlainEntry_bare h.1, h.2.1, arePlain_of_areBare paths h.2.2⟩

theorem arePlain_of_areBare : (paths : List GroupedPath) → AreBare paths → ArePlain paths
  | [], _ => by rw [ArePlain]; trivial
  | grouped :: rest, h => by
    rw [AreBare] at h
    rw [ArePlain]
    exact ⟨isPlain_of_isBare grouped h.1, arePlain_of_areBare rest h.2⟩

end

/-- A bare statement is read back. -/
theorem selectFields_bare {paths : List GroupedPath} (hne : paths ≠ []) (h : AreBare paths) :
    selectFields (statement paths) = .ok (toFields paths) :=
  selectFields_statement hne (arePlain_of_areBare paths h)

/-- The head that a plain segment spells. -/
theorem ofWritten_segment {segment : Text} (h : Segment.isPlain segment = true) :
    (Head.ofWritten segment).segment = segment ∧
      (Head.ofWritten segment).effectiveName = Segment.bareName segment := by
  have hjoin := Text.join_splitOn '!' segment
  rcases hparts : Text.splitOn '!' segment with _ | ⟨name, hints⟩
  · exact absurd hparts (Text.splitOn_ne_nil _ _)
  · have hhead : Head.ofWritten segment = ⟨segment, none, name, hints⟩ := by
      simp only [Head.ofWritten, Segment.splitAlias_of_isPlain h, hparts]
    rw [hparts] at hjoin
    have hplain : (⟨segment, none, name, hints⟩ : Head).IsPlain := by
      rw [Segment.isPlain, hparts, List.all_cons, Bool.and_eq_true, List.all_eq_true] at h
      exact ⟨by simp, h.1, h.2⟩
    have hsegment : (⟨segment, none, name, hints⟩ : Head).segment = segment := hjoin
    rw [hhead]
    refine ⟨hsegment, ?_⟩
    rw [Head.effectiveName_eq hplain, Segment.bareName_of_isPlain h]
    have hmark := Head.not_mem_of_isIdentifier hplain.name (c := '!') (by decide)
    exact (congrArg (Text.upTo '!') hsegment ▸ Head.upTo_segment hmark).symm

/-- A bare entry spells a field with its segment, which answers under the
name that it refers to. -/
theorem head_toField {grouped : GroupedPath} (h : grouped.IsBare) :
    grouped.toField.head.segment = grouped.entry.path ∧
      grouped.toField.head.effectiveName = grouped.name := by
  have hentry := isBare_entry h
  have hdeclaration : grouped.entry.declaration = grouped.entry.path :=
    congrArg Entry.declaration hentry.2
  have hhead : grouped.toField.head = Head.ofWritten grouped.entry.declaration := by
    cases grouped <;> rfl
  rw [hhead, hdeclaration]
  exact ofWritten_segment hentry.1

theorem responseKey_eq {grouped : GroupedPath} (h : grouped.IsBare) :
    grouped.responseKey = grouped.name := by
  have halias : grouped.entry.aliasName = none :=
    congrArg Entry.aliasName (isBare_entry h).2
  rw [responseKey, halias]
  rfl

theorem LeadsTo.ne_nil {chain : List Text} {paths : List GroupedPath} (h : LeadsTo chain paths) :
    paths ≠ [] := by
  match chain with
  | [] => exact h.elim
  | [segment] =>
    obtain ⟨entry, hmem, -⟩ := h
    exact List.ne_nil_of_mem hmem
  | segment :: next :: rest =>
    obtain ⟨entry, inner, hmem, -⟩ := h
    exact List.ne_nil_of_mem hmem

/-! ## 2. Distinct names -/

theorem pairwise_of_distinctNamesOf {paths : List GroupedPath} (h : DistinctNamesOf paths) :
    paths.Pairwise fun a b => a.name ≠ b.name := by
  induction paths with
  | nil => exact List.Pairwise.nil
  | cons grouped rest ih =>
    rw [DistinctNamesOf] at h
    exact List.pairwise_cons.2 ⟨fun other hmem => (h.2.1 other hmem).symm, ih h.2.2⟩

theorem distinctNames_of_mem {paths : List GroupedPath} (h : DistinctNamesOf paths)
    {grouped : GroupedPath} (hmem : grouped ∈ paths) : grouped.DistinctNames := by
  induction paths with
  | nil => contradiction
  | cons first rest ih =>
    rw [DistinctNamesOf] at h
    rcases List.mem_cons.1 hmem with rfl | hmem
    · exact h.1
    · exact ih h.2.2 hmem

theorem distinctNamesOf_append {front back : List GroupedPath}
    (h : DistinctNamesOf (front ++ back)) : DistinctNamesOf front ∧ DistinctNamesOf back := by
  induction front with
  | nil => exact ⟨trivial, h⟩
  | cons first rest ih =>
    rw [List.cons_append, DistinctNamesOf] at h
    rw [DistinctNamesOf]
    obtain ⟨hrest, hback⟩ := ih h.2.2
    exact ⟨⟨h.1, fun other hmem => h.2.1 other (List.mem_append_left _ hmem), hrest⟩, hback⟩

/-- Entries of a level with one name are the same entry. -/
theorem eq_of_name_eq {paths : List GroupedPath} (h : DistinctNamesOf paths)
    {a b : GroupedPath} (ha : a ∈ paths) (hb : b ∈ paths) (hname : a.name = b.name) : a = b :=
  List.inj_on_of_nodup_map (List.pairwise_map.2 (pairwise_of_distinctNamesOf h)) ha hb hname

end GroupedPath
end QueryCache
