/-
QueryCache.Proofs.Reshape.Level — what a level answers under a name.

The slots of a level are filled one after the other, and a name may be
written more than once.  In the end it answers, in this order, the rows
that a relation has under it, the column that a leaf selects under it, and
what a wildcard takes over (`get?_reshapeFields`, by induction on the
slots, one more at the end).  So the order in which relations and columns
come does not matter to each other.  It matters to a wildcard: a relation
in front of it that has rows under its key keeps it from being read at
all (`ReadsAll`).
-/
import QueryCache.Proofs.Reshape.Built
import QueryCache.Proofs.Reshape.Routes
import QueryCache.Proofs.Text

namespace QueryCache

namespace Slot

/-! ## 1. What one slot does to a name -/

theorem get?_addAll (level : Level) (claimed : List Text) (source : Fields Json) (name : Text) :
    Fields.get? name (level.addAll claimed source).fields =
      (Fields.get? name level.fields).orElse fun _ =>
        if claimed.contains (Segment.bareName (Text.upTo '.' name)) ||
            level.relationKeys.contains name then none
        else Fields.get? name source := by
  simp only [Level.addAll]
  generalize level.fields = fields
  induction source generalizing fields with
  | nil => simp [Fields.get?_nil]
  | cons entry rest ih =>
    obtain ⟨n, value⟩ := entry
    rw [List.foldl_cons, ih, Fields.get?_cons]
    by_cases hname : name = n
    · subst hname
      rcases hskip : (claimed.contains (Segment.bareName (Text.upTo '.' name)) ||
          level.relationKeys.contains name) with _ | _
      · rcases hfound : Fields.get? name fields with _ | found
        · simp [Fields.has, hfound]
        · simp [Fields.has, hfound]
      · simp
    · rw [if_neg hname]
      split
      · rfl
      · rw [Fields.get?_insert_of_ne hname]

section

variable {level : Level} {claimed : List Text} {source : Fields Json} {slot : Slot} {name : Text}

theorem get?_addLeaf (segment key : Text) :
    Fields.get? name (level.addLeaf claimed source segment key).fields =
      if level.relationKeys.contains key then Fields.get? name level.fields
      else if segment = ['*'] then Fields.get? name (level.addAll claimed source).fields
      else if name = key then
        (lookup? source segment).orElse fun _ => Fields.get? name level.fields
      else Fields.get? name level.fields := by
  unfold Level.addLeaf
  split
  · rfl
  · split
    · rfl
    · rcases lookup? source segment with _ | value
      · simp
      · simp [Fields.get?_insert]

theorem relationKeys_addLeaf (segment key : Text) :
    (level.addLeaf claimed source segment key).relationKeys = level.relationKeys := by
  unfold Level.addLeaf Level.addAll
  split
  · rfl
  · split
    · rfl
    · split <;> rfl

/-- The rows below a slot are written over its own value. -/
theorem get?_addSlot :
    Fields.get? name (level.addSlot claimed source slot).fields =
      (if name = slot.key then below? source slot.segment slot.inner else none).orElse fun _ =>
        if slot.isLeaf then
          Fields.get? name (level.addLeaf claimed source slot.segment slot.key).fields
        else Fields.get? name level.fields := by
  have hleaf : Fields.get? name (if slot.isLeaf then
      level.addLeaf claimed source slot.segment slot.key else level).fields =
        if slot.isLeaf then
          Fields.get? name (level.addLeaf claimed source slot.segment slot.key).fields
        else Fields.get? name level.fields := by
    split <;> rfl
  rw [← hleaf, Level.addSlot]
  rcases below? source slot.segment slot.inner with _ | value
  · simp
  · by_cases hname : name = slot.key <;> simp [Level.addRelation, Fields.get?_insert, hname]

theorem relationKeys_addSlot :
    (level.addSlot claimed source slot).relationKeys =
      if (below? source slot.segment slot.inner).isSome then slot.key :: level.relationKeys
      else level.relationKeys := by
  have hleaf : (if slot.isLeaf then level.addLeaf claimed source slot.segment slot.key
      else level).relationKeys = level.relationKeys := by
    split
    · exact relationKeys_addLeaf _ _
    · rfl
  rw [Level.addSlot]
  rcases below? source slot.segment slot.inner with _ | value
  · exact hleaf
  · exact congrArg (slot.key :: ·) hleaf

end

/-! ## 2. What the slots hold for a name -/

/-- The rows that a slot has under a name. -/
def rows? (source : Fields Json) (name : Text) (slot : Slot) : Option Json :=
  if slot.key = name then below? source slot.segment slot.inner else none

/-- The column that a slot selects under a name. -/
def column? (source : Fields Json) (name : Text) (slot : Slot) : Option Json :=
  if slot.isLeaf = true ∧ slot.segment ≠ ['*'] ∧ slot.key = name then
    lookup? source slot.segment
  else none

/-- The slot selects every column of its level. -/
def isWildcard (slot : Slot) : Bool :=
  slot.isLeaf && slot.segment == ['*']

theorem isWildcard_iff {slot : Slot} :
    slot.isWildcard = true ↔ slot.isLeaf = true ∧ slot.segment = ['*'] := by
  rw [isWildcard, Bool.and_eq_true, beq_iff_eq]

/-- Some wildcard is read: no slot in front of it has rows under its key.  The
slots stand from the last one to the first. -/
def readsAll (source : Fields Json) : List Slot → Bool
  | [] => false
  | slot :: front =>
    readsAll source front ||
      (slot.isWildcard && (front.findSome? (rows? source slot.key)).isNone)

/-- The column that a wildcard takes over under a name, if it is read and no
slot claims the column. -/
def takenOver? (claimed : List Text) (source : Fields Json) (name : Text) (slots : List Slot) :
    Option Json :=
  if readsAll source slots.reverse = true ∧
      claimed.contains (Segment.bareName (Text.upTo '.' name)) = false then
    Fields.get? name source
  else none

/-- What the last slot that holds something holds. -/
def last? (read : Slot → Option Json) (slots : List Slot) : Option Json :=
  slots.reverse.findSome? read

theorem last?_concat (read : Slot → Option Json) (slots : List Slot) (slot : Slot) :
    last? read (slots ++ [slot]) = (read slot).or (last? read slots) := by
  rw [last?, List.reverse_append, List.reverse_singleton, List.singleton_append,
    List.findSome?_cons]
  cases read slot <;> rfl

theorem last?_eq_none_iff {read : Slot → Option Json} {slots : List Slot} :
    last? read slots = none ↔ ∀ slot ∈ slots, read slot = none := by
  rw [last?, List.findSome?_eq_none_iff]
  simp only [List.mem_reverse]

/-- It is what any slot holds, when no other one holds something else. -/
theorem last?_eq_some {read : Slot → Option Json} {slots : List Slot} {slot : Slot}
    {value : Json} (hmem : slot ∈ slots) (hvalue : read slot = some value)
    (hsame : ∀ other ∈ slots, ∀ found, read other = some found → found = value) :
    last? read slots = some value := by
  rcases hlast : last? read slots with _ | found
  · rw [last?_eq_none_iff.1 hlast slot hmem] at hvalue
    contradiction
  · obtain ⟨other, hother, hfound⟩ := List.exists_of_findSome?_eq_some hlast
    rw [hsame other (List.mem_reverse.1 hother) found hfound]

theorem readsAll_concat (source : Fields Json) (slots : List Slot) (slot : Slot) :
    readsAll source (slots ++ [slot]).reverse =
      (readsAll source slots.reverse ||
        (slot.isWildcard && (last? (rows? source slot.key) slots).isNone)) := by
  rw [List.reverse_append, List.reverse_singleton, List.singleton_append, readsAll, last?]

/-- A wildcard is read where no slot in front of it has rows under its key. -/
theorem readsAll_iff {source : Fields Json} {slots : List Slot} :
    readsAll source slots.reverse = true ↔ ∃ front star back, slots = front ++ star :: back ∧
      star.isWildcard = true ∧ ∀ slot ∈ front, rows? source star.key slot = none := by
  induction slots using List.reverseRecOn with
  | nil => simp [readsAll]
  | append_singleton slots slot ih =>
    rw [readsAll_concat, Bool.or_eq_true, Bool.and_eq_true, Option.isNone_iff_eq_none,
      last?_eq_none_iff, ih]
    constructor
    · rintro (⟨front, star, back, rfl, hstar, hfront⟩ | ⟨hstar, hfront⟩)
      · exact ⟨front, star, back ++ [slot], by simp, hstar, hfront⟩
      · exact ⟨slots, slot, [], rfl, hstar, hfront⟩
    · rintro ⟨front, star, back, heq, hstar, hfront⟩
      rcases List.eq_nil_or_concat back with rfl | ⟨others, last, rfl⟩
      · obtain ⟨rfl, hslot⟩ := List.append_inj' heq rfl
        obtain rfl := List.head_eq_of_cons_eq hslot
        exact Or.inr ⟨hstar, hfront⟩
      · rw [List.concat_eq_append, ← List.cons_append, ← List.append_assoc] at heq
        obtain ⟨rfl, -⟩ := List.append_inj' heq rfl
        exact Or.inl ⟨front, star, others, rfl, hstar, hfront⟩

/-- Without a wildcard nothing is taken over. -/
theorem takenOver?_eq_none {slots : List Slot}
    (h : ∀ slot ∈ slots, slot.isLeaf = true → slot.segment ≠ ['*']) (claimed : List Text)
    (source : Fields Json) (name : Text) : takenOver? claimed source name slots = none := by
  refine if_neg fun hreads => ?_
  obtain ⟨front, star, back, hslots, hwildcard, -⟩ := readsAll_iff.1 hreads.1
  obtain ⟨hleaf, hsegment⟩ := isWildcard_iff.1 hwildcard
  exact h star (by simp [hslots]) hleaf hsegment

/-- A slot that is no wildcard, or one that is not read, takes nothing
over. -/
theorem takenOver?_concat {claimed : List Text} {source : Fields Json} {name : Text}
    {slots : List Slot} {slot : Slot}
    (h : slot.isWildcard = true → last? (rows? source slot.key) slots ≠ none) :
    takenOver? claimed source name (slots ++ [slot]) = takenOver? claimed source name slots := by
  have hreads : readsAll source (slots ++ [slot]).reverse = readsAll source slots.reverse := by
    rw [readsAll_concat]
    rcases hwildcard : slot.isWildcard with _ | _
    · rw [Bool.false_and, Bool.or_false]
    · obtain ⟨found, hfound⟩ := Option.ne_none_iff_exists'.1 (h hwildcard)
      rw [hfound, Option.isNone_some, Bool.and_false, Bool.or_false]
  rw [takenOver?, takenOver?, hreads]

/-- A wildcard that is read takes over whatever no slot claims. -/
theorem takenOver?_concat_wildcard {claimed : List Text} {source : Fields Json} {name : Text}
    {slots : List Slot} {slot : Slot} (hwildcard : slot.isWildcard = true)
    (hfree : last? (rows? source slot.key) slots = none) :
    takenOver? claimed source name (slots ++ [slot]) =
      if claimed.contains (Segment.bareName (Text.upTo '.' name)) then none
      else Fields.get? name source := by
  rw [takenOver?, readsAll_concat, hwildcard, hfree]
  cases claimed.contains (Segment.bareName (Text.upTo '.' name)) <;> simp

/-! ## 3. What the level answers -/

/-- The relations that were written are those that have rows. -/
theorem mem_relationKeys_iff {claimed : List Text} {source : Fields Json} {slots : List Slot}
    {name : Text} :
    name ∈ (slots.foldl (fun level slot => Level.addSlot level claimed source slot)
        {}).relationKeys ↔
      last? (rows? source name) slots ≠ none := by
  induction slots using List.reverseRecOn with
  | nil => simp [last?]
  | append_singleton slots slot ih =>
    rw [List.foldl_append, List.foldl_cons, List.foldl_nil, relationKeys_addSlot, last?_concat,
      rows?]
    by_cases hname : slot.key = name
    · rcases hbelow : below? source slot.segment slot.inner with _ | value
      · simpa [hname] using ih
      · simp [hname]
    · rcases hbelow : below? source slot.segment slot.inner with _ | value
      · simpa [hname] using ih
      · simpa [hname, Ne.symm hname] using ih

/-- Rows come before columns, and columns before what a wildcard takes
over. -/
theorem get?_foldl_addSlot {claimed : List Text} {source : Fields Json} {slots : List Slot}
    {name : Text} :
    Fields.get? name (slots.foldl (fun level slot => Level.addSlot level claimed source slot)
        {}).fields =
      ((last? (rows? source name) slots).or (last? (column? source name) slots)).or
        (takenOver? claimed source name slots) := by
  induction slots using List.reverseRecOn with
  | nil => simp [last?, takenOver?, readsAll, Fields.get?_nil]
  | append_singleton slots slot ih =>
    have hkeys := fun name => @mem_relationKeys_iff claimed source slots name
    rw [List.foldl_append, List.foldl_cons, List.foldl_nil, last?_concat, last?_concat]
    generalize slots.foldl (fun level slot => Level.addSlot level claimed source slot) {} = level
      at ih hkeys ⊢
    have hrows : (if name = slot.key then below? source slot.segment slot.inner else none) =
        rows? source name slot := by
      simp only [rows?, eq_comm]
    rw [get?_addSlot, hrows]
    rcases hown : rows? source name slot with _ | value
    swap
    · rfl
    rw [Option.orElse_none, Option.none_or]
    by_cases hleaf : slot.isLeaf = true
    swap
    · have hwildcard : ¬ slot.isWildcard = true := fun h => hleaf (isWildcard_iff.1 h).1
      rw [if_neg hleaf, takenOver?_concat fun h => absurd h hwildcard, ih, column?,
        if_neg fun h => hleaf h.1, Option.none_or]
    rw [if_pos hleaf, get?_addLeaf]
    by_cases hmem : slot.key ∈ level.relationKeys
    · -- The leaf is not read, for its key is that of a relation.
      have hrelation := (hkeys slot.key).1 hmem
      rw [if_pos (by simpa using hmem), takenOver?_concat fun _ => hrelation, ih]
      by_cases hname : slot.key = name
      · obtain ⟨found, hfound⟩ := Option.ne_none_iff_exists'.1 hrelation
        rw [← hname, hfound]
        rfl
      · rw [column?, if_neg fun h => hname h.2.2, Option.none_or]
    · have hfree : last? (rows? source slot.key) slots = none := by
        by_contra hne
        exact hmem ((hkeys slot.key).2 hne)
      rw [if_neg (by simpa using hmem)]
      by_cases hstar : slot.segment = ['*']
      · -- The wildcard takes over what is not there yet.
        have hcolumn : column? source name slot = none := if_neg fun h => h.2.1 hstar
        rw [if_pos hstar, get?_addAll, ih, hcolumn, Option.none_or,
          takenOver?_concat_wildcard (isWildcard_iff.2 ⟨hleaf, hstar⟩) hfree, takenOver?]
        rcases hrelation : last? (rows? source name) slots with _ | found
        · have hnot : name ∉ level.relationKeys := fun h => (hkeys name).1 h hrelation
          cases last? (column? source name) slots <;>
            cases claimed.contains (Segment.bareName (Text.upTo '.' name)) <;>
            cases readsAll source slots.reverse <;> cases Fields.get? name source <;> simp [hnot]
        · rfl
      · have hwildcard : ¬ slot.isWildcard = true := fun h => hstar (isWildcard_iff.1 h).2
        rw [if_neg hstar, takenOver?_concat fun h => absurd h hwildcard, ih]
        by_cases hname : slot.key = name
        · rw [if_pos hname.symm, column?, if_pos ⟨hleaf, hstar, hname⟩, ← hname, hfree]
          cases lookup? source slot.segment <;> rfl
        · rw [if_neg (Ne.symm hname), column?, if_neg fun h => hname h.2.2, Option.none_or]

/-- So it is for the row in the shape of the slots. -/
theorem get?_reshapeFields (slots : List Slot) (source : Fields Json) (name : Text) :
    Fields.get? name (reshapeFields slots source) =
      ((last? (rows? source name) slots).or (last? (column? source name) slots)).or
        (takenOver? (claimed slots) source name slots) := by
  rw [reshapeFields_eq, get?_foldl_addSlot]

end Slot
end QueryCache
