/-
QueryCache.Proofs.Reshape.Built — rows are reshaped slot by slot.

`Slot.fill` is a recursion through the tree of slots.  Seen from one level
it is a plain loop: every slot adds a leaf, and what `reshapeFields` makes
of the rows below it (`fill_eq_foldl`).  All writing goes through
`Fields.insert`, so the names of a reshaped row ascend, whatever the
source is.
-/
import QueryCache.Proofs.Fields
import QueryCache.Reshape.Shape

namespace QueryCache

namespace Slot

/-! ## 1. One slot after the other -/

/-- What the source holds below a slot, reshaped. -/
def below? (source : Fields Json) (segment : Text) (inner : List Slot) : Option Json :=
  if inner.isEmpty then none else related? (reshapeFields inner) source segment

/-- A level with one more slot filled. -/
def Level.addSlot (level : Level) (claimed : List Text) (source : Fields Json) (slot : Slot) :
    Level :=
  let level :=
    if slot.isLeaf then level.addLeaf claimed source slot.segment slot.key else level
  match below? source slot.segment slot.inner with
  | some value => level.addRelation slot.key value
  | none => level

theorem fill_eq_foldl (claimed : List Text) (source : Fields Json) (level : Level)
    (slots : List Slot) :
    fill claimed source level slots =
      slots.foldl (fun level slot => level.addSlot claimed source slot) level := by
  induction slots generalizing level with
  | nil => rw [fill, List.foldl_nil]
  | cons slot rest ih =>
    obtain ⟨segment, key, isLeaf, below⟩ := slot
    rw [List.foldl_cons, ← ih]
    cases below <;> rw [fill] <;> rfl

theorem reshapeFields_eq (slots : List Slot) (source : Fields Json) :
    reshapeFields slots source =
      (slots.foldl (fun level slot => Level.addSlot level (claimed slots) source slot)
        {}).fields := by
  rw [reshapeFields, fill_eq_foldl]

/-! ## 2. Names ascend -/

theorem ascending_addAll (level : Level) (claimed : List Text) (source : Fields Json)
    (h : level.fields.Ascending) : (level.addAll claimed source).fields.Ascending := by
  simp only [Level.addAll]
  generalize level.fields = fields at h ⊢
  induction source generalizing fields with
  | nil => exact h
  | cons entry rest ih =>
    rw [List.foldl_cons]
    apply ih
    split
    · exact h
    · exact Fields.ascending_insert h

theorem ascending_addLeaf (level : Level) (claimed : List Text) (source : Fields Json)
    (segment key : Text) (h : level.fields.Ascending) :
    (level.addLeaf claimed source segment key).fields.Ascending := by
  unfold Level.addLeaf
  split
  · exact h
  · split
    · exact ascending_addAll level claimed source h
    · split
      · exact Fields.ascending_insert h
      · exact h

theorem ascending_addSlot (level : Level) (claimed : List Text) (source : Fields Json)
    (slot : Slot) (h : level.fields.Ascending) :
    (level.addSlot claimed source slot).fields.Ascending := by
  have hleaf : (if slot.isLeaf then level.addLeaf claimed source slot.segment slot.key
      else level).fields.Ascending := by
    split
    · exact ascending_addLeaf level claimed source slot.segment slot.key h
    · exact h
  unfold Level.addSlot
  dsimp only
  split
  · exact Fields.ascending_insert hleaf
  · exact hleaf

theorem ascending_reshapeFields (slots : List Slot) (source : Fields Json) :
    (reshapeFields slots source).Ascending := by
  rw [reshapeFields_eq]
  suffices ∀ (filled : List Slot) (level : Level), level.fields.Ascending →
      (filled.foldl (fun level slot => level.addSlot (claimed slots) source slot)
        level).fields.Ascending from this slots {} Fields.ascending_nil
  intro filled
  induction filled with
  | nil => exact fun _ h => h
  | cons slot rest ih => exact fun level h => ih _ (ascending_addSlot level _ source slot h)

/-! ## 3. Values of all kinds -/

theorem reshape_obj (slots : List Slot) (fields : Fields Json) :
    reshape slots (.obj fields) = .obj (reshapeFields slots fields) := by
  simp only [reshape, Json.mapRows]

theorem ascending_of_reshape {slots : List Slot} {response : Json} {fields : Fields Json}
    (h : reshape slots response = .obj fields) : fields.Ascending := by
  cases response with
  | obj source =>
    rw [reshape_obj, Json.obj.injEq] at h
    exact h ▸ ascending_reshapeFields slots source
  | arr items => simp [reshape] at h
  | _ => simp [reshape, Json.mapRows] at h

end Slot

/-- The names of a denormalized row ascend. -/
theorem ascending_of_denormalize {paths : List Path} {row : Json} {fields : Fields Json}
    (h : denormalize paths row = .obj fields) : fields.Ascending :=
  Slot.ascending_of_reshape h

end QueryCache
