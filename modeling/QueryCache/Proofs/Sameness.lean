/-
QueryCache.Proofs.Sameness — the equality of the cache is an equivalence.

`Json.sameAs` compares values place by place and takes both zeros for one
number; it is symmetric (`Json.sameAs_comm`) and transitive
(`Json.sameAs_trans`).  So sharing primary keys is symmetric and
transitive too, and a row shares its keys with itself when it has them all.
-/
import QueryCache.Cache.RowChange

namespace QueryCache

/-! ## 1. Values -/

theorem Number.sameAs_trans {l m n : Number} (hlm : l.sameAs m = true)
    (hmn : m.sameAs n = true) : l.sameAs n = true := by
  cases l <;> cases m <;> cases n <;> simp_all [Number.sameAs]

namespace Json

mutual

theorem sameAs_comm : (a b : Json) → a.sameAs b = b.sameAs a
  | null, b => by cases b <;> rfl
  | bool x, b => by cases b <;> simp [sameAs, BEq.comm]
  | num m, b => by cases b <;> simp [sameAs, Number.sameAs_comm]
  | str s, b => by cases b <;> simp [sameAs, BEq.comm]
  | arr items, b => by
    cases b with
    | arr others => simpa only [sameAs] using sameItems_comm items others
    | _ => rfl
  | obj fields, b => by
    cases b with
    | obj others => simpa only [sameAs] using sameFields_comm fields others
    | _ => rfl

theorem sameItems_comm : (as bs : List Json) → sameItems as bs = sameItems bs as
  | [], bs => by cases bs <;> rfl
  | a :: as, bs => by
    cases bs with
    | nil => rfl
    | cons b bs => simp only [sameItems, sameAs_comm a b, sameItems_comm as bs]

theorem sameFields_comm : (as bs : List (Text × Json)) → sameFields as bs = sameFields bs as
  | [], bs => by cases bs <;> rfl
  | (k, a) :: as, bs => by
    cases bs with
    | nil => rfl
    | cons field bs =>
      obtain ⟨l, b⟩ := field
      simp only [sameFields, sameAs_comm a b, sameFields_comm as bs, BEq.comm (a := k)]

end

mutual

theorem sameAs_trans : (a b c : Json) → a.sameAs b = true → b.sameAs c = true →
    a.sameAs c = true
  | null, b, c => by cases b <;> cases c <;> simp [sameAs]
  | bool x, b, c => by cases b <;> cases c <;> simp_all [sameAs]
  | num m, b, c => by
    cases b <;> cases c <;> simp only [sameAs, Bool.false_eq_true, false_implies, implies_true]
    exact Number.sameAs_trans
  | str s, b, c => by cases b <;> cases c <;> simp_all [sameAs]
  | arr items, b, c => by
    cases b <;> cases c <;> simp only [sameAs, Bool.false_eq_true, false_implies, implies_true]
    exact sameItems_trans items _ _
  | obj fields, b, c => by
    cases b <;> cases c <;> simp only [sameAs, Bool.false_eq_true, false_implies, implies_true]
    exact sameFields_trans fields _ _

theorem sameItems_trans : (as bs cs : List Json) → sameItems as bs = true →
    sameItems bs cs = true → sameItems as cs = true
  | [], bs, cs => by cases bs <;> cases cs <;> simp [sameItems]
  | a :: as, bs, cs => by
    cases bs <;> cases cs <;>
      simp only [sameItems, Bool.false_eq_true, false_implies, implies_true, Bool.and_eq_true]
    rintro ⟨hab, habs⟩ ⟨hbc, hbcs⟩
    exact ⟨sameAs_trans a _ _ hab hbc, sameItems_trans as _ _ habs hbcs⟩

theorem sameFields_trans : (as bs cs : List (Text × Json)) → sameFields as bs = true →
    sameFields bs cs = true → sameFields as cs = true
  | [], bs, cs => by cases bs <;> cases cs <;> simp [sameFields]
  | (k, a) :: as, bs, cs => by
    cases bs <;> cases cs <;>
      simp only [sameFields, Bool.false_eq_true, false_implies, implies_true, Bool.and_eq_true,
        beq_iff_eq]
    rintro ⟨⟨hkl, hab⟩, habs⟩ ⟨⟨hlm, hbc⟩, hbcs⟩
    exact ⟨⟨hkl.trans hlm, sameAs_trans a _ _ hab hbc⟩, sameFields_trans as _ _ habs hbcs⟩

end

end Json

/-! ## 2. Rows with the same keys -/

/-- The values under every key are there on both sides, and the same. -/
theorem sharesKeys_iff {primaryKeys : List Text} {row input : Json} :
    sharesKeys primaryKeys row input = true ↔
      ∀ key ∈ primaryKeys, ∃ x y, row.get? key = some x ∧ input.get? key = some y ∧
        x.sameAs y = true := by
  unfold sharesKeys
  rw [List.all_eq_true]
  refine forall₂_congr fun key _ => ?_
  rcases row.get? key with _ | x <;> rcases input.get? key with _ | y <;> simp

theorem sharesKeys_comm (primaryKeys : List Text) (a b : Json) :
    sharesKeys primaryKeys a b = sharesKeys primaryKeys b a := by
  unfold sharesKeys
  congr 1
  funext key
  rcases a.get? key with _ | x <;> rcases b.get? key with _ | y <;> simp [Json.sameAs_comm]

theorem sharesKeys_trans {primaryKeys : List Text} {a b c : Json}
    (hab : sharesKeys primaryKeys a b = true) (hbc : sharesKeys primaryKeys b c = true) :
    sharesKeys primaryKeys a c = true := by
  rw [sharesKeys_iff] at hab hbc ⊢
  intro key hkey
  obtain ⟨x, y, hx, hy, hxy⟩ := hab key hkey
  obtain ⟨y', z, hy', hz, hyz⟩ := hbc key hkey
  rw [hy, Option.some.injEq] at hy'
  subst hy'
  exact ⟨x, z, hx, hz, Json.sameAs_trans _ _ _ hxy hyz⟩

/-- Keys are shared only with an input that has them all. -/
theorem isSome_get?_of_sharesKeys {primaryKeys : List Text} {row input : Json}
    (h : sharesKeys primaryKeys row input = true) :
    ∀ key ∈ primaryKeys, (input.get? key).isSome = true := by
  intro key hkey
  obtain ⟨-, y, -, hy, -⟩ := sharesKeys_iff.1 h key hkey
  rw [hy]
  rfl

/-- A row shares its keys with itself when it has them all. -/
theorem sharesKeys_self {primaryKeys : List Text} {row : Json}
    (h : ∀ key ∈ primaryKeys, (row.get? key).isSome = true) :
    sharesKeys primaryKeys row row = true := by
  rw [sharesKeys_iff]
  intro key hkey
  obtain ⟨x, hx⟩ := Option.isSome_iff_exists.1 (h key hkey)
  exact ⟨x, x, hx, hx, Json.sameAs_refl x⟩

/-- Rows with one and the same value under every key share the keys of the
same inputs. -/
theorem sharesKeys_congr {primaryKeys : List Text} {a b : Json}
    (h : ∀ key ∈ primaryKeys, a.get? key = b.get? key) (input : Json) :
    sharesKeys primaryKeys a input = sharesKeys primaryKeys b input := by
  unfold sharesKeys
  rw [Bool.eq_iff_iff, List.all_eq_true, List.all_eq_true]
  exact forall₂_congr fun key hkey => by rw [h key hkey]

/-- Rows that share their keys with one row share them with the same
rows. -/
theorem sharesKeys_congr_of_shared {primaryKeys : List Text} {a b : Json}
    (h : sharesKeys primaryKeys a b = true) (c : Json) :
    sharesKeys primaryKeys a c = sharesKeys primaryKeys b c := by
  rw [Bool.eq_iff_iff]
  exact ⟨sharesKeys_trans (sharesKeys_comm _ a b ▸ h), sharesKeys_trans h⟩

end QueryCache
