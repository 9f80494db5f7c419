import Mathlib.Data.List.Nodup
import RegisterFile.Plan

set_option autoImplicit false

/-!
# Repeated keys by position

The search for a repeated key keeps the elements it has passed and looks each further one up among
them. What it finds is what a comparison of all pairs of positions finds: the first position whose
key an earlier one has, behind that earlier one.

## Main definitions

* `Repeats` - the elements at two positions have the same key.
* `FirstRepeat` - no pair of positions that repeats a key ends earlier.

## Main results

* `firstRepeat?_eq_some` - what the search finds, as a division of the list.
* `exists_firstRepeat_of_firstRepeat?` - what the search finds, by positions.
* `FirstRepeat.unique` - only one pair of positions is the first to repeat a key.
-/

namespace RegisterFile

variable {α κ : Type} (key : α → κ)

/-- The elements at the positions `i < j` have the same key. -/
def Repeats (xs : List α) (i j : Nat) : Prop :=
  i < j ∧ ∃ a b, xs[i]? = some a ∧ xs[j]? = some b ∧ key a = key b

/-- The position `j` repeats the key of the position `i`, and no position before `j` repeats one. -/
def FirstRepeat (xs : List α) (i j : Nat) : Prop :=
  Repeats key xs i j ∧ ∀ i' j', Repeats key xs i' j' → j ≤ j'

variable {key} {xs : List α}

/-- Keys are pairwise different exactly if no two positions repeat one. -/
lemma nodup_map_iff_not_repeats : (xs.map key).Nodup ↔ ∀ i j, ¬ Repeats key xs i j := by
  rw [List.nodup_iff_getElem?_ne_getElem?]
  constructor
  · rintro h i j ⟨hij, a, b, ha, hb, hab⟩
    have hj : j < (xs.map key).length := by
      rw [List.length_map]
      exact (List.getElem?_eq_some_iff.mp hb).1
    refine h i j hij hj ?_
    simp [ha, hb, hab]
  · intro h i j hij hj heq
    rw [List.length_map] at hj
    rw [List.getElem?_map, List.getElem?_map, List.getElem?_eq_getElem hj,
      List.getElem?_eq_getElem (Nat.lt_trans hij hj)] at heq
    exact h i j ⟨hij, xs[i], xs[j], List.getElem?_eq_getElem _, List.getElem?_eq_getElem _,
      by simpa using heq⟩

/-- The first pair of positions that repeats a key is unique.

**Proof sketch.** Both pairs end at the same position, since neither may end before the other. Were
their starts different, the two starts would repeat the same key and end still earlier. -/
theorem FirstRepeat.unique {i j i' j' : Nat} (h : FirstRepeat key xs i j)
    (h' : FirstRepeat key xs i' j') : i = i' ∧ j = j' := by
  obtain ⟨hrep, hmin⟩ := h
  obtain ⟨hrep', hmin'⟩ := h'
  have hj : j = j' := Nat.le_antisymm (hmin _ _ hrep') (hmin' _ _ hrep)
  subst hj
  obtain ⟨hij, a, b, ha, hb, hab⟩ := hrep
  obtain ⟨hij', a', b', ha', hb', hab'⟩ := hrep'
  obtain rfl : b = b' := Option.some.inj (hb.symm.trans hb')
  refine ⟨?_, rfl⟩
  rcases Nat.lt_trichotomy i i' with hlt | heq | hlt
  · have := hmin i i' ⟨hlt, a, a', ha, ha', hab.trans hab'.symm⟩
    omega
  · exact heq
  · have := hmin i' i ⟨hlt, a', a, ha', ha, hab'.trans hab.symm⟩
    omega

variable [DecidableEq κ]

/-- What the search finds behind the elements `seen`: the first element whose key one of those has
that come before it, where all of them have different keys. -/
lemma repeatAfter?_eq_some {seen : List α} {a b : α} (hseen : (seen.map key).Nodup)
    (h : repeatAfter? key seen xs = some (a, b)) :
    ∃ before after, xs = before ++ b :: after ∧ ((before.reverse ++ seen).map key).Nodup ∧
      a ∈ before.reverse ++ seen ∧ key a = key b := by
  induction xs generalizing seen with
  | nil => simp [repeatAfter?] at h
  | cons x xs ih =>
    unfold repeatAfter? at h
    split at h
    · rename_i y hy
      obtain ⟨rfl, rfl⟩ : y = a ∧ x = b := by simpa using h
      exact ⟨[], xs, rfl, hseen, List.mem_of_find?_eq_some hy, by simpa using List.find?_some hy⟩
    · rename_i hnone
      have hx : ∀ y ∈ seen, key y ≠ key x := by simpa using hnone
      have hnodup : ((x :: seen).map key).Nodup := by
        rw [List.map_cons, List.nodup_cons]
        refine ⟨fun hmem => ?_, hseen⟩
        obtain ⟨y, hy, hyx⟩ := List.mem_map.mp hmem
        exact hx y hy hyx
      obtain ⟨before, after, rfl, hbefore, ha, hab⟩ := ih hnodup h
      refine ⟨x :: before, after, rfl, ?_, ?_, hab⟩
      · simpa using hbefore
      · simpa using ha

/-- What the search finds: an element whose key one of those before it has, which themselves have
different keys. -/
theorem firstRepeat?_eq_some {a b : α} (h : firstRepeat? key xs = some (a, b)) :
    ∃ before after, xs = before ++ b :: after ∧ (before.map key).Nodup ∧ a ∈ before ∧
      key a = key b := by
  obtain ⟨before, after, hxs, hnodup, ha, hab⟩ := repeatAfter?_eq_some (by simp) h
  refine ⟨before, after, hxs, ?_, by simpa using ha, hab⟩
  rw [List.append_nil, List.map_reverse, List.nodup_reverse] at hnodup
  exact hnodup

/-- What the search finds stands at the first pair of positions that repeats a key. -/
theorem exists_firstRepeat_of_firstRepeat? {a b : α} (h : firstRepeat? key xs = some (a, b)) :
    ∃ i j, FirstRepeat key xs i j ∧ xs[i]? = some a ∧ xs[j]? = some b := by
  obtain ⟨before, after, rfl, hnodup, ha, hab⟩ := firstRepeat?_eq_some h
  obtain ⟨i, hi, rfl⟩ := List.mem_iff_getElem.mp ha
  have hai : (before ++ b :: after)[i]? = some before[i] := by
    rw [List.getElem?_append_left hi, List.getElem?_eq_getElem hi]
  have hbj : (before ++ b :: after)[before.length]? = some b := by simp
  refine ⟨i, before.length, ⟨⟨hi, _, _, hai, hbj, hab⟩, ?_⟩, hai, hbj⟩
  rintro i' j' ⟨hij, a', b', ha', hb', hab'⟩
  by_contra hle
  have hj : j' < before.length := Nat.lt_of_not_le hle
  rw [List.getElem?_append_left hj] at hb'
  rw [List.getElem?_append_left (Nat.lt_trans hij hj)] at ha'
  exact nodup_map_iff_not_repeats.mp hnodup i' j' ⟨hij, a', b', ha', hb', hab'⟩

end RegisterFile
