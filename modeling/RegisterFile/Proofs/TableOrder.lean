import RegisterFile.Proofs.GenerationLimits
import RegisterFile.Proofs.RelatedPlans
import RegisterFile.Proofs.Text.ByteOrder

set_option autoImplicit false

/-!
# The order of register tables

A register table has one line for each register of its plan, in the order that is asked for. No two
registers of a plan share an address or a label, so that sorting by either is strict, and a table
that is sorted depends only on which registers there are and not on the order of their declaration.

## Main definitions

* `Sorting.Arranged` - what an order asks for.

## Main results

* `Plan.arranged_sorted` - the registers of a table stand in the order that is asked for.
* `Plan.sorted_eq_of_perm` - a sorted table does not depend on the order of declaration.
* `registerTable_arranged` - the lines of a table are those of the registers, in that order.
-/

namespace RegisterFile

/-! ## Sorting by a key -/

section Keys

variable {α κ : Type} [LinearOrder κ] {key : α → κ} {xs ys : List α}

/-- Elements whose keys differ are sorted strictly. -/
lemma pairwise_mergeSort_of_nodup (h : (xs.map key).Nodup) :
    (xs.mergeSort fun a b => decide (key a ≤ key b)).Pairwise fun a b => key a < key b := by
  have hsorted : (xs.mergeSort fun a b => decide (key a ≤ key b)).Pairwise
      fun a b => decide (key a ≤ key b) = true := by
    refine List.pairwise_mergeSort ?_ ?_ xs
    · intro a b c hab hbc
      simp only [decide_eq_true_eq] at hab hbc ⊢
      exact hab.trans hbc
    · intro a b
      simp only [Bool.or_eq_true, decide_eq_true_eq]
      exact le_total _ _
  have hdiffer : (xs.mergeSort fun a b => decide (key a ≤ key b)).Pairwise
      fun a b => key a ≠ key b :=
    List.pairwise_map.mp (((List.mergeSort_perm xs _).map key).nodup_iff.mpr h)
  refine (hsorted.and hdiffer).imp ?_
  rintro a b ⟨hle, hne⟩
  exact lt_of_le_of_ne (of_decide_eq_true hle) hne

/-- Lists with the same elements are the same if both are sorted strictly. -/
lemma eq_of_perm_of_pairwise_lt (h : xs.Perm ys) (hxs : xs.Pairwise fun a b => key a < key b)
    (hys : ys.Pairwise fun a b => key a < key b) : xs = ys := by
  refine List.Perm.eq_of_pairwise ?_ hxs hys h
  intro a b _ _ hab hba
  exact absurd hba (lt_asymm hab)

end Keys

/-! ## The registers of a table -/

/-- What an order asks of the registers of a table, which are given in the order of their
declaration first. Labels are compared by their UTF-8 bytes. -/
def Sorting.Arranged (registers : List Register) : Sorting → List Register → Prop
  | .preserve, rs => rs = registers
  | .address, rs => rs.Pairwise fun a b => a.address < b.address
  | .alpha, rs => rs.Pairwise fun a b =>
      List.Lex (· < ·) (Text.utf8Bytes a.label) (Text.utf8Bytes b.label)

namespace Plan

variable (p : Plan)

/-- Sorting by address compares addresses as numbers. -/
lemma sorted_address :
    p.sorted .address =
      p.registers.mergeSort fun a b => decide (a.address.toNat ≤ b.address.toNat) := by
  simp only [sorted, UInt64.le_iff_toNat_le]

/-- Sorting by label puts no label in front of a lesser one. -/
lemma sorted_alpha :
    p.sorted .alpha = p.registers.mergeSort fun a b => decide (a.label ≤ b.label) := by
  simp only [sorted, ← not_lt, decide_not]

/-- Sorted by address, addresses increase strictly. -/
lemma pairwise_sorted_address :
    (p.sorted .address).Pairwise fun a b => a.address.toNat < b.address.toNat := by
  rw [sorted_address]
  refine pairwise_mergeSort_of_nodup ?_
  have h := p.admissible.addresses_nodup.map fun _ _ => UInt64.toNat_inj.mp
  rwa [List.map_map] at h

/-- Sorted by label, labels increase strictly. -/
lemma pairwise_sorted_alpha : (p.sorted .alpha).Pairwise fun a b => a.label < b.label := by
  rw [sorted_alpha]
  exact pairwise_mergeSort_of_nodup p.admissible.labels_nodup

/-- **The registers of a table stand in the order that is asked for**, and strictly so where they
are sorted. -/
theorem arranged_sorted (sorting : Sorting) :
    sorting.Arranged p.registers (p.sorted sorting) := by
  cases sorting with
  | preserve => exact rfl
  | address =>
    refine p.pairwise_sorted_address.imp ?_
    intro a b h
    exact UInt64.lt_iff_toNat_lt.mpr h
  | alpha =>
    refine p.pairwise_sorted_alpha.imp ?_
    intro a b h
    exact (Text.lex_utf8Bytes_iff _ _).mpr h

/-- **A sorted table does not depend on the order of declaration.** -/
theorem sorted_eq_of_perm {p q : Plan} (h : p.registers.Perm q.registers) {sorting : Sorting}
    (hsorting : sorting ≠ .preserve) : p.sorted sorting = q.sorted sorting := by
  have hperm : (p.sorted sorting).Perm (q.sorted sorting) :=
    ((p.perm_sorted sorting).trans h).trans (q.perm_sorted sorting).symm
  cases sorting with
  | preserve => exact absurd rfl hsorting
  | address =>
    exact eq_of_perm_of_pairwise_lt hperm p.pairwise_sorted_address q.pairwise_sorted_address
  | alpha => exact eq_of_perm_of_pairwise_lt hperm p.pairwise_sorted_alpha q.pairwise_sorted_alpha

end Plan

/-! ## The lines of a table -/

/-- Tables of the same registers in the same order are the same. -/
lemma registerTable_congr {p q : Plan} {sorting : Sorting}
    (hcolumn : p.labelColumn = q.labelColumn) (hsorted : p.sorted sorting = q.sorted sorting) :
    registerTable p sorting = registerTable q sorting := by
  rw [registerTable, registerTable, hcolumn, hsorted]

/-- **The lines of a register table** are those of the declared registers, each of them once, in the
order that is asked for. Declared in another order, the registers have the same sorted tables. -/
theorem registerTable_arranged {moduleName : String} {registers : List Register} {bits : UInt32}
    {p : Plan} (h : plan moduleName registers bits = .ok p) :
    (p.labelColumn ≤ 65535 →
      ∃ declared, registerTable p .preserve = .ok declared ∧ ∀ sorting, ∃ rs lines,
        rs.Perm registers ∧ sorting.Arranged registers rs ∧
          lines = rs.map (registerLine p.labelColumn) ∧ lines.Perm declared ∧
            registerTable p sorting = .ok lines) ∧
      ∀ (moduleName' : String) (registers' : List Register) (q : Plan), registers.Perm registers' →
        plan moduleName' registers' bits = .ok q → ∀ sorting, sorting ≠ .preserve →
          registerTable q sorting = registerTable p sorting := by
  obtain ⟨-, rfl, hwidth⟩ := plan_eq_ok h
  refine ⟨fun hcolumn => ?_, ?_⟩
  · refine ⟨_, registerTable_eq_ok hcolumn .preserve, fun sorting => ?_⟩
    have hperm := p.perm_sorted sorting
    exact ⟨p.sorted sorting, _, hperm, p.arranged_sorted sorting, rfl, hperm.map _,
      registerTable_eq_ok hcolumn sorting⟩
  · intro moduleName' registers' q hperm hq sorting hsorting
    obtain ⟨-, rfl, -⟩ := plan_eq_ok hq
    have hrearranged : Rearranged p.registers q.registers :=
      ⟨q.registers, hperm, List.forall₂_same.mpr fun r _ => ⟨r.mode, rfl⟩⟩
    exact (registerTable_congr hrearranged.longestLabel_eq
      (Plan.sorted_eq_of_perm hperm hsorting)).symm

/-- Registers whose labels differ in case and in accents. -/
def accentedRegisters : List Register := [
  ⟨2, "z", ⟨"ctrl"⟩, 0, by decide⟩,
  ⟨0x10, "é", ⟨"stat"⟩, 0, by decide⟩,
  ⟨1, "B", ⟨"trig"⟩, 7, by decide⟩]

/-- Their labels sorted by bytes: capitals come first and letters with accents last, whatever the
order of declaration is. -/
theorem registerTable_arranged_accents :
    ∃ p q, plan "m" accentedRegisters 32 = .ok p ∧
      plan "n" accentedRegisters.reverse 32 = .ok q ∧ p.labelColumn ≤ 65535 ∧
      (∃ rs, rs.Perm accentedRegisters ∧ Sorting.Arranged accentedRegisters .alpha rs ∧
        registerTable p .alpha = .ok (rs.map (registerLine p.labelColumn))) ∧
      registerTable q .alpha =
        .ok ["0x0001 B trig 0x7", "0x0002 z ctrl 0x0", "0x0010 é stat 0x0"] := by
  obtain ⟨p, hp⟩ : ∃ p, plan "m" accentedRegisters 32 = .ok p := ⟨_, rfl⟩
  obtain ⟨q, hq⟩ : ∃ q, plan "n" accentedRegisters.reverse 32 = .ok q := ⟨_, rfl⟩
  have hcolumn : p.labelColumn ≤ 65535 := by
    rw [labelColumn_of_plan hp]
    decide
  have htable : registerTable p .alpha =
      .ok ["0x0001 B trig 0x7", "0x0002 z ctrl 0x0", "0x0010 é stat 0x0"] := by
    cases hp
    cbv
  obtain ⟨hlines, hsame⟩ := registerTable_arranged hp
  obtain ⟨declared, -, hsorted⟩ := hlines hcolumn
  obtain ⟨rs, lines, hrs, harranged, rfl, -, hok⟩ := hsorted .alpha
  have hperm := (List.reverse_perm accentedRegisters).symm
  refine ⟨p, q, hp, hq, hcolumn, ⟨rs, hrs, harranged, hok⟩, ?_⟩
  rw [hsame "n" _ q hperm hq .alpha (by decide), htable]

end RegisterFile
