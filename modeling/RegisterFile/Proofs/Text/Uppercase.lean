import Mathlib.Tactic.Lemma
import RegisterFile.Text.Uppercase

set_option autoImplicit false

/-!
# Characters of upper case

Upper case replaces characters by capital letters. The form of a character consists of that
character alone, or of the letters from `A` to `Z` and of characters outside ASCII. So no white
space and no punctuation of ASCII is in the upper case of a text that has none.

## Main definitions

* `Text.mayBeCapital` - the code points that upper case can bring into a text.

## Main results

* `Text.forall_ascii` - properties of characters in ASCII can be computed.
* `Text.mem_uppercaseChar` - what the upper-case form of a character consists of.
* `Text.notMem_uppercase` - the characters that upper case does not bring into a text.
-/

namespace RegisterFile.Text

/-- The code points that upper case can bring into a text. -/
def mayBeCapital (n : Nat) : Bool := (0x41 ≤ n && n ≤ 0x5a) || 0x80 ≤ n

/-- What holds of every code point of ASCII holds of every character in it, so that properties of
these can be computed. -/
theorem forall_ascii {P : Char → Prop} (h : ∀ n < 0x80, P (Char.ofNat n)) {c : Char}
    (hc : c.toNat < 0x80) : P c := by
  have hchar := h c.toNat hc
  rwa [Char.ofNat_toNat] at hchar

/-- An ASCII character stays as it is or becomes a letter from `A` to `Z`. -/
lemma toUpper_eq_or {c : Char} (hc : c.toNat < 0x80) :
    c.toUpper = c ∨ mayBeCapital c.toUpper.toNat = true := by
  refine forall_ascii (P := fun c => c.toUpper = c ∨ mayBeCapital c.toUpper.toNat = true) ?_ hc
  decide

/-- The forms of more than one character consist of such code points. -/
lemma mayBeCapital_of_longUppercase :
    ∀ f ∈ longUppercase, ∀ n ∈ f.2, mayBeCapital (Char.ofNat n).toNat = true := by
  decide +kernel

/-- The forms that a run gives lie among the letters from `A` to `Z`, or outside ASCII on one side
of the surrogates. -/
lemma image_bounds : ∀ run ∈ caseRuns,
    (0x41 ≤ run.image ∧ run.image + (run.last - run.first) ≤ 0x5a) ∨
      (0x80 ≤ run.image ∧ run.image + (run.last - run.first) < 0xd800) ∨
      (0xdfff < run.image ∧ run.image + (run.last - run.first) < 0x110000) := by
  decide +kernel

/-- The form that a run gives is such a code point. -/
lemma mayBeCapital_of_image? {run : CaseRun} (hrun : run ∈ caseRuns) {n m : Nat}
    (h : run.image? n = some m) : mayBeCapital (Char.ofNat m).toNat = true := by
  have hm : run.image ≤ m ∧ m ≤ run.image + (run.last - run.first) := by
    rw [CaseRun.image?, Option.ite_none_right_eq_some] at h
    obtain ⟨⟨hfirst, hlast, -⟩, h⟩ := h
    have hm := Option.some.inj h
    omega
  have hbounds := image_bounds run hrun
  have hvalid : m.isValidChar := by
    unfold Nat.isValidChar
    omega
  have htoNat : (Char.ofNat m).toNat = m := by
    rw [Char.ofNat, dif_pos hvalid]
    rfl
  rw [htoNat, mayBeCapital, Bool.or_eq_true, Bool.and_eq_true, decide_eq_true_eq,
    decide_eq_true_eq, decide_eq_true_eq]
  omega

/-- **What the upper-case form of a character consists of**: the character itself, or code points
that upper case can bring into a text. -/
theorem mem_uppercaseChar {c d : Char} (h : d ∈ uppercaseChar c) :
    d = c ∨ mayBeCapital d.toNat = true := by
  unfold uppercaseChar at h
  split at h
  next hc =>
    rw [List.mem_singleton.mp h]
    exact toUpper_eq_or hc
  next =>
    split at h
    next form hform =>
      obtain ⟨n, hn, rfl⟩ := List.mem_map.mp h
      obtain ⟨before, back, hlong, -⟩ := List.lookup_eq_some_iff.mp hform
      have hmem : (c.toNat, form) ∈ longUppercase := by
        rw [hlong]
        exact List.mem_append_right before List.mem_cons_self
      exact .inr (mayBeCapital_of_longUppercase _ hmem n hn)
    next =>
      split at h
      next m hm =>
        obtain ⟨run, hrun, himage⟩ := List.exists_of_findSome?_eq_some hm
        rw [List.mem_singleton.mp h]
        exact .inr (mayBeCapital_of_image? hrun himage)
      next => exact .inl (List.mem_singleton.mp h)

/-- **The characters that upper case does not bring into a text.** -/
theorem notMem_uppercase {s : String} {c : Char} (hcapital : mayBeCapital c.toNat = false)
    (hc : c ∉ s.toList) : c ∉ (uppercase s).toList := by
  intro h
  rw [uppercase, String.toList_ofList] at h
  obtain ⟨d, hd, hform⟩ := List.mem_flatMap.mp h
  rcases mem_uppercaseChar hform with rfl | hletter
  · exact hc hd
  · rw [hcapital] at hletter
    exact Bool.false_ne_true hletter

end RegisterFile.Text
