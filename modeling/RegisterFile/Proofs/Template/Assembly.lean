import Mathlib.Data.List.Basic
import RegisterFile.Template.Source

set_option autoImplicit false

/-!
# Assembling a template

What a template source is assembled to, told piece by piece from its end to its start.

Literal text that has been read but not yet put in front of a tag is pending. What stands in front
of a tag is known only when the tag is reached, so that the frames of a source depend on the text
that is pending where it starts. A piece in front of a source turns that dependence into another
one: literal text prolongs what is pending, and a tag ends it.

## Main definitions

* `Template.ReadsTag` - the inside of a tag has this meaning, whatever stands behind it.
* `Template.withText` - a body behind pending text.
* `Template.Assembles` - the frames of a source, given what is pending.

## Main results

* `Template.Assembles.text`, `Template.Assembles.output`, `Template.Assembles.statement` - the
  frames of a source with one more piece in front.
* `Template.parse_eq_some` - the body of a source whose frames are known.
-/

namespace RegisterFile.Template

/-! ## Tags -/

/-- Further steps do not change what is read of a tag. -/
lemma readTag_mono {mark : Char} {n m : Nat} (hle : n ≤ m) {cs : List Char} {r : TagReading}
    (h : readTag mark n cs = some r) : readTag mark m cs = some r := by
  induction n generalizing m cs r with
  | zero => simp [readTag] at h
  | succ n ih =>
    obtain ⟨m, rfl⟩ : ∃ k, m = k + 1 := ⟨m - 1, by omega⟩
    rw [readTag] at h ⊢
    cases hend : readTagEnd? mark (cs.dropWhile isTagBlank) with
    | some e => simpa only [hend] using h
    | none =>
      simp only [hend] at h ⊢
      obtain ⟨⟨t, rest⟩, ht, h⟩ := Option.bind_eq_some_iff.mp h
      obtain ⟨reading, hreading, h⟩ := Option.bind_eq_some_iff.mp h
      refine Option.bind_eq_some_iff.mpr ⟨(t, rest), ht, ?_⟩
      exact Option.bind_eq_some_iff.mpr ⟨reading, ih (by omega) hreading, h⟩

/-- Whether the inside of a tag with this mark, in blanks, is interpreted as `a`, whatever stands
behind the tag. -/
def ReadsTag {α : Type} (mark : Char) (interpret : List Token → Option α) (inside : List Char)
    (a : α) : Prop :=
  ∀ rest,
    ((readTag mark (inside.length + 4) (' ' :: (inside ++ ' ' :: mark :: '}' :: rest))).bind
      fun reading =>
        (interpret reading.tokens).map fun a => (a, reading.dropBlanks, reading.rest)) =
      some (a, false, rest)

/-- A tag is read in any number of steps that its characters allow. -/
lemma ReadsTag.exists_tokens {α : Type} {mark : Char} {interpret : List Token → Option α}
    {inside : List Char} {a : α} (h : ReadsTag mark interpret inside a) (rest : List Char)
    {steps : Nat} (hsteps : inside.length + 4 ≤ steps) :
    ∃ tokens, readTag mark steps (' ' :: (inside ++ ' ' :: mark :: '}' :: rest)) =
      some ⟨tokens, false, rest⟩ ∧ interpret tokens = some a := by
  obtain ⟨⟨tokens, dropBlanks, left⟩, hreading, h⟩ := Option.bind_eq_some_iff.mp (h rest)
  obtain ⟨b, hb, h⟩ := Option.map_eq_some_iff.mp h
  obtain ⟨rfl, rfl, rfl⟩ : b = a ∧ dropBlanks = false ∧ left = rest := by simpa using h
  exact ⟨tokens, readTag_mono hsteps hreading, hb⟩

/-! ## Pending text -/

/-- A body behind pending text, whose last character comes first. -/
def withText (reversed : List Char) (b : Body) : Body :=
  if reversed = [] then b else .text (String.ofList reversed.reverse) b

/-- Pending text without the blanks at its end. -/
def dropBlanks (reversed : List Char) : List Char := reversed.dropWhile Text.isBlank

/-- Literal text before a statement tag is literal text without the blanks at its end. -/
lemma textSegment_dropEnd (reversed : List Char) :
    textSegment false true reversed = textSegment false false (dropBlanks reversed) := by
  simp [textSegment, Text.trimEnd, dropBlanks]

/-- Pending text goes in front of the innermost body. -/
lemma frames?_textSegment {segments : List Segment} {c : Closing} {b : Body} {fs : List Frame}
    (h : frames? segments = some (⟨c, b⟩ :: fs)) (reversed : List Char) :
    frames? (textSegment false false reversed ++ segments) =
      some (⟨c, withText reversed b⟩ :: fs) := by
  by_cases hempty : reversed = []
  · simp [textSegment, withText, hempty, h]
  · simp [textSegment, withText, hempty, frames?, h, prepend]

/-! ## Sources -/

/-- Whether `frames pending` are the frames of the source `cs` behind pending text. -/
def Assembles (cs : List Char) (frames : List Char → List Frame) : Prop :=
  ∀ (steps : Nat) (reversed : List Char), cs.length < steps →
    (segmentsWithin steps false reversed cs).bind frames? = some (frames reversed)

/-- At the end of a source the whole template is closed. -/
lemma assembles_nil : Assembles [] fun reversed => [⟨.whole, withText reversed .done⟩] := by
  intro steps reversed hsteps
  obtain ⟨steps, rfl⟩ : ∃ k, steps = k + 1 := ⟨steps - 1, by simp at hsteps; omega⟩
  have hend : frames? [] = some [⟨.whole, .done⟩] := rfl
  have hframes := frames?_textSegment hend reversed
  rw [List.append_nil] at hframes
  exact hframes

namespace Assembles

variable {cs : List Char}

/-- Literal text prolongs what is pending. -/
theorem text {frames : List Char → List Frame} (h : Assembles cs frames) {s : List Char}
    (hs : '{' ∉ s) : Assembles (s ++ cs) fun reversed => frames (s.reverse ++ reversed) := by
  induction s with
  | nil => exact h
  | cons c s ih =>
    intro steps reversed hsteps
    simp only [List.mem_cons, not_or] at hs
    obtain ⟨steps, rfl⟩ : ∃ k, steps = k + 1 := ⟨steps - 1, by omega⟩
    have hstep : segmentsWithin (steps + 1) false reversed (c :: (s ++ cs)) =
        segmentsWithin steps false (c :: reversed) (s ++ cs) := by
      simp [segmentsWithin, Ne.symm hs.1]
    have hlength : (s ++ cs).length < steps := by
      simp only [List.cons_append, List.length_cons] at hsteps
      omega
    rw [List.cons_append, hstep, ih hs.2 steps (c :: reversed) hlength]
    simp

/-- An output tag ends what is pending. -/
theorem output {c : Closing} {k : List Char → Body} {fs : List Frame}
    (h : Assembles cs fun reversed => ⟨c, k reversed⟩ :: fs) {inside : List Char} {e : Expression}
    (hread : ReadsTag '}' (expressionWith? negatableOperand?) inside e) :
    Assembles ('{' :: '{' :: ' ' :: (inside ++ ' ' :: '}' :: '}' :: cs)) fun reversed =>
      ⟨c, withText reversed (.output e (k []))⟩ :: fs := by
  intro steps reversed hsteps
  simp only [List.length_cons, List.length_append] at hsteps
  obtain ⟨steps, rfl⟩ : ∃ k, steps = k + 1 := ⟨steps - 1, by omega⟩
  obtain ⟨tokens, htag, he⟩ := hread.exists_tokens cs (by omega : inside.length + 4 ≤ steps)
  obtain ⟨later, hlater, hframes⟩ := Option.bind_eq_some_iff.mp (h steps [] (by omega))
  have hprepend : frames? (.tag (.output e) :: later) = some (⟨c, .output e (k [])⟩ :: fs) := by
    rw [frames?, hframes]
    rfl
  simp [segmentsWithin, readMinus, htag, he, hlater, frames?_textSegment hprepend]

/-- A statement tag that drops the blanks before it ends what is pending. -/
theorem statement {frames : List Char → List Frame} (h : Assembles cs frames) {inside : List Char}
    {t : Tag} (hread : ReadsTag '%' statement? inside t) {c : Closing} {b : Body} {fs : List Frame}
    (hprepend : prepend (.tag t) (frames []) = some (⟨c, b⟩ :: fs)) :
    Assembles ('{' :: '%' :: '-' :: ' ' :: (inside ++ ' ' :: '%' :: '}' :: cs)) fun reversed =>
      ⟨c, withText (dropBlanks reversed) b⟩ :: fs := by
  intro steps reversed hsteps
  simp only [List.length_cons, List.length_append] at hsteps
  obtain ⟨steps, rfl⟩ : ∃ k, steps = k + 1 := ⟨steps - 1, by omega⟩
  obtain ⟨tokens, htag, ht⟩ := hread.exists_tokens cs (by omega : inside.length + 4 ≤ steps)
  obtain ⟨later, hlater, hframes⟩ := Option.bind_eq_some_iff.mp (h steps [] (by omega))
  have hlaterFrames : frames? (.tag t :: later) = some (⟨c, b⟩ :: fs) := by
    rw [frames?, hframes]
    exact hprepend
  simp [segmentsWithin, readMinus, htag, ht, hlater, textSegment_dropEnd,
    frames?_textSegment hlaterFrames]

end Assembles

/-- **A source that starts with no tag has the body that its frames hold**, if these are one frame
that closes the whole template. -/
theorem parse_eq_some {c : Char} {cs : List Char} (hc : c ≠ '{') {frames : List Char → List Frame}
    (h : Assembles (c :: cs) frames) {b : Body} (hframes : frames [] = [⟨.whole, b⟩]) :
    parse (String.ofList (c :: cs)) = some b := by
  obtain ⟨later, hlater, hassembled⟩ :=
    Option.bind_eq_some_iff.mp (h ((c :: cs).length + 1) [] (by simp))
  have hcomments : skipComments (c :: cs).length (c :: cs) = some (c :: cs) := by
    unfold skipComments
    split
    · rename_i heq
      exact absurd (List.cons.inj heq).1 hc
    · rfl
  have hsegments : segments (c :: cs) = some later := by
    simp only [segments, hcomments, Option.bind_eq_bind, Option.bind_some, hlater]
  simp [parse, hsegments, assemble, hassembled, hframes]

end RegisterFile.Template
