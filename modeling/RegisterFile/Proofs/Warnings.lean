import Mathlib.Data.Finset.Card
import Mathlib.Data.List.Induction
import Mathlib.Logic.Relation
import RegisterFile.Proofs.LabelCollisions
import RegisterFile.Proofs.Outcome

set_option autoImplicit false

/-!
# What the standard template warns of

Labels that are equal in upper case are told in pairs. The scan remembers the last label of each
kind only, so that a group of labels that are equal in upper case is told as a chain: each of them
but the first one behind the last one before it. So there are as many pairs as labels less kinds of
labels, and no group falls apart.

All results on the scan follow it along the list: what one more label at the end adds is the pair
with its last twin, if it has one (`caseCollisions_concat`).

## Main definitions

* `lastTwin?` - the last label of a list that equals a given one in upper case.
* `LastTwin` - the positions of a label and of its last twin.
* `ListsTwins` - some pairs are the labels with their last twins, in the order of the labels.

## Main results

* `caseCollisions_concat` - what one more label adds.
* `listsTwins_caseCollisions` - the pairs are the labels with their last twins.
* `length_caseCollisions` - how many pairs there are.
* `eqvGen_caseCollisions_iff` - the pairs join exactly the labels that are equal in upper case.
* `standard_warnings` - what the standard renderer tells.
-/

namespace RegisterFile

/-! ## One more label -/

/-- The last label of a list that equals a given one in upper case. -/
def lastTwin? (labels : List String) (label : String) : Option String :=
  labels.reverse.find? fun l => Text.uppercase l = Text.uppercase label

/-- The labels of a list as the scan remembers them. -/
def remembered (labels : List String) : List (String × String) :=
  (labels.map fun l => (Text.uppercase l, l)).reverse

/-- What the scan finds under a label in upper case is its last twin. -/
lemma lookup_remembered (labels : List String) (label : String) :
    (remembered labels).lookup (Text.uppercase label) = lastTwin? labels label := by
  rw [remembered, lastTwin?, ← List.map_reverse]
  induction labels.reverse with
  | nil => rfl
  | cons l ls ih =>
    rw [List.map_cons, List.lookup_cons, List.find?_cons, ih]
    by_cases h : Text.uppercase l = Text.uppercase label
    · simp [h]
    · simp [h, beq_false_of_ne (Ne.symm h)]

/-- The collisions in two lists one behind the other. -/
lemma collisionsAfter_append (seen : List (String × String)) (labels later : List String) :
    collisionsAfter seen (labels ++ later) =
      collisionsAfter seen labels ++ collisionsAfter (remembered labels ++ seen) later := by
  induction labels generalizing seen with
  | nil => rfl
  | cons label labels ih =>
    have hseen : remembered labels ++ (Text.uppercase label, label) :: seen =
        remembered (label :: labels) ++ seen := by
      simp [remembered]
    rw [List.cons_append, collisionsAfter, collisionsAfter, ih, hseen]
    cases seen.lookup (Text.uppercase label) <;> rfl

/-- **One more label adds the pair with its last twin, if it has one.** -/
theorem caseCollisions_concat (labels : List String) (label : String) :
    caseCollisions (labels ++ [label]) =
      caseCollisions labels ++ ((lastTwin? labels label).map fun l => (l, label)).toList := by
  rw [caseCollisions, collisionsAfter_append, List.append_nil, collisionsAfter,
    lookup_remembered]
  cases lastTwin? labels label <;> rfl

/-- A label without a last twin differs from all others in upper case. -/
lemma lastTwin?_eq_none_iff {labels : List String} {label : String} :
    lastTwin? labels label = none ↔ ∀ l ∈ labels, Text.uppercase l ≠ Text.uppercase label := by
  simp [lastTwin?]

/-- The last twin of a label stands in front of labels that differ from it in upper case. -/
lemma lastTwin?_eq_some_iff {labels : List String} {label l : String} :
    lastTwin? labels label = some l ↔ Text.uppercase l = Text.uppercase label ∧
      ∃ front back, labels = front ++ l :: back ∧
        ∀ m ∈ back, Text.uppercase m ≠ Text.uppercase label := by
  rw [lastTwin?, List.find?_eq_some_iff_append]
  simp only [decide_eq_true_eq, Bool.not_eq_true', decide_eq_false_iff_not]
  refine and_congr_right fun _ => ⟨?_, ?_⟩
  · rintro ⟨back, front, hlabels, hback⟩
    refine ⟨front.reverse, back.reverse, ?_, fun m hm => hback m (List.mem_reverse.mp hm)⟩
    rw [← List.reverse_reverse labels, hlabels]
    simp
  · rintro ⟨front, back, rfl, hback⟩
    refine ⟨back.reverse, front.reverse, by simp, fun m hm => hback m (List.mem_reverse.mp hm)⟩

/-! ## Positions -/

/-- The last key before position `j` that equals the one at `j` stands at position `i`. -/
structure LastTwin (keys : List String) (i j : Nat) : Prop where
  before : i < j
  inside : j < keys.length
  same : keys[i]? = keys[j]?
  last : ∀ k, i < k → k < j → keys[k]? ≠ keys[j]?

/-- There is one last twin at most. -/
lemma LastTwin.unique {keys : List String} {i i' j : Nat} (h : LastTwin keys i j)
    (h' : LastTwin keys i' j) : i = i' := by
  rcases Nat.lt_trichotomy i i' with hlt | heq | hlt
  · exact absurd h'.same (h.last i' hlt h'.before)
  · exact heq
  · exact absurd h.same (h'.last i hlt h.before)

/-- What stands behind two keys does not matter to them. -/
lemma lastTwin_append_iff {keys : List String} {j : Nat} (hj : j < keys.length)
    (more : List String) (i : Nat) : LastTwin (keys ++ more) i j ↔ LastTwin keys i j := by
  have hleft : ∀ k ≤ j, (keys ++ more)[k]? = keys[k]? := fun k hk =>
    List.getElem?_append_left (by omega)
  constructor
  · rintro ⟨hij, -, hsame, hlast⟩
    refine ⟨hij, hj, ?_, fun k hik hkj => ?_⟩
    · rwa [hleft i hij.le, hleft j le_rfl] at hsame
    · have hne := hlast k hik hkj
      rwa [hleft k hkj.le, hleft j le_rfl] at hne
  · rintro ⟨hij, -, hsame, hlast⟩
    refine ⟨hij, ?_, ?_, fun k hik hkj => ?_⟩
    · rw [List.length_append]
      omega
    · rwa [hleft i hij.le, hleft j le_rfl]
    · rw [hleft k hkj.le, hleft j le_rfl]
      exact hlast k hik hkj

/-- The last key has no twin if it differs from all others. -/
lemma not_lastTwin_length {keys : List String} {key : String} (h : key ∉ keys) (i : Nat) :
    ¬ LastTwin (keys ++ [key]) i keys.length := by
  rintro ⟨hi, -, hsame, -⟩
  rw [List.getElem?_concat_length, List.getElem?_append_left hi] at hsame
  exact h (List.mem_of_getElem? hsame)

/-- The last key has its last twin in front of keys that differ from it. -/
lemma lastTwin_length {front back : List String} {key : String} (h : key ∉ back) :
    LastTwin (front ++ key :: back ++ [key]) front.length (front ++ key :: back).length := by
  have hlength : (front ++ key :: back).length = front.length + back.length + 1 := by
    simp
    omega
  refine ⟨by omega, by simp, ?_, fun k hik hkj hsame => ?_⟩
  · rw [List.getElem?_concat_length, List.getElem?_append_left (by omega)]
    simp
  · rw [List.getElem?_concat_length, List.getElem?_append_left hkj,
      List.getElem?_append_right hik.le] at hsame
    obtain ⟨m, hm⟩ : ∃ m, k - front.length = m + 1 := ⟨k - front.length - 1, by omega⟩
    rw [hm, List.getElem?_cons_succ] at hsame
    exact h (List.mem_of_getElem? hsame)

/-- Some positions are those of the keys that have a last twin, with it, in the order of the
keys. -/
structure TwinPositions (keys : List String) (positions : List (Nat × Nat)) : Prop where
  sorted : (positions.map Prod.snd).Pairwise (· < ·)
  mem_iff : ∀ i j, (i, j) ∈ positions ↔ LastTwin keys i j

namespace TwinPositions

variable {keys : List String} {positions : List (Nat × Nat)}

/-- The positions are those of keys. -/
lemma lt_length (h : TwinPositions keys positions) {ij : Nat × Nat} (hij : ij ∈ positions) :
    ij.1 < ij.2 ∧ ij.2 < keys.length :=
  have htwin := (h.mem_iff ij.1 ij.2).mp hij
  ⟨htwin.before, htwin.inside⟩

/-- One more key does not change what the positions tell of the others. -/
lemma mem_iff_concat (h : TwinPositions keys positions) (key : String) {i j : Nat}
    (hj : j ≠ keys.length) : (i, j) ∈ positions ↔ LastTwin (keys ++ [key]) i j := by
  rw [h.mem_iff]
  by_cases hlt : j < keys.length
  · exact (lastTwin_append_iff hlt [key] i).symm
  · have hout : ¬ j < (keys ++ [key]).length := by
      rw [List.length_append, List.length_singleton]
      omega
    exact iff_of_false (fun htwin => hlt htwin.inside) fun htwin => hout htwin.inside

/-- One more key that differs from all others adds no position. -/
lemma concat_of_notMem (h : TwinPositions keys positions) {key : String} (hkey : key ∉ keys) :
    TwinPositions (keys ++ [key]) positions where
  sorted := h.sorted
  mem_iff i j := by
    by_cases hj : j = keys.length
    · subst hj
      exact iff_of_false (fun hij => absurd (h.lt_length hij).2 (lt_irrefl _))
        (not_lastTwin_length hkey i)
    · exact h.mem_iff_concat key hj

/-- One more key that was there before adds its position and that of its last twin. -/
lemma concat_of_twin {front back : List String} {key : String}
    (h : TwinPositions (front ++ key :: back) positions) (hkey : key ∉ back) :
    TwinPositions (front ++ key :: back ++ [key])
      (positions ++ [(front.length, (front ++ key :: back).length)]) where
  sorted := by
    rw [List.map_append, List.pairwise_append]
    refine ⟨h.sorted, List.pairwise_singleton _ _, fun j hj j' hj' => ?_⟩
    obtain ⟨ij, hij, rfl⟩ := List.mem_map.mp hj
    obtain rfl : j' = (front ++ key :: back).length := List.mem_singleton.mp hj'
    exact (h.lt_length hij).2
  mem_iff i j := by
    have htwin : LastTwin (front ++ key :: back ++ [key]) front.length
        (front ++ key :: back).length := lastTwin_length hkey
    rw [List.mem_append, List.mem_singleton, Prod.mk.injEq]
    by_cases hj : j = (front ++ key :: back).length
    · subst hj
      constructor
      · rintro (hij | ⟨rfl, -⟩)
        · exact absurd (h.lt_length hij).2 (lt_irrefl _)
        · exact htwin
      · exact fun hij => .inr ⟨hij.unique htwin, rfl⟩
    · rw [or_iff_left fun hij => hj hij.2]
      exact h.mem_iff_concat key hj

end TwinPositions

/-- Some pairs are the labels with their last twins in upper case in front of them, one for each
position of a label that has one, in the order of these positions. -/
def ListsTwins (labels : List String) (pairs : List (String × String)) : Prop :=
  ∃ positions, TwinPositions (labels.map Text.uppercase) positions ∧
    pairs.map (fun pair => (some pair.1, some pair.2)) =
      positions.map fun ij => (labels[ij.1]?, labels[ij.2]?)

/-- **The pairs that the scan reports are the labels with their last twins.**

**Proof sketch.** Induction on the labels from the front. The positions of the labels before the
last one are as they were, and the last one comes with its last twin or not at all. -/
theorem listsTwins_caseCollisions (labels : List String) :
    ListsTwins labels (caseCollisions labels) := by
  induction labels using List.reverseRecOn with
  | nil => exact ⟨[], ⟨.nil, fun i j => ⟨nofun, fun h => absurd h.inside (Nat.not_lt_zero j)⟩⟩, rfl⟩
  | append_singleton labels label ih =>
    obtain ⟨positions, htwins, hpairs⟩ := ih
    have hpairs' : (caseCollisions labels).map (fun pair => (some pair.1, some pair.2)) =
        positions.map fun ij => ((labels ++ [label])[ij.1]?, (labels ++ [label])[ij.2]?) := by
      rw [hpairs]
      refine List.map_congr_left fun ij hij => ?_
      obtain ⟨hi, hj⟩ := htwins.lt_length hij
      rw [List.length_map] at hj
      rw [List.getElem?_append_left (hi.trans hj), List.getElem?_append_left hj]
    rw [caseCollisions_concat]
    cases htwin : lastTwin? labels label with
    | none =>
      have hnew : Text.uppercase label ∉ labels.map Text.uppercase := by
        simpa using lastTwin?_eq_none_iff.mp htwin
      refine ⟨positions, ?_, by simpa using hpairs'⟩
      rw [List.map_append]
      exact htwins.concat_of_notMem hnew
    | some l =>
      obtain ⟨hl, front, back, rfl, hback⟩ := lastTwin?_eq_some_iff.mp htwin
      have hlast : Text.uppercase label ∉ back.map Text.uppercase := by simpa using hback
      refine ⟨positions ++ [(front.length, (front ++ l :: back).length)], ?_, ?_⟩
      · rw [List.map_append, List.map_cons, hl] at htwins
        simpa [hl] using htwins.concat_of_twin hlast
      · rw [List.map_append, hpairs']
        simp

/-! ## The number of pairs -/

/-- **There are as many pairs as labels less kinds of labels.** -/
theorem length_caseCollisions (labels : List String) :
    (caseCollisions labels).length + (labels.map Text.uppercase).toFinset.card =
      labels.length := by
  induction labels using List.reverseRecOn with
  | nil => rfl
  | append_singleton labels label ih =>
    have hkinds : ((labels ++ [label]).map Text.uppercase).toFinset =
        insert (Text.uppercase label) (labels.map Text.uppercase).toFinset := by
      rw [List.map_append, List.toFinset_append, Finset.union_comm]
      rfl
    rw [caseCollisions_concat, List.length_append, List.length_append, hkinds]
    cases htwin : lastTwin? labels label with
    | none =>
      have hnew : Text.uppercase label ∉ (labels.map Text.uppercase).toFinset := by
        simpa using lastTwin?_eq_none_iff.mp htwin
      rw [Finset.card_insert_of_notMem hnew]
      simp only [Option.map_none, Option.toList_none, List.length_nil, List.length_singleton]
      omega
    | some l =>
      have hold : Text.uppercase label ∈ (labels.map Text.uppercase).toFinset := by
        obtain ⟨hl, front, back, rfl, -⟩ := lastTwin?_eq_some_iff.mp htwin
        simp [hl]
      rw [Finset.insert_eq_of_mem hold]
      simp only [Option.map_some, Option.toList_some, List.length_singleton]
      omega

/-! ## What the pairs join -/

/-- The labels of a pair are equal in upper case. -/
lemma uppercase_eq_of_mem_caseCollisions {labels : List String} {a b : String}
    (h : (a, b) ∈ caseCollisions labels) : Text.uppercase a = Text.uppercase b := by
  induction labels using List.reverseRecOn with
  | nil => cases h
  | append_singleton labels label ih =>
    rw [caseCollisions_concat, List.mem_append] at h
    rcases h with h | h
    · exact ih h
    · obtain ⟨l, hl, heq⟩ := Option.map_eq_some_iff.mp (Option.mem_toList.mp h)
      obtain ⟨rfl, rfl⟩ := Prod.mk.inj heq
      exact (lastTwin?_eq_some_iff.mp hl).1

/-- Labels that pairs join are equal in upper case. -/
lemma uppercase_eq_of_eqvGen {labels : List String} {a b : String}
    (h : Relation.EqvGen (fun a b => (a, b) ∈ caseCollisions labels) a b) :
    Text.uppercase a = Text.uppercase b := by
  induction h with
  | rel a b hab => exact uppercase_eq_of_mem_caseCollisions hab
  | refl a => rfl
  | symm a b _ ih => exact ih.symm
  | trans a b c _ _ ihab ihbc => exact ihab.trans ihbc

/-- Labels that are equal in upper case are joined by pairs.

**Proof sketch.** Induction on the labels from the front. A label at the end is joined with its last
twin, which is joined with all that equal it among the labels before. -/
lemma eqvGen_of_uppercase_eq {labels : List String} {a b : String} (ha : a ∈ labels)
    (hb : b ∈ labels) (h : Text.uppercase a = Text.uppercase b) :
    Relation.EqvGen (fun a b => (a, b) ∈ caseCollisions labels) a b := by
  induction labels using List.reverseRecOn generalizing a b with
  | nil => cases ha
  | append_singleton labels label ih =>
    have hpairs := caseCollisions_concat labels label
    have hold : ∀ x ∈ labels, ∀ y ∈ labels, Text.uppercase x = Text.uppercase y →
        Relation.EqvGen (fun a b => (a, b) ∈ caseCollisions (labels ++ [label])) x y := by
      intro x hx y hy hxy
      refine Relation.EqvGen.mono (fun c d hcd => ?_) _ _ (ih hx hy hxy)
      rw [hpairs]
      exact List.mem_append_left _ hcd
    have hnew : ∀ x ∈ labels, Text.uppercase x = Text.uppercase label →
        Relation.EqvGen (fun a b => (a, b) ∈ caseCollisions (labels ++ [label])) x label := by
      intro x hx hxlabel
      obtain ⟨l, htwin⟩ : ∃ l, lastTwin? labels label = some l :=
        Option.ne_none_iff_exists'.mp fun hnone => lastTwin?_eq_none_iff.mp hnone x hx hxlabel
      obtain ⟨hl, front, back, hlabels, -⟩ := lastTwin?_eq_some_iff.mp htwin
      refine (hold x hx l (by simp [hlabels]) (hxlabel.trans hl.symm)).trans _ l _ (.rel l label ?_)
      rw [hpairs, htwin]
      simp
    rw [List.mem_append, List.mem_singleton] at ha hb
    rcases ha with ha | rfl
    · rcases hb with hb | rfl
      · exact hold a ha b hb h
      · exact hnew a ha h
    · rcases hb with hb | rfl
      · exact (hnew b hb h.symm).symm _ _
      · exact .refl _

/-- **The pairs join exactly the labels that are equal in upper case.** -/
theorem eqvGen_caseCollisions_iff {labels : List String} {a b : String} (ha : a ∈ labels)
    (hb : b ∈ labels) :
    Relation.EqvGen (fun a b => (a, b) ∈ caseCollisions labels) a b ↔
      Text.uppercase a = Text.uppercase b :=
  ⟨uppercase_eq_of_eqvGen, eqvGen_of_uppercase_eq ha hb⟩

/-! ## The warnings of renderers -/

/-- The modes that mean something are the tags of the accesses. -/
lemma Mode.isKnown_iff (m : Mode) : m.isKnown = true ↔ m.tag ∈ ["stat", "trig", "ctrl"] := by
  rw [isKnown, Option.isSome_iff_exists]
  simp only [access?_eq_some_iff, List.mem_cons, List.not_mem_nil, or_false]
  constructor
  · rintro ⟨access, htag⟩
    cases access with
    | status => exact .inl htag
    | trigger => exact .inr (.inl htag)
    | control => exact .inr (.inr htag)
  · rintro (htag | htag | htag)
    · exact ⟨.status, htag⟩
    · exact ⟨.trigger, htag⟩
    · exact ⟨.control, htag⟩

/-- Labels differ in upper case exactly if the names of the constants for the indices differ. -/
lemma nodup_constantName_iff (registers : List Register) :
    (registers.map Register.constantName).Nodup ↔
      ((registers.map Register.label).map Text.uppercase).Nodup := by
  have hnames : registers.map Register.constantName =
      ((registers.map Register.label).map Text.uppercase).map ("C_" ++ ·) := by
    rw [List.map_map, List.map_map]
    rfl
  have hinjective : Function.Injective fun name : String => "C_" ++ name := by
    intro s t h
    have hlists : ("C_" ++ s).toList = ("C_" ++ t).toList := congrArg String.toList h
    rw [String.toList_append, String.toList_append] at hlists
    exact String.toList_injective (List.append_cancel_left hlists)
  rw [hnames, List.nodup_map_iff hinjective]

/-- The renderer of a template from a directory tells nothing. -/
lemma events_of_ofDirectory {files : Files.Tree} {path : Files.DirectoryPath} {name : String}
    {renderer : Renderer} (h : (Renderer.ofDirectory files path name).outcome = .ok renderer)
    (p : Plan) : (renderer.render p).events = [] := by
  cases path with
  | bytes raw => cases h
  | text path =>
    simp only [Renderer.ofDirectory, Logged.outcome_bind, Logged.outcome_tell, ok_bind,
      bind_eq_ok_iff] at h
    obtain ⟨selection, -, found, -, templates, -, h⟩ := h
    cases hbody : templates.lookup name with
    | none =>
      rw [hbody] at h
      cases h
    | some body =>
      rw [hbody] at h
      obtain rfl : Renderer.ofTemplate name body (fun _ => []) = renderer := Except.ok.inj h
      exact Renderer.events_ofTemplate name body _ p

/-- **The warnings of the standard renderer.** For a plan, it tells of the registers whose mode it
does not implement, and then of the labels with their last twins in upper case. There are as many of
these pairs as registers less kinds of labels, there is none exactly if the names of the constants
differ, and they join exactly the labels that are equal in upper case. A renderer from a directory
tells nothing. -/
theorem standard_warnings {moduleName : String} {registers : List Register} {bits : UInt32}
    {p : Plan} (h : plan moduleName registers bits = .ok p) {renderer : Renderer}
    (hrenderer : Renderer.standard = .ok renderer) :
    (∃ pairs : List (String × String),
      (renderer.render p).events =
        (registers.filter fun r => r.mode.tag ∉ ["stat", "trig", "ctrl"]).map
            (fun r => .modeUnknown r.label r.mode.tag Vhdl.templateName) ++
          pairs.map (fun pair => .labelsCollide pair.1 pair.2) ∧
      ListsTwins (registers.map Register.label) pairs ∧
      pairs.length + ((registers.map Register.label).map Text.uppercase).toFinset.card =
        registers.length ∧
      (pairs = [] ↔ (registers.map Register.constantName).Nodup) ∧
      ∀ a ∈ registers.map Register.label, ∀ b ∈ registers.map Register.label,
        Relation.EqvGen (fun a b => (a, b) ∈ pairs) a b ↔ Text.uppercase a = Text.uppercase b) ∧
    ∀ (files : Files.Tree) (path : Files.DirectoryPath) (name : String) (other : Renderer),
      ((TemplateSource.directory path name).load files).outcome = .ok other →
        ∀ q : Plan, (other.render q).events = [] := by
  obtain ⟨-, rfl, -⟩ := plan_eq_ok h
  obtain rfl : Renderer.ofTemplate _ _ _ = renderer :=
    Except.ok.inj (Renderer.standard_eq.symm.trans hrenderer)
  refine ⟨⟨caseCollisions (p.registers.map Register.label), ?_,
    listsTwins_caseCollisions _, ?_, ?_, fun a ha b hb => eqvGen_caseCollisions_iff ha hb⟩, ?_⟩
  · have hmodes : (p.registers.filter fun r => !r.mode.isKnown) =
        p.registers.filter fun r => r.mode.tag ∉ ["stat", "trig", "ctrl"] := by
      refine List.filter_congr fun r _ => ?_
      rw [Bool.eq_iff_iff, Bool.not_eq_true', decide_eq_true_iff, ← Mode.isKnown_iff,
        Bool.not_eq_true]
    rw [Renderer.events_ofTemplate, Plan.warnings, hmodes]
  · have hcount := length_caseCollisions (p.registers.map Register.label)
    rwa [List.length_map] at hcount
  · rw [caseCollisions_eq_nil_iff, nodup_constantName_iff]
  · exact fun files path name other hload q => events_of_ofDirectory hload q

/-- Three of four labels differ only in case. They are told in two pairs, which join the first one
and the last one, behind the mode that the template does not implement. -/
theorem standard_warnings_chain :
    ∃ (p : Plan) (renderer : Renderer) (pairs : List (String × String)), plan "m"
        [⟨0, "ab", ⟨"rw"⟩, 0, by decide⟩, ⟨1, "AB", ⟨"ctrl"⟩, 0, by decide⟩,
          ⟨2, "x", ⟨"stat"⟩, 0, by decide⟩, ⟨3, "aB", ⟨"trig"⟩, 0, by decide⟩] 32 = .ok p ∧
      Renderer.standard = .ok renderer ∧
      (renderer.render p).events = .modeUnknown "ab" "rw" Vhdl.templateName ::
        pairs.map (fun pair => .labelsCollide pair.1 pair.2) ∧
      pairs.length = 2 ∧ Relation.EqvGen (fun a b => (a, b) ∈ pairs) "ab" "aB" := by
  obtain ⟨p, hplan⟩ : ∃ p, plan "m"
      [⟨0, "ab", ⟨"rw"⟩, 0, by decide⟩, ⟨1, "AB", ⟨"ctrl"⟩, 0, by decide⟩,
        ⟨2, "x", ⟨"stat"⟩, 0, by decide⟩, ⟨3, "aB", ⟨"trig"⟩, 0, by decide⟩] 32 = .ok p := ⟨_, rfl⟩
  obtain ⟨⟨pairs, hevents, -, hcount, -, hjoin⟩, -⟩ :=
    standard_warnings hplan Renderer.standard_eq
  have hkinds : ((["ab", "AB", "x", "aB"].map Text.uppercase).toFinset).card = 2 := by
    decide +kernel
  have hlength : pairs.length + 2 = 4 := hkinds ▸ hcount
  refine ⟨p, _, pairs, hplan, Renderer.standard_eq, hevents, by omega, ?_⟩
  exact (hjoin "ab" (by simp) "aB" (by simp)).mpr (by decide +kernel)

end RegisterFile
