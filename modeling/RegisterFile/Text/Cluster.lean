import RegisterFile.Text.ClusterRanges

set_option autoImplicit false

/-!
# Clusters

The pieces of a text that readers take for one character each, by the rules of the Unicode Standard
for extended grapheme clusters.

A piece ends at every place between two characters unless a rule joins them. What joins depends on
the roles of the characters: marks stay with the character before them, a syllable with its jamos,
letters with the conjunct that links build of them, joined pictographs with each other, and flags
consist of two regional indicators.

## Main definitions

* `Text.ClusterRole`, `Text.clusterRole` - the part that a character plays in clusters.
* `Text.ClusterState` - what counts of the characters before a place.
* `Text.ClusterState.breaksBefore` - whether a cluster ends at a place.
* `Text.clusters` - the clusters of a text.
-/

namespace RegisterFile.Text

/-! ## Roles -/

/-- The part that a character plays in clusters. -/
inductive ClusterRole where
  | carriageReturn
  | lineFeed
  /-- A character that stands alone. -/
  | control
  /-- A mark that extends the character before it. -/
  | extending
  /-- An extending mark that links letters to a conjunct. -/
  | linking
  /-- An extending mark that ends a conjunct. -/
  | parting
  /-- An extending mark that joins pictographs. -/
  | joiner
  /-- A mark that stands beside the character before it. -/
  | spacing
  /-- A mark that belongs to the character behind it. -/
  | prepended
  /-- The first jamo of a syllable. -/
  | leadingJamo
  /-- The vowel of a syllable. -/
  | vowelJamo
  /-- The last jamo of a syllable. -/
  | trailingJamo
  /-- A syllable that ends with its vowel. -/
  | openSyllable
  /-- A syllable that ends with a last jamo. -/
  | closedSyllable
  /-- One half of a flag. -/
  | regional
  | pictograph
  /-- A letter that can be joined to a conjunct. -/
  | conjunctLetter
  /-- Any other character. -/
  | other
  deriving DecidableEq, Repr

/-- First jamos. -/
def leadingJamos : CodeRanges := [(0x1100, 0x115f), (0xa960, 0xa97c)]

/-- Vowel jamos, and vowels that join a syllable as they do. -/
def vowelJamos : CodeRanges :=
  [(0x1160, 0x11a7), (0xd7b0, 0xd7c6), (0x16d63, 0x16d63), (0x16d67, 0x16d6a)]

/-- Last jamos. -/
def trailingJamos : CodeRanges := [(0x11a8, 0x11ff), (0xd7cb, 0xd7fb)]

/-- The role of a code point in a syllable, if it belongs to one. Whole syllables stand in order, an
open one in front of the closed ones that start like it. -/
def syllableRole? (n : Nat) : Option ClusterRole :=
  if leadingJamos.contains n then some .leadingJamo
  else if vowelJamos.contains n then some .vowelJamo
  else if trailingJamos.contains n then some .trailingJamo
  else if 0xac00 ≤ n ∧ n ≤ 0xd7a3 then
    if (n - 0xac00) % 28 = 0 then some .openSyllable else some .closedSyllable
  else none

/-- The part that a character plays in clusters. -/
def clusterRole (c : Char) : ClusterRole :=
  let n := c.toNat
  if c = '\r' then .carriageReturn
  else if c = '\n' then .lineFeed
  else if n < 0x20 ∨ n = 0x7f then .control
  else if n < 0x80 then .other
  else if n = 0x200c then .parting
  else if n = 0x200d then .joiner
  else if 0x1f1e6 ≤ n ∧ n ≤ 0x1f1ff then .regional
  else if conjunctLinks.contains n then .linking
  else if controlRanges.contains n then .control
  else if extendingRanges.contains n then .extending
  else if spacingRanges.contains n then .spacing
  else if prependedRanges.contains n then .prepended
  else if pictographRanges.contains n then .pictograph
  else if conjunctRanges.contains n then .conjunctLetter
  else (syllableRole? n).getD .other

namespace ClusterRole

/-- Whether a character of a role is a mark that extends the one before it. -/
def isExtending (r : ClusterRole) : Bool :=
  r = extending || r = linking || r = parting

/-- Whether a character of a role ends a cluster at both of its sides. -/
def standsAlone (r : ClusterRole) : Bool :=
  r = carriageReturn || r = lineFeed || r = control

/-- Whether two characters of these roles that follow each other belong to one syllable. -/
def formSyllable : ClusterRole → ClusterRole → Bool
  | leadingJamo, next =>
    next = leadingJamo || next = vowelJamo || next = openSyllable || next = closedSyllable
  | vowelJamo, next | openSyllable, next => next = vowelJamo || next = trailingJamo
  | trailingJamo, next | closedSyllable, next => next = trailingJamo
  | _, _ => false

end ClusterRole

/-! ## States -/

/-- How far a sequence of pictographs has come. -/
inductive PictureState where
  /-- There is none. -/
  | absent
  /-- A pictograph and marks that extend it. -/
  | extended
  /-- The same, and a joiner behind it. -/
  | joined
  deriving DecidableEq, Repr

/-- How far a conjunct has come. -/
inductive ConjunctState where
  /-- There is none. -/
  | absent
  /-- A letter and marks that extend it. -/
  | extended
  /-- The same, with a link among the marks. -/
  | linked
  deriving DecidableEq, Repr

/-- What counts of the characters before a place. -/
structure ClusterState where
  /-- The role of the last one. -/
  last : ClusterRole
  picture : PictureState
  conjunct : ConjunctState
  /-- Whether the number of regional indicators at the end is odd. -/
  halfFlag : Bool

namespace PictureState

/-- The state behind a character of a role. -/
def next (s : PictureState) (r : ClusterRole) : PictureState :=
  if r = .pictograph then extended
  else if r = .joiner ∧ s = extended then joined
  else if r.isExtending ∧ s = extended then extended
  else absent

end PictureState

namespace ConjunctState

/-- The state behind a character of a role. -/
def next (s : ConjunctState) (r : ClusterRole) : ConjunctState :=
  if r = .conjunctLetter then extended
  else if r = .linking ∧ s ≠ absent then linked
  else if r = .extending ∨ r = .joiner then s
  else absent

end ConjunctState

namespace ClusterState

/-- The state behind the first character of a text. -/
def first (r : ClusterRole) : ClusterState :=
  ⟨r, PictureState.absent.next r, ConjunctState.absent.next r, r = .regional⟩

/-- The state behind one more character. -/
def next (s : ClusterState) (r : ClusterRole) : ClusterState where
  last := r
  picture := s.picture.next r
  conjunct := s.conjunct.next r
  halfFlag := r = .regional && !s.halfFlag

/-- Whether a cluster ends in front of a character of this role. -/
def breaksBefore (s : ClusterState) (r : ClusterRole) : Bool :=
  if s.last = .carriageReturn ∧ r = .lineFeed then false
  else if s.last.standsAlone ∨ r.standsAlone then true
  else if s.last.formSyllable r then false
  else if r.isExtending ∨ r = .joiner ∨ r = .spacing then false
  else if s.last = .prepended then false
  else if r = .conjunctLetter then s.conjunct ≠ .linked
  else if r = .pictograph then s.picture ≠ .joined
  else if r = .regional then !s.halfFlag
  else true

end ClusterState

/-! ## Clusters -/

/-- The clusters of a text from the one on that is being read, whose characters so far are given
last one first. -/
def clustersFrom (s : ClusterState) (reversed : List Char) : List Char → List String
  | [] => [String.ofList reversed.reverse]
  | c :: cs =>
    let r := clusterRole c
    if s.breaksBefore r then
      String.ofList reversed.reverse :: clustersFrom (s.next r) [c] cs
    else clustersFrom (s.next r) (c :: reversed) cs

/-- The clusters of a text. -/
def clusters (s : String) : List String :=
  match s.toList with
  | [] => []
  | c :: cs => clustersFrom (.first (clusterRole c)) [c] cs

end RegisterFile.Text
