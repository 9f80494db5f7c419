import RegisterFile.CommandLine.Arguments
import RegisterFile.Proofs.Numeral

set_option autoImplicit false

/-!
# Spelling commands

Every command whose paths are not empty can be spelled: its options by their names with the values
attached, and its path behind `--`, where nothing is an option. So names, values and paths of any
kind can be given, those that look like options among them.

## Main definitions

* `CommandLine.Spells` - some arguments stand for a command.
* `CommandLine.Command.arguments` - a command as a list of arguments.

## Main results

* `CommandLine.divideFrom_attached` - options with their values attached are read as these options.
* `CommandLine.spells_arguments` - the arguments of a command stand for it.
-/

namespace RegisterFile.CommandLine

/-- Some arguments stand for a command, whatever they ask to be told. -/
def Spells (arguments : List String) (command : Command) : Prop :=
  ∃ threshold, parse arguments = some ⟨threshold, command⟩

/-! ## Options -/

/-- An option with its value attached. -/
def attached (option : String × String) : String := "--" ++ option.1 ++ "=" ++ option.2

/-- An option without an equals sign in its name is divided from its value. -/
lemma splitAttached_attached {name : String} (h : '=' ∉ name.toList) (value : String) :
    splitAttached (name.toList ++ '=' :: value.toList) = (name, some value) := by
  have hname : ∀ c ∈ name.toList, decide (c ≠ '=') = true := fun c hc =>
    decide_eq_true fun heq => h (heq ▸ hc)
  rw [splitAttached, List.takeWhile_append_of_pos hname, List.dropWhile_append_of_pos hname]
  simp

/-- An option with its value attached is read as this option. -/
lemma divideFrom_cons_attached {form : Form} {name : String} (hvalued : name ∈ form.valued)
    (hname : '=' ∉ name.toList) (value : String) (rest : List String) :
    divideFrom form none (attached (name, value) :: rest) =
      (divideFrom form none rest).bind fun parts => parts.addValue name value := by
  have hlist : (attached (name, value)).toList =
      '-' :: '-' :: (name.toList ++ '=' :: value.toList) := by
    simp [attached]
  obtain ⟨c, cs, hcs⟩ : ∃ c cs, name.toList ++ '=' :: value.toList = c :: cs :=
    List.exists_cons_of_ne_nil (by simp)
  have hsplit : splitAttached (c :: cs) = (name, some value) :=
    hcs ▸ splitAttached_attached hname value
  rw [hcs] at hlist
  rw [divideFrom, hlist]
  simp only [hsplit, List.contains_iff_mem.mpr hvalued, if_true]
  rfl

/-- **Options with their values attached are read as these options**, in front of arguments without
such options, if the command knows them and each is given once.

**Proof sketch.** Induction on the options. What is read behind an option does not have its name. -/
theorem divideFrom_attached {form : Form} {options : List (String × String)}
    (hnames : (options.map Prod.fst).Sublist form.valued) (hnodup : form.valued.Nodup)
    (hequals : ∀ name ∈ form.valued, '=' ∉ name.toList) {rest : List String} {parts : Parts}
    (hrest : divideFrom form none rest = some parts) (hvalues : parts.values = []) :
    divideFrom form none (options.map attached ++ rest) =
      some { parts with values := options } := by
  induction options with
  | nil => rw [List.map_nil, List.nil_append, hrest, ← hvalues]
  | cons o options ih =>
    obtain ⟨name, value⟩ := o
    rw [List.map_cons] at hnames
    have hvalued : name ∈ form.valued := hnames.subset List.mem_cons_self
    have hnone : options.lookup name = none := by
      refine List.lookup_eq_none_iff.mpr fun o ho => bne_iff_ne.mpr fun heq => ?_
      exact (List.nodup_cons.mp (hnames.nodup hnodup)).1 (List.mem_map.mpr ⟨o, ho, heq.symm⟩)
    have hoptions := ih ((List.sublist_cons_self _ _).trans hnames)
    rw [List.map_cons, List.cons_append,
      divideFrom_cons_attached hvalued (hequals name hvalued), hoptions, Option.bind_some,
      Parts.addValue, if_neg (by simp [hnone])]

/-! ## Commands as arguments -/

/-- An option that is given if there is a value for it. -/
def givenAs {α : Type} (name : String) (write : α → String) (value : Option α) :
    List (String × String) :=
  value.toList.map fun v => (name, write v)

/-- The options that overrides are given by. -/
def Overrides.options (o : Overrides) : List (String × String) :=
  givenAs "module" id o.moduleName ++
    givenAs "width" (fun bits => Numeral.hex bits.toNat) o.registerWidth

/-- The options that a template is given by. -/
def templateOptions (template : Option (String × String)) : List (String × String) :=
  givenAs "template-dir" id (template.map Prod.fst) ++ givenAs "template" id (template.map Prod.snd)

/-- The name of a sorting. -/
def sortingName : Sorting → String
  | .preserve => "preserve"
  | .address => "address"
  | .alpha => "alpha"

/-- A command as a list of arguments, its path behind all options. -/
def Command.arguments : Command → List String
  | .generate path output overrides template =>
    "gen" :: ((givenAs "output" id output ++ overrides.options ++ templateOptions template).map
      attached ++ ["--", path])
  | .plan path overrides json =>
    "plan" :: (overrides.options.map attached ++
      ((if json then ["--json"] else []) ++ ["--", path]))
  | .listRegisters path sorting =>
    "ls-registers" :: ([("sorting", sortingName sorting)].map attached ++ ["--", path])
  | .sample => ["example"]

/-- The paths of a command are not empty. -/
def Command.HasPaths : Command → Prop
  | .generate path output _ template =>
    path ≠ "" ∧ (∀ o ∈ output, o ≠ "") ∧ ∀ t ∈ template, t.1 ≠ ""
  | .plan path _ _ => path ≠ ""
  | .listRegisters path _ => path ≠ ""
  | .sample => True

section

variable {α : Type} (name : String) (write : α → String) (value : Option α)

/-- An option that is given has its name. -/
lemma sublist_givenAs : ((givenAs name write value).map Prod.fst).Sublist [name] := by
  cases value <;> simp [givenAs]

/-- An option that is given is found by its name only. -/
lemma lookup_givenAs (other : String) :
    (givenAs name write value).lookup other = if other = name then value.map write else none := by
  cases value with
  | none => simp [givenAs]
  | some v =>
    by_cases h : other = name
    · simp [givenAs, h]
    · simp [givenAs, h, List.lookup_cons, beq_false_of_ne h]

variable {name value}

/-- What an option is given as is read from it. -/
lemma valueOf_eq_some {parts : Parts} {read : String → Option α}
    (hlookup : parts.values.lookup name = value.map write)
    (hread : ∀ v ∈ value, read (write v) = some v) : parts.valueOf name read = some value := by
  rw [Parts.valueOf, hlookup]
  cases value with
  | none => rfl
  | some v => simp [hread v rfl]

end

/-- A path that is not empty is read as it is. -/
lemma path?_eq_some {s : String} (h : s ≠ "") : path? s = some s := if_neg h

/-- A width that is written in hexadecimal is read as this width. -/
lemma width?_hex (bits : UInt32) : width? (Numeral.hex bits.toNat) = some bits := by
  have hlist : (Numeral.hex bits.toNat).toList = '0' :: 'x' :: Numeral.digits 16 bits.toNat :=
    String.toList_ofList
  have hplus : ∀ cs, Numeral.digits 16 bits.toNat ≠ '+' :: cs := by
    intro cs hcs
    have hmem : '+' ∈ Numeral.digits 16 bits.toNat := hcs ▸ List.mem_cons_self
    obtain ⟨d, hd, heq⟩ := Numeral.exists_of_mem_digits (by decide) hmem
    have hall : ∀ d < 16, '+' ≠ Nat.digitChar d := by decide
    exact hall d hd heq
  have hvalue : Numeral.value? 16 (Numeral.digits 16 bits.toNat) = some bits.toNat :=
    Numeral.value?_digits (by decide) (by decide) bits.toNat
  have hsize : bits.toNat < UInt32.size := bits.toNat_lt
  unfold width?
  simp only [hlist]
  simp [hvalue, hsize]

/-- The name of a command, options that it knows with their values attached, and what is divided
into a path and flags stand for the command that these are read as. -/
lemma spells_cons_attached {name path : String} {rest flags : List String}
    {options : List (String × String)} {f : Form} {command : Command}
    (hname : name ≠ "--" ∧ looksLikeOption name = false) (hform : form name = some f)
    (hnames : (options.map Prod.fst).Sublist f.valued)
    (hvalued : f.valued.Nodup ∧ ∀ option ∈ f.valued, '=' ∉ option.toList)
    (hrest : divideFrom f none rest = some ⟨[path], [], flags, 0, 0⟩)
    (hcommand : command? name ⟨[path], options, flags, 0, 0⟩ = some command) :
    Spells (name :: (options.map attached ++ rest)) command := by
  refine ⟨some .warning, ?_⟩
  have hsplit : splitCommand (name :: (options.map attached ++ rest)) =
      some ([], name, options.map attached ++ rest) := by
    rw [splitCommand, if_neg hname.1, if_neg (by simp [hname.2])]
  have hempty : divide ⟨[], [], []⟩ [] = some .empty := rfl
  have hdivide : divide f (options.map attached ++ rest) = some ⟨[path], options, flags, 0, 0⟩ :=
    divideFrom_attached hnames hvalued.1 hvalued.2 hrest rfl
  simp only [parse, hsplit, hempty, hform, hdivide, hcommand, Parts.empty, Option.bind_eq_bind,
    Option.bind_some]
  rfl

/-- The options that overrides are given by have the names of these. -/
lemma sublist_options (o : Overrides) :
    (o.options.map Prod.fst).Sublist ["module", "width"] := by
  rw [Overrides.options, List.map_append]
  exact (sublist_givenAs "module" id o.moduleName).append
    (sublist_givenAs "width" _ o.registerWidth)

/-- The options that a template is given by have the names of these. -/
lemma sublist_templateOptions (template : Option (String × String)) :
    ((templateOptions template).map Prod.fst).Sublist ["template-dir", "template"] := by
  rw [templateOptions, List.map_append]
  exact (sublist_givenAs "template-dir" id _).append (sublist_givenAs "template" id _)

/-- Overrides are read from their options. -/
lemma overrides?_eq_some {parts : Parts} {o : Overrides}
    (hmodule : parts.values.lookup "module" = o.moduleName.map id)
    (hwidth : parts.values.lookup "width" =
      o.registerWidth.map fun bits => Numeral.hex bits.toNat) : parts.overrides? = some o := by
  have hmodule' : parts.valueOf "module" some = some o.moduleName :=
    valueOf_eq_some id hmodule fun _ _ => rfl
  have hwidth' : parts.valueOf "width" width? = some o.registerWidth :=
    valueOf_eq_some _ hwidth fun bits _ => width?_hex bits
  rw [Parts.overrides?, hmodule', hwidth']
  rfl

/-- A template is read from its options. -/
lemma template?_eq_some {parts : Parts} {template : Option (String × String)}
    (hdirectory : parts.values.lookup "template-dir" = (template.map Prod.fst).map id)
    (hname : parts.values.lookup "template" = template.map Prod.snd)
    (hpath : ∀ t ∈ template, t.1 ≠ "") : parts.template? = some template := by
  have hdirectory' : parts.valueOf "template-dir" path? = some (template.map Prod.fst) := by
    refine valueOf_eq_some id hdirectory fun directory hmem => ?_
    obtain ⟨t, ht, rfl⟩ := Option.map_eq_some_iff.mp hmem
    exact path?_eq_some (hpath t ht)
  rw [Parts.template?, hdirectory', hname]
  cases template <;> rfl

/-- **The arguments of a command stand for it.** -/
theorem spells_arguments {command : Command} (h : command.HasPaths) :
    Spells command.arguments command := by
  have hword : ∀ f path, divideFrom f none ["--", path] = some ⟨[path], [], [], 0, 0⟩ :=
    fun _ _ => rfl
  cases command with
  | generate path output overrides template =>
    obtain ⟨hpath, houtput, htemplate⟩ := h
    have hnames : ((givenAs "output" id output ++ overrides.options ++
        templateOptions template).map Prod.fst).Sublist
          ["output", "module", "width", "template-dir", "template"] := by
      rw [List.map_append, List.map_append]
      exact ((sublist_givenAs "output" id output).append (sublist_options overrides)).append
        (sublist_templateOptions template)
    refine spells_cons_attached (by decide) rfl hnames (by decide)
      (hword ⟨_, [], [('o', "output")]⟩ path) ?_
    generalize hvalues : givenAs "output" id output ++ overrides.options ++
      templateOptions template = values
    rw [Overrides.options, templateOptions] at hvalues
    have hdeclaration : Parts.declaration? ⟨[path], values, [], 0, 0⟩ = some path :=
      path?_eq_some hpath
    have houtput' : Parts.valueOf ⟨[path], values, [], 0, 0⟩ "output" path? = some output :=
      valueOf_eq_some id (by simp [← hvalues, List.lookup_append, lookup_givenAs]) fun o ho =>
        path?_eq_some (houtput o ho)
    have hoverrides : Parts.overrides? ⟨[path], values, [], 0, 0⟩ = some overrides :=
      overrides?_eq_some (by simp [← hvalues, List.lookup_append, lookup_givenAs])
        (by simp [← hvalues, List.lookup_append, lookup_givenAs])
    have htemplate' : Parts.template? ⟨[path], values, [], 0, 0⟩ = some template :=
      template?_eq_some (by simp [← hvalues, List.lookup_append, lookup_givenAs])
        (by simp [← hvalues, List.lookup_append, lookup_givenAs]) htemplate
    rw [command?, hdeclaration, houtput', hoverrides, htemplate']
    rfl
  | plan path overrides json =>
    have hflags : divideFrom ⟨["module", "width"], ["json"], []⟩ none
        ((if json then ["--json"] else []) ++ ["--", path]) =
          some ⟨[path], [], if json then ["json"] else [], 0, 0⟩ := by
      cases json <;> rfl
    refine spells_cons_attached (by decide) rfl (sublist_options overrides) (by decide) hflags ?_
    generalize hvalues : overrides.options = values
    rw [Overrides.options] at hvalues
    have hdeclaration : Parts.declaration?
        ⟨[path], values, if json then ["json"] else [], 0, 0⟩ = some path := path?_eq_some h
    have hoverrides : Parts.overrides?
        ⟨[path], values, if json then ["json"] else [], 0, 0⟩ = some overrides :=
      overrides?_eq_some (by simp [← hvalues, List.lookup_append, lookup_givenAs])
        (by simp [← hvalues, List.lookup_append, lookup_givenAs])
    rw [command?, hdeclaration, hoverrides]
    cases json <;> rfl
  | listRegisters path sorting =>
    have hnames : ([("sorting", sortingName sorting)].map Prod.fst).Sublist ["sorting"] :=
      List.Sublist.refl _
    refine spells_cons_attached (by decide) rfl hnames (by decide) (hword ⟨_, [], []⟩ path) ?_
    have hdeclaration : Parts.declaration?
        ⟨[path], [("sorting", sortingName sorting)], [], 0, 0⟩ = some path := path?_eq_some h
    have hsorting : Parts.valueOf ⟨[path], [("sorting", sortingName sorting)], [], 0, 0⟩ "sorting"
        sorting? = some (some sorting) := by
      cases sorting <;> rfl
    rw [command?, hdeclaration, hsorting]
    rfl
  | sample => exact ⟨some .warning, rfl⟩

/-- A path that looks like an option stands behind the two minuses. -/
example : Command.arguments (.generate "-f" none ⟨some "top", some 64⟩ none) =
    ["gen", "--module=top", "--width=0x40", "--", "-f"] := by rfl

end RegisterFile.CommandLine
