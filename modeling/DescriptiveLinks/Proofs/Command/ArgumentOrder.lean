import Mathlib.Logic.ExistsUnique
import DescriptiveLinks.Command.Run
import DescriptiveLinks.Proofs.Command.Scanning

/-! # The order of arguments

An option may stand anywhere among the arguments, and of one that is given several times only the
last value counts. So a run sees of its arguments no more than the inputs in their order and the
last value of each option, once it is clear which argument is taken for what.

* `Command.Spells` says which settings a list of arguments spells, and `Command.Spells.unique` that
  it does so in one way at most.
* `Command.run_eq_of_sameSettings` says what a run depends on, and that options may be moved. -/

namespace DescriptiveLinks.Command

/-! ## Spelling -/

/-- Whether a list of arguments **spells** settings: each of them in turn, an option with the value
that it takes. -/
structure Spells (arguments : List String) (settings : List Setting) : Prop where
  /-- The arguments are the words of the settings. -/
  words : arguments = settings.flatMap Setting.words
  /-- Each setting is taken for what it is. -/
  plain : ∀ s ∈ settings, s.IsPlain

namespace Setting

variable {s t : Setting} {x y : List String}

theorem words_ne_nil (s : Setting) : s.words ≠ [] := by
  cases s <;> exact List.cons_ne_nil _ _

theorem name_injective {f g : Format} (h : f.name = g.name) : f = g :=
  Option.some_inj.mp ((Format.ofName?_eq_some_iff.mpr rfl).symm.trans
    (Format.ofName?_eq_some_iff.mpr h))

/-- What looks like an option is no input. -/
theorem IsPlain.ne_of_dashes {path : String} (h : (input path).IsPlain) {word : String}
    (hdashes : ['-', '-'] <+: word.toList) : path ≠ word := by
  rintro rfl
  exact h.2 hdashes

/-- The first setting can be told from the arguments that begin with it. -/
theorem words_append_inj (hs : s.IsPlain) (ht : t.IsPlain) (h : s.words ++ x = t.words ++ y) :
    s = t ∧ x = y := by
  cases s with
  | config path =>
    cases t with
    | config other =>
      obtain ⟨hpath, hrest⟩ := List.cons.inj (List.cons.inj h).2
      exact ⟨congrArg config hpath, hrest⟩
    | format g => exact absurd (List.cons.inj h).1 (by decide)
    | input other => exact absurd (List.cons.inj h).1.symm (ht.ne_of_dashes (by decide))
  | format f =>
    cases t with
    | config other => exact absurd (List.cons.inj h).1 (by decide)
    | format g =>
      obtain ⟨hname, hrest⟩ := List.cons.inj (List.cons.inj h).2
      exact ⟨congrArg format (name_injective hname), hrest⟩
    | input other => exact absurd (List.cons.inj h).1.symm (ht.ne_of_dashes (by decide))
  | input path =>
    cases t with
    | config other => exact absurd (List.cons.inj h).1 (hs.ne_of_dashes (by decide))
    | format g => exact absurd (List.cons.inj h).1 (hs.ne_of_dashes (by decide))
    | input other =>
      obtain ⟨hpath, hrest⟩ := List.cons.inj h
      exact ⟨congrArg input hpath, hrest⟩

end Setting

section Spelling

variable {x y : List String} {ss tt : List Setting}

/-- **A list of arguments spells one list of settings** at most. -/
theorem Spells.unique (hs : Spells x ss) (ht : Spells x tt) : ss = tt := by
  obtain ⟨rfl, hplain⟩ := hs
  obtain ⟨hwords, hplain'⟩ := ht
  -- The first settings are the same, and so are the words after them.
  induction ss generalizing tt with
  | nil =>
    cases tt with
    | nil => rfl
    | cons t tt =>
      rw [List.flatMap_nil, List.flatMap_cons] at hwords
      exact absurd (List.append_eq_nil_iff.mp hwords.symm).1 t.words_ne_nil
  | cons s ss ih =>
    cases tt with
    | nil =>
      rw [List.flatMap_nil, List.flatMap_cons] at hwords
      exact absurd (List.append_eq_nil_iff.mp hwords).1 s.words_ne_nil
    | cons t tt =>
      obtain ⟨hs, hss⟩ := List.forall_mem_cons.mp hplain
      obtain ⟨ht, htt⟩ := List.forall_mem_cons.mp hplain'
      rw [List.flatMap_cons, List.flatMap_cons] at hwords
      obtain ⟨rfl, hrest⟩ := Setting.words_append_inj hs ht hwords
      rw [ih hss hrest htt]

theorem Spells.ofArguments_eq (h : Spells x ss) :
    Request.ofArguments x = .check (.ofSettings ss) := by
  obtain ⟨rfl, hplain⟩ := h
  exact (Comes.check hplain).ofArguments_eq

/-- The lists of arguments that ask for a check are those that spell settings, and each of them does
so in one way. -/
theorem exists_check_iff : (∃ a, Request.ofArguments x = .check a) ↔ ∃! ss, Spells x ss := by
  constructor
  · rintro ⟨a, ha⟩
    -- Arguments that ask for a check do not end at an argument that decides otherwise.
    cases ofArguments_eq_iff_comes.mp ha with
    | @check settings hplain =>
      have hspells : Spells (settings.flatMap Setting.words) settings := ⟨rfl, hplain⟩
      exact ⟨settings, hspells, fun _ h => h.unique hspells⟩
    | decided _ hrest => cases hrest
  · rintro ⟨ss, h, -⟩
    exact ⟨_, h.ofArguments_eq⟩

end Spelling

/-! ## What a run depends on -/

/-- Whether settings **say the same**: they have the same inputs, and the same last value of each
option, if any. -/
structure SameSettings (ss tt : List Setting) : Prop where
  /-- The inputs. -/
  inputs : ss.filterMap Setting.input? = tt.filterMap Setting.input?
  /-- The last configuration. -/
  config : (ss.filterMap Setting.config?).getLast? = (tt.filterMap Setting.config?).getLast?
  /-- The last format. -/
  format : (ss.filterMap Setting.format?).getLast? = (tt.filterMap Setting.format?).getLast?

theorem SameSettings.ofSettings_eq {ss tt : List Setting} (h : SameSettings ss tt) :
    Arguments.ofSettings ss = .ofSettings tt := by
  rw [Arguments.ofSettings, h.inputs, h.config, h.format, ← Arguments.ofSettings]

/-- Runs with arguments that come to the same are the same. -/
theorem run_congr_request {x y : List String}
    (h : Request.ofArguments x = Request.ofArguments y) (files : Files) (input : Contents) :
    run x files input = run y files input := by
  rw [run, h, ← run]

/-! ## Moving options -/

namespace Setting

/-- Whether a setting is an option. -/
def IsOption : Setting → Prop
  | input _ => False
  | _ => True

/-- Whether two settings are values of one option. -/
def SameOption : Setting → Setting → Prop
  | config _, config _ => True
  | format _, format _ => True
  | _, _ => False

variable {s : Setting} {settings : List Setting}

theorem filterMap_config?_eq_nil {path : String}
    (h : ∀ t ∈ settings, ¬ (config path).SameOption t) : settings.filterMap config? = [] := by
  rw [List.filterMap_eq_nil_iff]
  intro t ht
  cases t with
  | config other => exact absurd trivial (h _ ht)
  | format f => rfl
  | input other => rfl

theorem filterMap_format?_eq_nil {f : Format}
    (h : ∀ t ∈ settings, ¬ (format f).SameOption t) : settings.filterMap format? = [] := by
  rw [List.filterMap_eq_nil_iff]
  intro t ht
  cases t with
  | config path => rfl
  | format g => exact absurd trivial (h _ ht)
  | input other => rfl

end Setting

/-- **An option may be moved** as long as it stays the last of its kind. -/
theorem sameSettings_move {s : Setting} (hs : s.IsOption)
    {before after before' after' : List Setting} (hmove : before ++ after = before' ++ after')
    (hlast : ∀ t ∈ after, ¬ s.SameOption t) (hlast' : ∀ t ∈ after', ¬ s.SameOption t) :
    SameSettings (before ++ s :: after) (before' ++ s :: after') := by
  have hother {α : Type} {view : Setting → Option α} (hnone : view s = none) :
      (before ++ s :: after).filterMap view = (before' ++ s :: after').filterMap view := by
    rw [List.filterMap_append, List.filterMap_cons_none hnone, ← List.filterMap_append, hmove,
      List.filterMap_append, List.filterMap_append, List.filterMap_cons_none hnone]
  -- Settings of other kinds stay in their order, and of its own kind the option is the last.
  cases s with
  | config path =>
    refine ⟨hother rfl, ?_, congrArg List.getLast? (hother rfl)⟩
    simp [Setting.config?, Setting.filterMap_config?_eq_nil hlast,
      Setting.filterMap_config?_eq_nil hlast']
  | format f =>
    refine ⟨hother rfl, congrArg List.getLast? (hother rfl), ?_⟩
    simp [Setting.format?, Setting.filterMap_format?_eq_nil hlast,
      Setting.filterMap_format?_eq_nil hlast']
  | input path => exact hs.elim

/-- **Runs depend on the inputs and on the last value of each option.** Arguments that ask for a
check spell settings in exactly one way, and runs whose settings say the same have the same outcome.
So an option may be moved, with its value, to any place between the other settings, as long as it
stays the last of its kind. -/
theorem run_eq_of_sameSettings :
    (∀ x, (∃ a, Request.ofArguments x = .check a) ↔ ∃! ss, Spells x ss) ∧
    (∀ x y ss tt, Spells x ss → Spells y tt → SameSettings ss tt →
      ∀ files input, run x files input = run y files input) ∧
    ∀ x s before after before' after', Spells x (before ++ s :: after) → s.IsOption →
      before ++ after = before' ++ after' → (∀ t ∈ after, ¬ s.SameOption t) →
      (∀ t ∈ after', ¬ s.SameOption t) →
        ∃ y, Spells y (before' ++ s :: after') ∧
          ∀ files input, run y files input = run x files input := by
  have hrun : ∀ x y ss tt, Spells x ss → Spells y tt → SameSettings ss tt →
      ∀ files input, run x files input = run y files input := by
    intro x y ss tt hx hy hsame files input
    apply run_congr_request
    rw [hx.ofArguments_eq, hy.ofArguments_eq, hsame.ofSettings_eq]
  refine ⟨fun x => exists_check_iff, hrun, ?_⟩
  intro x s before after before' after' hx hs hmove hlast hlast'
  have hplain : ∀ t ∈ before' ++ s :: after', t.IsPlain := by
    intro t ht
    apply hx.plain
    have hperm : (before' ++ s :: after').Perm (before ++ s :: after) := by
      refine List.perm_middle.trans (List.Perm.trans ?_ List.perm_middle.symm)
      rw [hmove]
    exact hperm.mem_iff.mp ht
  have hy : Spells ((before' ++ s :: after').flatMap Setting.words) (before' ++ s :: after') :=
    ⟨rfl, hplain⟩
  exact ⟨_, hy, hrun _ _ _ _ hy hx (sameSettings_move hs hmove.symm hlast' hlast)⟩

/-- A configuration that is named like an option, between other settings, at their end after another
configuration, and at their front. -/
theorem run_eq_of_config_named_format :
    let x := ["--format", "pretty", "a.json", "--config", "--format", "--format", "json", "-"]
    (∀ files input, run x files input =
      run ["--config", "b.json", "a.json", "--format", "json", "-", "--config", "--format"] files
        input) ∧
    ∀ files input,
      run ["--config", "--format", "--format", "pretty", "a.json", "--format", "json", "-"] files
        input = run x files input := by
  intro x
  obtain ⟨-, hsame, hmove⟩ := run_eq_of_sameSettings
  have hx : Spells x ([.format .pretty, .input "a.json"] ++
      .config "--format" :: [.format .json, .input "-"]) := by
    refine ⟨rfl, ?_⟩
    simp [Setting.IsPlain]
  constructor
  · refine hsame x _ _ [.config "b.json", .input "a.json", .format .json, .input "-",
      .config "--format"] hx ⟨rfl, ?_⟩ ⟨rfl, rfl, rfl⟩
    simp [Setting.IsPlain]
  · obtain ⟨y, hy, hrun⟩ := hmove x (.config "--format") _ _ []
      [.format .pretty, .input "a.json", .format .json, .input "-"] hx trivial rfl
      (by simp [Setting.SameOption]) (by simp [Setting.SameOption])
    rw [hy.words] at hrun
    exact hrun

end DescriptiveLinks.Command
