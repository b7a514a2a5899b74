import CleanSql.Program
import CleanSql.Proofs.Decode.Agreement
import CleanSql.Proofs.Run

/-!
# The settings that count

Choices come from the command line, the environment and two files. What a run goes by is decided
choice by choice (`SetUp.choice`), but the file of the working directory takes the place of the one
in the home directory as a whole (`SetUp.file`). A run sees nothing else of its settings
(`CompileRequest.run_effective`): a name whose place another one takes is never looked up.
-/
namespace CleanSql

theorem Dialect.ofName?_name (d : Dialect) : Dialect.ofName? d.name = some d := by
  cases d <;> decide +kernel

theorem Target.ofName_name (t : Target) : Target.ofName t.name = .ok t :=
  toOption_eq_some_iff.mp (by cases t <;> decide +kernel)

def Dialect.named : Option String → Except Failure Dialect
  | none => .ok .ansi
  | some name =>
    match Dialect.ofName? name with
    | some d => .ok d
    | none => .error (.unknownConfiguredDialect name)

def Target.named : Option String → Except Failure Target
  | none => .ok .sql
  | some name => Target.ofName name

theorem Dialect.named_eq_error_iff {choice : Option String} {f : Failure} :
    Dialect.named choice = .error f ↔
      ∃ name, choice = some name ∧ Dialect.ofName? name = none ∧
        f = .unknownConfiguredDialect name := by
  cases choice with
  | none => simp [Dialect.named]
  | some name => cases h : Dialect.ofName? name <;> simp [Dialect.named, h, eq_comm]

theorem Target.named_eq_error_iff {choice : Option String} {f : Failure} :
    Target.named choice = .error f ↔
      ∃ name, choice = some name ∧ Target.ofName name = .error f := by
  cases choice <;> simp [Target.named]

theorem Target.kind_of_ofName_eq_error {name : String} {f : Failure}
    (h : Target.ofName name = .error f) : f.kind = .badRequest := by
  unfold Target.ofName at h
  split at h <;> cases h
  rfl

namespace Settings

def plan (s : Settings) : Except Failure CompilePlan :=
  (Dialect.named s.preferences.dialect).bind fun dialect =>
    (Target.named s.preferences.target).map fun target =>
      ⟨dialect, target, s.preferences.catalog⟩

/-- Settings with a name that is no dialect or no choice of documents. -/
def HasUnknownName (s : Settings) : Prop :=
  (∃ name, s.preferences.dialect = some name ∧ Dialect.ofName? name = none) ∨
    ∃ name f, s.preferences.target = some name ∧ Target.ofName name = .error f

variable {s : Settings}

theorem of_plan_eq_error {f : Failure} (h : s.plan = .error f) :
    s.HasUnknownName ∧ f.kind = .badRequest := by
  unfold plan at h
  cases hd : Dialect.named s.preferences.dialect with
  | error g =>
    rw [hd] at h
    cases h
    obtain ⟨name, hname, hunknown, rfl⟩ := Dialect.named_eq_error_iff.mp hd
    exact ⟨.inl ⟨name, hname, hunknown⟩, rfl⟩
  | ok d =>
    rw [hd] at h
    cases ht : Target.named s.preferences.target with
    | ok t =>
      rw [ht] at h
      cases h
    | error g =>
      rw [ht] at h
      cases h
      obtain ⟨name, hname, hunknown⟩ := Target.named_eq_error_iff.mp ht
      exact ⟨.inr ⟨name, _, hname, hunknown⟩, Target.kind_of_ofName_eq_error hunknown⟩

theorem not_hasUnknownName_of_plan {p : CompilePlan} (h : s.plan = .ok p) :
    ¬ s.HasUnknownName := by
  unfold plan at h
  rintro (⟨name, hname, hunknown⟩ | ⟨name, f, hname, hunknown⟩)
  · have hd := Dialect.named_eq_error_iff.mpr ⟨name, hname, hunknown, rfl⟩
    rw [hd] at h
    cases h
  · have ht := Target.named_eq_error_iff.mpr ⟨name, hname, hunknown⟩
    rw [ht] at h
    cases hd : Dialect.named s.preferences.dialect <;> rw [hd] at h <;> cases h

end Settings

namespace CompileRequest

def preferences (r : CompileRequest) : Preferences where
  dialect := r.dialect.map Dialect.name
  catalog := r.catalog
  target := r.target.map Target.name

/-- Settings in which the choices of a request come first. -/
def effective (r : CompileRequest) (s : Settings) : Settings where
  preferences := r.preferences.orElse s.preferences
  colored := !r.noColor && s.colored

variable (r : CompileRequest) (s : Settings)

theorem chosenDialect_eq :
    r.chosenDialect s = Dialect.named (r.effective s).preferences.dialect := by
  unfold chosenDialect Settings.dialect?
  cases hr : r.dialect with
  | some d => simp [effective, preferences, Preferences.orElse, hr, Dialect.named, d.ofName?_name]
  | none =>
    have hchoice : (r.effective s).preferences.dialect = s.preferences.dialect := by
      simp [effective, preferences, Preferences.orElse, hr]
    rw [hchoice]
    cases s.preferences.dialect with
    | none => rfl
    | some name => cases h : Dialect.ofName? name <;> simp [Dialect.named, h, Except.map]

theorem chosenTarget_eq :
    r.chosenTarget s = Target.named (r.effective s).preferences.target := by
  unfold chosenTarget Settings.target?
  cases hr : r.target with
  | some t => simp [effective, preferences, Preferences.orElse, hr, Target.named, t.ofName_name]
  | none =>
    have hchoice : (r.effective s).preferences.target = s.preferences.target := by
      simp [effective, preferences, Preferences.orElse, hr]
    rw [hchoice]
    cases s.preferences.target with
    | none => rfl
    | some name => cases h : Target.ofName name <;> simp [Target.named, h, Except.map]

/-- A run goes by the choices that count. -/
theorem plan_effective : r.plan s = (r.effective s).plan := by
  rw [plan_eq, chosenDialect_eq, chosenTarget_eq]
  rfl

/-- The requests ask for the same but for what can be chosen in settings. -/
structure SameTask (r r' : CompileRequest) : Prop where
  table : r.table = r'.table
  format : r.format = r'.format
  check : r.check = r'.check
  verbose : r.verbose = r'.verbose

theorem run_effective (reader : SqlReader) (inks : Bool) (file : Reading) :
    r.run reader inks s file =
      (r.readTable file).bind fun t => (r.effective s).plan.map fun p =>
        { report := p.checkedReport reader r.check t
          output := (p.checkedReport reader r.check t).format
            { format := r.format, colored := inks && (r.effective s).colored,
              verbose := r.verbose } } := by
  rw [run_eq, plan_effective, Bool.and_assoc]
  rfl

theorem SameTask.run_eq {r r' : CompileRequest} (h : r.SameTask r') {s s' : Settings}
    (hs : r.effective s = r'.effective s') (reader : SqlReader) (inks : Bool) (file : Reading) :
    r.run reader inks s file = r'.run reader inks s' file := by
  have hread : r.readTable file = r'.readTable file := by
    simp only [readTable, fileName, h.table]
  rw [run_effective, run_effective, hread, hs, h.check, h.format, h.verbose]

end CompileRequest

/-- What a settings file holds: nothing if it is not there, or the settings of its text. -/
inductive Reading.Holds : Reading → Option Settings → Prop where
  | missing : Holds (.error .missing) none
  | notDirectory : Holds (.error .notDirectory) none
  | settings {text : String} {s : Settings} (h : Settings.ofText text = .ok s) :
    Holds (.ok text) (some s)

theorem Reading.Holds.map_present? {reading : Reading} {content : Option Settings}
    (h : reading.Holds content) :
    reading.present?.map Settings.ofReading = content.map .ok := by
  cases h with
  | missing => rfl
  | notDirectory => rfl
  | settings h => exact congrArg some h

theorem homeSettingsPath_slash (directory : String) :
    homeSettingsPath (directory ++ "/") = directory ++ "/.config/tforge/config.toml" := by
  have hne : directory ++ "/" ≠ "" := by simp
  have hlast : (directory ++ "/").toList.getLast? = some '/' := by
    rw [String.toList_append]
    exact List.getLast?_concat
  rw [homeSettingsPath, if_neg hne, if_pos hlast, String.append_assoc]
  rfl

theorem homeSettingsPath_named {directory : String} (hne : directory ≠ "")
    (hlast : directory.toList.getLast? ≠ some '/') :
    homeSettingsPath directory = directory ++ "/.config/tforge/config.toml" := by
  rw [homeSettingsPath, if_neg hne, if_neg hlast, String.append_assoc]
  rfl

namespace Surroundings

/-- What the settings file of the home directory holds. A slash at the end of the directory's name
is not doubled. -/
inductive HomeHolds (w : Surroundings) : Option Settings → Prop where
  | homeless (h : w.variableValue "HOME" = none) : HomeHolds w none
  | unnamed {content : Option Settings} (h : w.variableValue "HOME" = some "")
    (hfile : (w.file ".config/tforge/config.toml").Holds content) : HomeHolds w content
  | slash {directory : String} {content : Option Settings}
    (h : w.variableValue "HOME" = some (directory ++ "/"))
    (hfile : (w.file (directory ++ "/.config/tforge/config.toml")).Holds content) :
    HomeHolds w content
  | named {directory : String} {content : Option Settings}
    (h : w.variableValue "HOME" = some directory) (hne : directory ≠ "")
    (hlast : directory.toList.getLast? ≠ some '/')
    (hfile : (w.file (directory ++ "/.config/tforge/config.toml")).Holds content) :
    HomeHolds w content

theorem HomeHolds.map_home {w : Surroundings} {content : Option Settings}
    (h : w.HomeHolds content) :
    w.settingsSources.home.map Settings.ofReading = content.map .ok := by
  unfold settingsSources
  cases h with
  | homeless h =>
    rw [h]
    rfl
  | unnamed h hfile =>
    rw [h]
    exact hfile.map_present?
  | slash h hfile =>
    rw [h, Option.bind_some, homeSettingsPath_slash]
    exact hfile.map_present?
  | named h hne hlast hfile =>
    rw [h, Option.bind_some, homeSettingsPath_named hne hlast]
    exact hfile.map_present?

end Surroundings

/-- A command line and all that settings are read from. The files of settings hold some if they are
there. -/
structure SetUp where
  request : CompileRequest
  surroundings : Surroundings
  /-- What the file of the home directory says; none if it is not there. -/
  home : Option Settings
  /-- What the file of the working directory says. -/
  workplace : Option Settings
  home_holds : surroundings.HomeHolds home
  workplace_holds : (surroundings.file ".tforge.toml").Holds workplace

namespace SetUp

variable (u : SetUp)

def environment : Preferences where
  dialect := u.surroundings.variableValue "TFORGE_DIALECT"
  catalog := u.surroundings.variableValue "TFORGE_CATALOG"
  target := u.surroundings.variableValue "TFORGE_TARGET"

/-- The file that counts: that of the working directory if it is there, whatever it says. -/
def file : Option Settings :=
  match u.workplace with
  | some s => some s
  | none => u.home

/-- One of the choices: the command line goes before the environment, and that before the file. -/
def choice (which : Preferences → Option String) : Option String :=
  match which u.request.preferences, which u.environment, u.file with
  | some name, _, _ => some name
  | none, some name, _ => some name
  | none, none, some s => which s.preferences
  | none, none, none => none

/-- The settings that count. Colours are on unless the command line or the file that counts
forbids them. -/
def effective : Settings where
  preferences := ⟨u.choice (·.dialect), u.choice (·.catalog), u.choice (·.target)⟩
  colored := !u.request.noColor && u.file.elim true (·.colored)

/-- A run of the command line on the file of a table. Neither what reads SQL back nor the place that
the output goes to is a matter of settings. -/
def run (reader : SqlReader) (inks : Bool) (table : Reading) : Except Failure Compilation := do
  u.request.run reader inks (← u.surroundings.settingsSources.load) table

def loaded : Settings := (u.file.getD {}).override u.environment

theorem read?_eq {file : Option Reading} {content : Option Settings}
    (h : file.map Settings.ofReading = content.map .ok) :
    SettingsSources.read? file = .ok content := by
  cases file with
  | none =>
    cases content with
    | none => rfl
    | some s => cases h
  | some reading =>
    cases content with
    | none => cases h
    | some s =>
      have hread : Settings.ofReading reading = .ok s := Option.some_inj.mp h
      show Option.mapM Settings.ofReading (some reading) = _
      simp [hread]

theorem load_eq : u.surroundings.settingsSources.load = .ok u.loaded := by
  have hfile : u.workplace.or u.home = u.file := by
    unfold file
    cases u.workplace <;> rfl
  have hworkplace : u.surroundings.settingsSources.workplace.map Settings.ofReading =
      u.workplace.map .ok :=
    u.workplace_holds.map_present?
  unfold SettingsSources.load
  rw [read?_eq u.home_holds.map_home, read?_eq hworkplace]
  show Except.ok (((u.workplace.or u.home).getD {}).override _) = _
  rw [hfile]
  rfl

theorem effective_loaded : u.request.effective u.loaded = u.effective := by
  -- Where no file is there, the standard settings leave every choice open.
  have hchoice (which : Preferences → Option String) (hnone : which {} = none) :
      (which u.request.preferences).or
        ((which u.environment).or (which (u.file.getD {}).preferences)) = u.choice which := by
    unfold choice
    cases which u.request.preferences <;> cases which u.environment <;> cases u.file <;>
      simp [hnone]
  have hcolored : (u.file.getD {}).colored = u.file.elim true (·.colored) := by
    cases u.file <;> rfl
  unfold effective
  rw [← hchoice (·.dialect) rfl, ← hchoice (·.catalog) rfl, ← hchoice (·.target) rfl, ← hcolored]
  rfl

theorem run_eq (reader : SqlReader) (inks : Bool) (table : Reading) :
    u.run reader inks table = u.request.run reader inks u.loaded table := by
  rw [run, load_eq]
  rfl

/-- Each choice is made by precedence, and what another choice takes the place of does not matter:
set-ups of one task in which the same settings count come to the same. On a table that can be read,
a run goes by the settings that count; it fails exactly if a name among them is not known, and then
the request is bad. -/
theorem run_by_precedence (u v : SetUp) (reader : SqlReader) (inks : Bool) (table : Reading) :
    (∃ s, u.surroundings.settingsSources.load = .ok s ∧ u.request.effective s = u.effective) ∧
    (u.request.SameTask v.request → u.effective = v.effective →
      u.run reader inks table = v.run reader inks table) ∧
    ∀ t, u.request.readTable table = .ok t →
      (¬ u.effective.HasUnknownName → ∃ p, u.effective.plan = .ok p ∧
        u.run reader inks table = .ok
          { report := p.checkedReport reader u.request.check t
            output := (p.checkedReport reader u.request.check t).format
              { format := u.request.format, colored := inks && u.effective.colored,
                verbose := u.request.verbose } }) ∧
      (u.effective.HasUnknownName →
        ∃ f, u.run reader inks table = .error f ∧ f.kind = .badRequest) := by
  refine ⟨⟨u.loaded, u.load_eq, u.effective_loaded⟩, fun htask heffective => ?_, fun t ht => ?_⟩
  · rw [run_eq, run_eq]
    apply htask.run_eq
    rw [effective_loaded, effective_loaded, heffective]
  · have hrun := u.run_eq reader inks table
    rw [CompileRequest.run_effective, ht, effective_loaded] at hrun
    cases hplan : u.effective.plan with
    | error f =>
      obtain ⟨hunknown, hkind⟩ := Settings.of_plan_eq_error hplan
      rw [hplan] at hrun
      exact ⟨fun hknown => absurd hunknown hknown, fun _ => ⟨f, hrun, hkind⟩⟩
    | ok p =>
      rw [hplan] at hrun
      exact ⟨fun _ => ⟨p, rfl, hrun⟩,
        fun hunknown => absurd hunknown (Settings.not_hasUnknownName_of_plan hplan)⟩

section Witness

def shadowedHome : Settings where
  preferences := { dialect := some "oracle", catalog := some "attic", target := some "pdf" }
  colored := false

def shadowingWorkplace : Settings where
  preferences := { dialect := some "sybase", target := some "dbt" }

theorem ofText_shadowedHome : Settings.ofText
    ("[compile]\ndialect = \"oracle\"\ncatalog = \"attic\"\ntarget = \"pdf\"\n" ++
      "[output]\ncolored = false\n") = .ok shadowedHome :=
  toOption_eq_some_iff.mp (by decide +kernel)

theorem ofText_shadowingWorkplace :
    Settings.ofText "[compile]\ndialect = \"sybase\"\ntarget = \"dbt\"\n" =
      .ok shadowingWorkplace :=
  toOption_eq_some_iff.mp (by decide +kernel)

def shadowingSurroundings : Surroundings where
  variableValue name := List.lookup name [("HOME", "/home"), ("TFORGE_CATALOG", "lake")]
  file path := (List.lookup path
    [("/home/.config/tforge/config.toml",
        "[compile]\ndialect = \"oracle\"\ncatalog = \"attic\"\ntarget = \"pdf\"\n" ++
          "[output]\ncolored = false\n"),
      (".tforge.toml", "[compile]\ndialect = \"sybase\"\ntarget = \"dbt\"\n")]).elim
    (.error .missing) .ok
  input := .ok ""

/-- No name is left in it that is not known but in places that another one takes. -/
def shadowing : SetUp where
  request := { table := "-", dialect := some .tsql }
  surroundings := shadowingSurroundings
  home := some shadowedHome
  workplace := some shadowingWorkplace
  home_holds := .named rfl (by decide) (by decide) (.settings ofText_shadowedHome)
  workplace_holds := .settings ofText_shadowingWorkplace

def plain (dialect : String) : SetUp where
  request := { table := "-", target := some .dbt, catalog := some "lake" }
  surroundings :=
    { variableValue := fun name => List.lookup name [("TFORGE_DIALECT", dialect)]
      file := fun _ => .error .missing
      input := .ok "" }
  home := none
  workplace := none
  home_holds := .homeless rfl
  workplace_holds := .missing

def plainTable : Reading := .ok "\x7b\"name\": \"t\", \"columns\": [\x7b\"name\": \"a\"\x7d]\x7d"

def accepting : SqlReader := fun _ _ => none

theorem run_by_precedence_shadowing :
    shadowing.run accepting true plainTable = (plain "tsql").run accepting true plainTable ∧
    (∃ out, shadowing.run accepting true plainTable = .ok out) ∧
    ∃ f, (plain "sybase").run accepting true plainTable = .error f ∧ f.kind = .badRequest := by
  obtain ⟨-, hsame, hruns⟩ :=
    run_by_precedence shadowing (plain "tsql") accepting true plainTable
  obtain ⟨-, -, hfails⟩ :=
    run_by_precedence (plain "sybase") shadowing accepting true plainTable
  have hread : (shadowing.request.readTable plainTable).isOk := by
    show (TableSpec.ofText (.ofPath "-") "-" _).isOk
    rw [TableFormat.ofPath_dash]
    decide +kernel
  have hplan : shadowing.effective.plan = .ok ⟨.tsql, .dbt, some "lake"⟩ :=
    toOption_eq_some_iff.mp (by decide +kernel)
  have hunknown : (plain "sybase").effective.HasUnknownName :=
    .inl ⟨"sybase", by decide +kernel, by decide +kernel⟩
  obtain ⟨t, ht⟩ := exists_of_isOk hread
  obtain ⟨p, -, hrun⟩ := (hruns t ht).1 (Settings.not_hasUnknownName_of_plan hplan)
  exact ⟨hsame ⟨rfl, rfl, rfl, rfl⟩ (by decide +kernel), ⟨_, hrun⟩, (hfails t ht).2 hunknown⟩

end Witness

end SetUp

end CleanSql
