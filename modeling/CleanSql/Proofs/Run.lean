import CleanSql.Compilation

/-!
# Runs

A run reads its table and makes its choices, and reports on the table if both succeed
(`CompileRequest.run_eq`). The choices are made one by one (`CompileRequest.plan_eq`).
-/
namespace CleanSql

theorem exists_of_isOk {E α : Type} {x : Except E α} (h : x.isOk) : ∃ a, x = .ok a := by
  cases x with
  | error e => cases h
  | ok a => exact ⟨a, rfl⟩

theorem splitOn_dash {sep : String} (hne : sep ≠ "") (h : String.Pos.Raw.get sep 0 ≠ '-') :
    "-".splitOn sep = ["-"] := by
  have hdash : ('-' == String.Pos.Raw.get sep 0) = false := beq_false_of_ne h.symm
  have hget : String.Pos.Raw.get "-" 0 = '-' := rfl
  rw [String.splitOn, if_neg (by simpa using hne), String.splitOnAux, if_neg (by decide), hget,
    hdash, if_neg Bool.false_ne_true, String.splitOnAux, if_pos (by decide)]
  rfl

/-- A table on the standard input is written in JSON. -/
theorem TableFormat.ofPath_dash : TableFormat.ofPath "-" = .json := by
  have hname : fileName? "-" = some "-" := by
    rw [fileName?, splitOn_dash (by decide) (by decide)]
    rfl
  have hextension : extension? "-" = none := by
    rw [extension?, splitOn_dash (by decide) (by decide)]
    rfl
  rw [TableFormat.ofPath, hname, Option.bind_some, hextension]
  rfl

namespace CompileRequest

variable {reader : SqlReader} {inks : Bool} {r : CompileRequest} {s : Settings} {file : Reading}

def chosenDialect (r : CompileRequest) (s : Settings) : Except Failure Dialect :=
  match r.dialect with
  | some d => .ok d
  | none => s.dialect?.map (·.getD .ansi)

def chosenTarget (r : CompileRequest) (s : Settings) : Except Failure Target :=
  match r.target with
  | some t => .ok t
  | none => s.target?.map (·.getD .sql)

def chosenCatalog (r : CompileRequest) (s : Settings) : Option String :=
  r.catalog.or s.preferences.catalog

/-- The choices of a run are made one by one, and each has to succeed. -/
theorem plan_eq (r : CompileRequest) (s : Settings) : r.plan s =
    (r.chosenDialect s).bind fun d => (r.chosenTarget s).map fun t =>
      ⟨d, t, r.chosenCatalog s⟩ := by
  unfold plan chosenDialect chosenTarget
  cases r.dialect <;> cases r.target <;> rfl

theorem plan_eq_ok_iff {p : CompilePlan} : r.plan s = .ok p ↔
    r.chosenDialect s = .ok p.dialect ∧ r.chosenTarget s = .ok p.target ∧
      r.chosenCatalog s = p.catalog := by
  obtain ⟨dialect, target, catalog⟩ := p
  rw [plan_eq]
  cases r.chosenDialect s with
  | error f => simp [Except.bind]
  | ok d =>
    cases r.chosenTarget s with
    | error f => simp [Except.bind, Except.map]
    | ok t => simp [Except.bind, Except.map]

/-- A run reads its table, then makes its choices, and both have to succeed. -/
theorem run_eq (reader : SqlReader) (inks : Bool) (r : CompileRequest) (s : Settings)
    (file : Reading) : r.run reader inks s file =
      (r.readTable file).bind fun t => (r.plan s).map fun p =>
        { report := p.checkedReport reader r.check t
          output := (p.checkedReport reader r.check t).format
            { format := r.format, colored := inks && !r.noColor && s.colored,
              verbose := r.verbose } } := by
  unfold run
  cases r.readTable file with
  | error f => rfl
  | ok t => cases r.plan s <;> rfl

theorem run_of_plan {t : TableSpec} {p : CompilePlan} (ht : r.readTable file = .ok t)
    (hplan : r.plan s = .ok p) :
    r.run reader inks s file = .ok
      { report := p.checkedReport reader r.check t
        output := (p.checkedReport reader r.check t).format
          { format := r.format, colored := inks && !r.noColor && s.colored,
            verbose := r.verbose } } := by
  rw [run_eq, ht, hplan]
  rfl

/-- A run that succeeds has read its table and made its choices, and reports on the table. -/
theorem of_run_eq_ok {out : Compilation} (h : r.run reader inks s file = .ok out) :
    ∃ t p, r.readTable file = .ok t ∧ r.plan s = .ok p ∧
      out.report = p.checkedReport reader r.check t := by
  rw [run_eq] at h
  cases ht : r.readTable file with
  | error f =>
    rw [ht] at h
    cases h
  | ok t =>
    cases hplan : r.plan s with
    | error f =>
      rw [ht, hplan] at h
      cases h
    | ok p =>
      rw [ht, hplan] at h
      cases h
      exact ⟨t, p, rfl, rfl, rfl⟩

end CompileRequest

end CleanSql
