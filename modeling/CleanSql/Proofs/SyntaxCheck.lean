import CleanSql.Proofs.ReportSummary
import CleanSql.Proofs.Run

/-!
# Reading SQL back

A run that has its SQL read back reports the same as one that does not, but for one warning if the
reader rejects the SQL (`CompilePlan.checkedReport_extendsBy`). What is read is the SQL document of
the table whether or not the report shows it (`CompilePlan.checkedSql_eq`), so that the warning does
not hang on the documents that were asked for. Nothing is assumed of the reader.
-/
namespace CleanSql

/-- The second report says at most one thing more, a warning, and is the first one otherwise. -/
structure Report.ExtendsBy (added : Option Diagnostic) (off on : Report) : Prop where
  table : on.table = off.table
  layer : on.layer = off.layer
  dialect : on.dialect = off.dialect
  target : on.target = off.target
  columns : on.columns = off.columns
  whereClause : on.whereClause = off.whereClause
  sql : on.sql = off.sql
  dbt : on.dbt = off.dbt
  diagnostics : on.diagnostics = off.diagnostics ++ added.toList
  exitCode : on.exitCode = max off.exitCode (if added.isSome then 1 else 0)

/-- The run of a request without reading SQL back and that with it both succeed, and their reports
differ by what is added. -/
def CompileRequest.CheckAdds (reader : SqlReader) (inks : Bool) (r : CompileRequest) (s : Settings)
    (file : Reading) (added : Option Diagnostic) : Prop :=
  ∃ off on : Compilation,
    { r with check := false }.run reader inks s file = .ok off ∧
    { r with check := true }.run reader inks s file = .ok on ∧
    off.report.ExtendsBy added on.report

namespace CompilePlan

variable (p : CompilePlan) (reader : SqlReader) (t : TableSpec)

/-- The SQL that is read back is the SQL document, for each choice of documents. -/
theorem checkedSql_eq : p.checkedSql t = t.sql (t.compile p.dialect) p.catalog := by
  have hsql : (p.report t).sql =
      if p.target.includesSql then some (t.sql (t.compile p.dialect) p.catalog) else none := rfl
  rw [checkedSql, hsql]
  cases p.target.includesSql <;> rfl

theorem complaint?_eq : p.complaint? reader t =
    (reader p.dialect (t.sql (t.compile p.dialect) p.catalog)).map
      (Diagnostic.ofComplaint p.dialect) := by
  rw [complaint?, checkedSql_eq, SqlReader.diagnostic?]

theorem of_mem_complaint? {e : Diagnostic} (he : e ∈ p.complaint? reader t) :
    e.severity = .warning ∧ e.kind = .syntaxCheck ∧ e.column = "" := by
  rw [complaint?_eq] at he
  obtain ⟨complaint, -, rfl⟩ := Option.map_eq_some_iff.mp he
  exact ⟨rfl, rfl, rfl⟩

theorem checkedReport_extendsBy :
    (p.checkedReport reader false t).ExtendsBy (p.complaint? reader t)
      (p.checkedReport reader true t) := by
  have hoff : p.checkedReport reader false t = p.report t := rfl
  cases h : p.complaint? reader t with
  | none =>
    have hon : p.checkedReport reader true t = p.report t := by simp [checkedReport, h]
    rw [hoff, hon]
    constructor <;> simp
  | some e =>
    have hon : p.checkedReport reader true t = (p.report t).push e := by simp [checkedReport, h]
    have hwarning := (p.of_mem_complaint? reader t h).1
    rw [hoff, hon]
    constructor
    case exitCode => rw [Report.exitCode_push, hwarning]; rfl
    all_goals rfl

end CompilePlan

namespace CompileRequest

variable {reader : SqlReader} {inks : Bool} {r : CompileRequest} {s : Settings} {file : Reading}

theorem plan_target {p : CompilePlan} (h : r.plan s = .ok p) (target : Target) :
    { r with target := some target }.plan s = .ok { p with target } := by
  obtain ⟨hdialect, -, hcatalog⟩ := plan_eq_ok_iff.mp h
  exact plan_eq_ok_iff.mpr ⟨hdialect, rfl, hcatalog⟩

theorem checkAdds_of_plan {t : TableSpec} {p : CompilePlan} (ht : r.readTable file = .ok t)
    (hplan : r.plan s = .ok p) :
    r.CheckAdds reader inks s file (p.complaint? reader t) :=
  ⟨_, _, run_of_plan (r := { r with check := false }) ht hplan,
    run_of_plan (r := { r with check := true }) ht hplan, p.checkedReport_extendsBy reader t⟩

/-- Where a run succeeds, it does so with and without reading its SQL back. Reading it back adds a
warning on no column exactly if the reader rejects the SQL document of the table, and changes
nothing else but the exit code; and what it adds is the same for all choices of documents. -/
theorem checkAdds_of_run {out : Compilation} (h : r.run reader inks s file = .ok out) :
    ∃ (t : TableSpec) (p : CompilePlan) (added : Option Diagnostic),
      r.readTable file = .ok t ∧ r.plan s = .ok p ∧
      (added.isSome ↔
        (reader p.dialect (t.sql (t.compile p.dialect) p.catalog)).isSome) ∧
      (∀ e ∈ added, e.severity = .warning ∧ e.kind = .syntaxCheck ∧ e.column = "") ∧
      r.CheckAdds reader inks s file added ∧
      ∀ target, { r with target := some target }.CheckAdds reader inks s file added := by
  obtain ⟨t, p, ht, hplan, -⟩ := of_run_eq_ok h
  refine ⟨t, p, p.complaint? reader t, ht, hplan, ?_, fun e => p.of_mem_complaint? reader t,
    checkAdds_of_plan ht hplan, fun target => ?_⟩
  · rw [p.complaint?_eq, Option.isSome_map]
  · have hadded : { p with target }.complaint? reader t = p.complaint? reader t := by
      rw [CompilePlan.complaint?_eq, CompilePlan.complaint?_eq]
    rw [← hadded]
    exact checkAdds_of_plan (r := { r with target := some target }) ht (plan_target hplan target)

/-- A request whose report does not show the SQL that is read back. -/
def hiddenRequest : CompileRequest where
  table := "-"
  dialect := some .tsql
  target := some .dbt
  catalog := some "lake"

def hiddenFile : Reading :=
  .ok "\x7b\"name\": \"t\", \"columns\": [\x7b\"name\": \"a\"\x7d, \x7b\"name\": \"a\"\x7d]\x7d"

def rejecting : SqlReader := fun _ _ => some "Expected: an expression at Line: 2, Column: 5"

theorem checkAdds_of_run_hiddenRequest :
    ∃ out, hiddenRequest.run rejecting false {} hiddenFile = .ok out ∧
    ∃ (t : TableSpec) (p : CompilePlan) (added : Option Diagnostic),
      hiddenRequest.readTable hiddenFile = .ok t ∧ hiddenRequest.plan {} = .ok p ∧
      (added.isSome ↔
        (rejecting p.dialect (t.sql (t.compile p.dialect) p.catalog)).isSome) ∧
      (∀ e ∈ added, e.severity = .warning ∧ e.kind = .syntaxCheck ∧ e.column = "") ∧
      hiddenRequest.CheckAdds rejecting false {} hiddenFile added ∧
      ∀ target, { hiddenRequest with target := some target }.CheckAdds rejecting false {}
        hiddenFile added := by
  have hread : (hiddenRequest.readTable hiddenFile).isOk := by
    show (TableSpec.ofText (.ofPath "-") "-" _).isOk
    rw [TableFormat.ofPath_dash]
    decide +kernel
  obtain ⟨t, ht⟩ := exists_of_isOk hread
  have hrun : hiddenRequest.run rejecting false {} hiddenFile = .ok _ := run_of_plan ht rfl
  exact ⟨_, hrun, checkAdds_of_run hrun⟩

end CompileRequest

end CleanSql
