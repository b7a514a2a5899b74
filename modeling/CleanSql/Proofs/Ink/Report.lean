import CleanSql.Proofs.Ink.Document

/-!
# Reports without their inks

A report in colours and the same report without them differ in control sequences only, in every
format, and so do the two forms of the capability matrix (`Report.strip_format`). Each part of the
text is shown so on its own; a part that is never painted has to be a text without control
sequences.
-/
namespace CleanSql

open Ink

def Diagnostic.texts (d : Diagnostic) : List String := [d.column, d.message]

def CompiledColumn.texts (c : CompiledColumn) : List String :=
  c.name :: c.expression :: c.rowFilter.toList ++
    (c.flag.elim [] fun f => [f.name, f.expression]) ++
    c.diagnostics.flatMap Diagnostic.texts

def Report.texts (r : Report) : List String :=
  r.table :: r.columns.flatMap CompiledColumn.texts ++ r.whereClause.toList ++ r.sql.toList ++
    (r.dbt.elim [] fun m => [m.modelSql, m.schemaYml]) ++ r.diagnostics.flatMap Diagnostic.texts

namespace Ink

theorem isPlain_layerName (l : Layer) : IsPlain l.name := by cases l <;> decide

theorem isPlain_dialectName (d : Dialect) : IsPlain d.name := by cases d <;> decide

theorem isPlain_typeName (t : DataType) : IsPlain t.name := by cases t <;> decide

theorem isPlain_severityLabel (s : Severity) : IsPlain s.label := by cases s <;> decide

end Ink

namespace Report

theorem shows_headline (colored : Bool) {text : String} (h : IsPlain text) :
    Shows (headline colored text) (headline false text) :=
  (Shows.paint .bold colored h).append (.refl (by decide))

theorem shows_columnLines (colored : Bool) {c : CompiledColumn} (h : ∀ t ∈ c.texts, IsPlain t) :
    Shows (columnLines colored c) (columnLines false c) := by
  have hname : IsPlain c.name := h _ (by simp [CompiledColumn.texts])
  have hexpression : IsPlain c.expression := h _ (by simp [CompiledColumn.texts])
  have hfilter : ∀ filter ∈ c.rowFilter, IsPlain ("  filter: " ++ filter ++ "\n") := by
    intro filter hfilter
    have hplain : IsPlain filter := h _ (by simp_all [CompiledColumn.texts])
    exact (IsPlain.append (by decide) hplain).append (by decide)
  have hflag : ∀ flag ∈ c.flag,
      IsPlain ("  " ++ flag.name ++ ": " ++ flag.expression ++ "\n") := by
    intro flag hflag
    have hflagName : IsPlain flag.name := h _ (by simp_all [CompiledColumn.texts])
    have hflagExpression : IsPlain flag.expression := h _ (by simp_all [CompiledColumn.texts])
    exact (((IsPlain.append (by decide) hflagName).append (by decide)).append
      hflagExpression).append (by decide)
  exact (((((Shows.paint .boldCyan colored hname).append (.refl (by decide))).append
    (.refl hexpression)).append (.refl (by decide))).append
      (.elim fun filter hf => .refl (hfilter filter hf))).append
        (.elim fun flag hf => .refl (hflag flag hf))

theorem shows_diagnosticLine (colored : Bool) {d : Diagnostic} (h : ∀ t ∈ d.texts, IsPlain t) :
    Shows (diagnosticLine colored d) (diagnosticLine false d) := by
  have hcolumn : IsPlain d.column := h _ (by simp [Diagnostic.texts])
  have hmessage : IsPlain d.message := h _ (by simp [Diagnostic.texts])
  have hlabel : IsPlain ("[" ++ d.severity.label ++ "]") :=
    (IsPlain.append (by decide) (isPlain_severityLabel _)).append (by decide)
  have hbegin : Shows ((severityInk d.severity).paint colored ("[" ++ d.severity.label ++ "]") ++
      " ") ((severityInk d.severity).paint false ("[" ++ d.severity.label ++ "]") ++ " ") :=
    (Shows.paint _ colored hlabel).append (.refl (by decide))
  unfold diagnosticLine
  split_ifs
  · exact (hbegin.append (.refl hmessage)).append (.refl (by decide))
  · exact (((hbegin.append (.refl hcolumn)).append (.refl (by decide))).append
      (.refl hmessage)).append (.refl (by decide))

/-- Without ink, the line of a diagnostic in a report is its own. -/
theorem diagnosticLine_false (d : Diagnostic) : diagnosticLine false d = d.line ++ "\n" := by
  have hseam : "] " = "]" ++ " " := rfl
  simp only [diagnosticLine, Ink.paint, Bool.false_eq_true, if_false, Diagnostic.line, hseam]
  split_ifs <;> simp only [String.append_assoc]

section Sections

variable (colored : Bool) {r : Report} (h : ∀ t ∈ r.texts, IsPlain t)

include h

theorem isPlain_table : IsPlain r.table := h _ (by simp [texts])

theorem shows_columnsSection : Shows (r.columnsSection colored) (r.columnsSection false) := by
  have htitle : IsPlain ("=== Columns: " ++ r.layer.name ++ "." ++ r.table ++ " ===") :=
    ((((IsPlain.append (by decide) (isPlain_layerName _)).append (by decide)).append
      (isPlain_table h))).append (by decide)
  have hcolumn : ∀ c ∈ r.columns, ∀ t ∈ c.texts, IsPlain t := by
    intro c hc t ht
    refine h t ?_
    simp only [texts, List.mem_append, List.mem_cons, List.mem_flatMap]
    exact .inl (.inl (.inl (.inl (.inr ⟨c, hc, ht⟩))))
  exact ((shows_headline colored htitle).append
    (.join fun c hc => shows_columnLines colored (hcolumn c hc))).append (.refl (by decide))

theorem shows_sqlSection {sql : String} (hsql : sql ∈ r.sql) :
    Shows (r.sqlSection colored sql) (r.sqlSection false sql) := by
  have htitle : IsPlain ("=== Compiled SQL (" ++ r.dialect.name ++ ") ===") :=
    (IsPlain.append (by decide) (isPlain_dialectName _)).append (by decide)
  have hplain : IsPlain sql := h _ (by simp_all [texts])
  exact ((shows_headline colored htitle).append (.refl hplain)).append (.refl (by decide))

theorem shows_dbtSection {m : DbtModel} (hm : m ∈ r.dbt) :
    Shows (r.dbtSection colored m) (r.dbtSection false m) := by
  have htitle : IsPlain ("=== dbt model: " ++ r.table ++ ".sql ===") :=
    (IsPlain.append (by decide) (isPlain_table h)).append (by decide)
  have hmodel : IsPlain m.modelSql := h _ (by simp_all [texts])
  have hschema : IsPlain m.schemaYml := h _ (by simp_all [texts])
  exact ((((((shows_headline colored htitle).append (.refl hmodel)).append
    (.refl (by decide))).append (shows_headline colored (by decide))).append
      (.refl hschema))).append (.refl (by decide))

theorem shows_diagnosticsSection :
    Shows (r.diagnosticsSection colored) (r.diagnosticsSection false) := by
  have hdiagnostic : ∀ d ∈ r.diagnostics, ∀ t ∈ d.texts, IsPlain t := by
    intro d hd t ht
    refine h t ?_
    simp only [texts, List.mem_append, List.mem_flatMap]
    exact .inr ⟨d, hd, ht⟩
  unfold diagnosticsSection
  split_ifs
  · exact .refl isPlain_empty
  · exact ((shows_headline colored (by decide)).append
      (.join fun d hd => shows_diagnosticLine colored (hdiagnostic d hd))).append
        (.refl (by decide))

theorem shows_toText (verbose : Bool) :
    Shows (r.toText colored verbose) (r.toText false verbose) := by
  have hcolumns : Shows (if verbose then r.columnsSection colored else "")
      (if verbose then r.columnsSection false else "") := by
    split_ifs
    · exact shows_columnsSection colored h
    · exact .refl isPlain_empty
  have hsummary : IsPlain (summaryLine r.summary) :=
    (((((IsPlain.append (by decide) (isPlain_toString _)).append (by decide)).append
      (isPlain_toString _)).append (by decide)).append (isPlain_toString _)).append (by decide)
  exact ((((hcolumns.append (.elim fun _ hsql => shows_sqlSection colored h hsql)).append
    (.elim fun _ hm => shows_dbtSection colored h hm)).append
      (shows_diagnosticsSection colored h)).append (.paint _ colored hsummary)).append
        (.refl (by decide))

end Sections

end Report

namespace Capabilities

theorem isPlain_pushn (n : Nat) : IsPlain ("".pushn ' ' n) := by
  rw [String.pushn_eq_repeat_push]
  induction n with
  | zero => exact isPlain_empty
  | succ n ih =>
    rw [Nat.repeat, IsPlain, String.toList_push, List.mem_append, not_or]
    exact ⟨ih, by decide⟩

theorem isPlain_cell (width : Nat) {text : String} (h : IsPlain text) :
    IsPlain (cell width text) :=
  h.append (isPlain_pushn _)

theorem isPlain_rowLine {dialect regex title split cast uncast : String}
    (hdialect : IsPlain dialect) (hregex : IsPlain regex) (htitle : IsPlain title)
    (hsplit : IsPlain split) (hcast : IsPlain cast) (huncast : IsPlain uncast) :
    IsPlain (rowLine dialect regex title split cast uncast) := by
  have hspace : IsPlain " " := by decide
  exact ((((((((((isPlain_cell 15 hdialect).append hspace).append (isPlain_cell 6 hregex)).append
    hspace).append (isPlain_cell 11 htitle)).append hspace).append (isPlain_cell 12 hsplit)).append
      hspace).append (isPlain_cell 6 hcast)).append hspace).append huncast

theorem isPlain_line (c : Capabilities) : IsPlain c.line := by
  have huncast : IsPlain (if c.unsupportedCasts.isEmpty then "-"
      else String.intercalate ", " (c.unsupportedCasts.map DataType.name)) := by
    split_ifs
    · decide
    · exact isPlain_intercalate (by decide) (List.forall_mem_map.mpr fun t _ => isPlain_typeName t)
  refine isPlain_rowLine (isPlain_dialectName _) ?_ ?_ ?_ ?_ huncast
  · unfold yesNo
    split_ifs <;> decide
  · unfold titleMode
    split_ifs <;> decide
  · unfold splitMode
    split <;> decide
  · split_ifs <;> decide

theorem shows_matrixText (colored : Bool) (rows : List Capabilities) :
    Shows (matrixText colored rows) (matrixText false rows) := by
  have hheads : IsPlain (rowLine "DIALECT" "REGEX" "TITLE CASE" "SPLIT" "CAST" "NO CAST TO") :=
    isPlain_rowLine (by decide) (by decide) (by decide) (by decide) (by decide) (by decide)
  have hrow (c : Capabilities) : Shows (c.paintedLine colored) (c.paintedLine false) :=
    (Shows.paint .yellow _ c.isPlain_line).append (.refl (by decide))
  exact (((Report.shows_headline colored (by decide)).append (.refl hheads)).append
    (.refl (by decide))).append (.join fun c _ => hrow c)

end Capabilities

namespace Report

/-- Without its control sequences, a report in colours is the report without colours, if none of
its texts could begin one, in every format; so is the capability matrix. Without colours, the
diagnostics are listed in their order, each by its own line, and nothing else of the text depends on
them. -/
theorem strip_format (r : Report) (h : ∀ t ∈ r.texts, IsPlain t) (o : OutputOptions) :
    strip (r.format { o with colored := true }).toList =
      (r.format { o with colored := false }).toList ∧
    (∀ rows : List Capabilities,
      strip (Capabilities.formatMatrix { o with colored := true } rows).toList =
        (Capabilities.formatMatrix { o with colored := false } rows).toList) ∧
    ∃ before behind, ∀ diagnostics : List Diagnostic,
      format { o with format := .text, colored := false } { r with diagnostics } =
        before ++ (if diagnostics = [] then ""
          else "=== Diagnostics ===\n\n" ++
            String.join (diagnostics.map fun d => d.line ++ "\n") ++ "\n") ++ behind := by
  obtain ⟨kind, -, verbose⟩ := o
  refine ⟨?_, fun rows => ?_, ?_⟩
  · cases kind with
    | text => exact (shows_toText true h verbose).strip_eq
    | json => exact (Shows.refl r.toData.isPlain_toJsonPretty).strip_eq
    | yaml => exact (Shows.refl r.toData.isPlain_toYaml).strip_eq
  · cases kind with
    | text => exact (Capabilities.shows_matrixText true rows).strip_eq
    | json => exact (Shows.refl (Data.isPlain_toJsonPretty _)).strip_eq
    | yaml => exact (Shows.refl (Data.isPlain_toYaml _)).strip_eq
  · refine ⟨(if verbose then r.columnsSection false else "") ++
      r.sql.elim "" (r.sqlSection false) ++ r.dbt.elim "" (r.dbtSection false),
      summaryLine r.summary ++ "\n", fun diagnostics => ?_⟩
    have hlines : diagnostics.map (diagnosticLine false) =
        diagnostics.map fun d => d.line ++ "\n" :=
      List.map_congr_left fun d _ => diagnosticLine_false d
    have hlist : diagnosticsSection false { r with diagnostics } = if diagnostics = [] then ""
        else "=== Diagnostics ===\n\n" ++
          String.join (diagnostics.map fun d => d.line ++ "\n") ++ "\n" := by
      rw [diagnosticsSection, hlines]
      simp only [List.isEmpty_iff]
      rfl
    rw [← hlist, ← String.append_assoc]
    rfl

/-- A report in which every kind of text is painted, with brackets of its own. -/
def paintedReport : Report where
  table := "[0m"
  layer := .silver
  dialect := .tsql
  target := .sql
  columns := [{
    name := "a[1m"
    expression := "LOWER([a[1m]]])"
    rowFilter := some "([a[1m]]] IS NOT NULL)"
    flag := some ⟨"a[1m_is_null", "CASE WHEN [a[1m]]] IS NULL THEN 1 ELSE 0 END"⟩
    diagnostics := [] }]
  whereClause := some "([a[1m]]] IS NOT NULL)"
  sql := some "SELECT 1;m"
  dbt := none
  diagnostics := [.malformed "a[1m" "regex: empty\nm", .syntaxCheck "[INFO]"]
  summary := { errors := 1, warnings := 1 }

theorem strip_format_paintedReport :
    (∀ t ∈ paintedReport.texts, IsPlain t) ∧
    strip (paintedReport.format { verbose := true }).toList =
      (paintedReport.format { colored := false, verbose := true }).toList ∧
    strip (Capabilities.formatMatrix {} [Profile.tsql.capabilities]).toList =
      (Capabilities.formatMatrix { colored := false } [Profile.tsql.capabilities]).toList := by
  have hplain : ∀ t ∈ paintedReport.texts, IsPlain t := by decide
  obtain ⟨hreport, -, -⟩ := strip_format paintedReport hplain { verbose := true }
  obtain ⟨-, hmatrix, -⟩ := strip_format paintedReport hplain {}
  exact ⟨hplain, hreport, hmatrix _⟩

end Report

end CleanSql
