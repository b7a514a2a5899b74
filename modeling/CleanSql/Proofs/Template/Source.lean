import CleanSql.Document.Dbt
import CleanSql.Proofs.Occurrence
import CleanSql.Proofs.Quoting.Literal
import CleanSql.Proofs.Split.Replace

/-!
# The table that a dbt model selects from

In a string of the template language a backslash stands for the character behind it, and a quote
without one ends the string. A text is written so that it is read back whatever stands behind it
(`DbtModel.readText_quoteTemplate`). So the call at the start of a model is read with the layer and
the name of its table for its two arguments, and what stands behind the call is written from the
statement alone (`DbtModel.source_says_table`).
-/
namespace CleanSql.DbtModel

/-- The rule that strings of the template language are read by. -/
def templateRule : QuoteRule where
  opening := '\''
  closing := '\''
  doubles := false
  escapes := some some

theorem encodes_escapeTemplate : templateRule.Encodes escapeTemplate := by
  intro c rest
  unfold escapeTemplate
  split_ifs with hbackslash hquote
  · subst hbackslash
    exact QuoteRule.readBody_escaped rfl (by decide) rest
  · subst hquote
    exact QuoteRule.readBody_escaped rfl (by decide) rest
  · exact QuoteRule.readBody_plain hquote (fun h => absurd h hbackslash) rest

theorem toList_quoteTemplate (text : String) :
    (quoteTemplate text).toList = '\'' :: text.toList.flatMap escapeTemplate ++ ['\''] := by
  rw [quoteTemplate, String.toList_ofList]

theorem read_quoteTemplate (text : String) (rest : List Char) :
    templateRule.read ((quoteTemplate text).toList ++ rest) = some (text.toList, rest) := by
  rw [toList_quoteTemplate]
  exact QuoteRule.read_quoted encodes_escapeTemplate nofun text.toList

theorem readText_quoteTemplate (text rest : String) :
    templateRule.readText (quoteTemplate text ++ rest) = some (text, rest) :=
  QuoteRule.readText_append (read_quoteTemplate text rest.toList)

example : quoteTemplate "\\'s\\" = "'\\\\\\'s\\\\'" := by decide

/-- Backslashes are doubled before quotes are given one: the other way round the backslashes of the
quotes would be doubled too. -/
theorem quoteTemplate_eq_replace (text : String) :
    quoteTemplate text =
      "'" ++ Text.replace "'" "\\'" (Text.replace "\\" "\\\\" text) ++ "'" := by
  have hbackslashes : (Text.replace "\\" "\\\\" text).toList =
      text.toList.flatMap fun c => if c = '\\' then ['\\', '\\'] else [c] :=
    Text.toList_replace_singleton '\\' "\\\\" text
  have hquotes : (Text.replace "'" "\\'" (Text.replace "\\" "\\\\" text)).toList =
      (Text.replace "\\" "\\\\" text).toList.flatMap fun c =>
        if c = '\'' then ['\\', '\''] else [c] :=
    Text.toList_replace_singleton '\'' "\\'" _
  have hescape (c : Char) : escapeTemplate c =
      (if c = '\\' then ['\\', '\\'] else [c]).flatMap fun c =>
        if c = '\'' then ['\\', '\''] else [c] := by
    unfold escapeTemplate
    split_ifs with hbackslash hquote
    · rfl
    · simp [hquote]
    · simp [hquote]
  rw [← String.toList_inj, toList_quoteTemplate, String.toList_append, String.toList_append,
    hquotes, hbackslashes, List.flatMap_assoc]
  simp only [← hescape]
  rfl

/-- The text behind a word that comes next, perhaps with blanks before it. -/
def token? (word cs : List Char) : Option (List Char) :=
  Text.dropWord? word (cs.dropWhile Text.isBlank)

/-- Reads the call of `source` where a model opens template code for the first time: its two
arguments, and the text behind the code. -/
def readSource (model : String) : Option (String × String × String) := do
  let code ← Text.after? ['\x7b', '\x7b'] model.toList
  let arguments ← token? "source(".toList code
  let (layer, rest) ← templateRule.read (arguments.dropWhile Text.isBlank)
  let rest ← token? [','] rest
  let (name, rest) ← templateRule.read (rest.dropWhile Text.isBlank)
  let rest ← token? [')'] rest
  let behind ← token? ['\x7d', '\x7d'] rest
  return (String.ofList layer, String.ofList name, String.ofList behind)

/-- A model from behind the call that looks up its table. -/
def behindSource (s : Statement) : String :=
  "\n),\ncleaned AS (\n" ++ s.cleanedSelect "source" ++ ")\nSELECT * FROM cleaned"

theorem model_eq_source (t : TableSpec) (s : Statement) :
    model t s = "WITH source AS (\n    SELECT * FROM \x7b\x7b" ++ (" source(" ++
      (quoteTemplate t.layer.name ++ (", " ++ (quoteTemplate t.name ++
        (") \x7d\x7d" ++ behindSource s))))) := by
  have hopening (rest : String) :
      "WITH source AS (\n    SELECT * FROM " ++ ("\x7b\x7b source(" ++ rest) =
        "WITH source AS (\n    SELECT * FROM \x7b\x7b" ++ (" source(" ++ rest) := by
    rw [← String.append_assoc, ← String.append_assoc]
    exact congrArg (· ++ rest) (by decide)
  unfold model sourceCall behindSource
  simp only [String.append_assoc]
  exact hopening _

/-- The call is read back, and what stands behind it is written from the statement alone. -/
theorem readSource_model (t : TableSpec) (s : Statement) :
    readSource (model t s) = some (t.layer.name, t.name, behindSource s) := by
  -- The quotes of the two arguments keep them apart from the blanks before them.
  have hquote (text : String) (rest : List Char) :
      ((quoteTemplate text).toList ++ rest).dropWhile Text.isBlank =
        (quoteTemplate text).toList ++ rest := by
    rw [toList_quoteTemplate]
    rfl
  have hstart : Text.after? ['\x7b', '\x7b']
      "WITH source AS (\n    SELECT * FROM \x7b\x7b".toList = some [] := by decide
  have hcode := Text.after?_append hstart
  have hname (rest : List Char) :
      token? "source(".toList (" source(".toList ++ rest) = some rest := rfl
  have hcomma (rest : List Char) : token? [','] (", ".toList ++ rest) = some (' ' :: rest) := rfl
  have hclosed (rest : List Char) :
      token? [')'] (") \x7d\x7d".toList ++ rest) = some (" \x7d\x7d".toList ++ rest) := rfl
  have hend (rest : List Char) :
      token? ['\x7d', '\x7d'] (" \x7d\x7d".toList ++ rest) = some rest := rfl
  have hblank (rest : List Char) :
      (' ' :: rest).dropWhile Text.isBlank = rest.dropWhile Text.isBlank := rfl
  rw [model_eq_source, readSource]
  simp only [String.toList_append, hcode, List.nil_append, Option.bind_eq_bind, Option.bind_some,
    hname, hquote, read_quoteTemplate, hcomma, hblank, hclosed, hend, String.ofList_toList]
  rfl

/-- A text in a string of the template language is read back, and reading ends with the string. So
the call at the start of a model looks up the table of the model, whatever it is called. -/
theorem source_says_table :
    (∀ text : String, quoteTemplate text =
      "'" ++ Text.replace "'" "\\'" (Text.replace "\\" "\\\\" text) ++ "'") ∧
    (∀ text rest : String,
      templateRule.readText (quoteTemplate text ++ rest) = some (text, rest)) ∧
    ∀ (t : TableSpec) (s : Statement),
      readSource (of t s).modelSql = some (t.layer.name, t.name, behindSource s) :=
  ⟨quoteTemplate_eq_replace, readText_quoteTemplate, readSource_model⟩

end CleanSql.DbtModel
