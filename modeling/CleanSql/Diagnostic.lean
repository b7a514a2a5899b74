/-!
# Diagnostics

What is said about a column or a statement, and how grave it is.
-/
namespace CleanSql

inductive Severity where
  /-- Nothing is lost. -/
  | info
  /-- The best SQL there is was written. -/
  | warning
  /-- A column was left as it is. -/
  | error
  deriving DecidableEq, Repr, Inhabited

namespace Severity

def rank : Severity → Nat
  | info => 0
  | warning => 1
  | error => 2

def max (a b : Severity) : Severity := if a.rank ≤ b.rank then b else a

def max? : List Severity → Option Severity
  | [] => none
  | s :: rest => some (rest.foldl max s)

def label : Severity → String
  | info => "INFO"
  | warning => "WARN"
  | error => "ERROR"

def name : Severity → String
  | info => "Info"
  | warning => "Warning"
  | error => "Error"

end Severity

inductive DiagnosticKind where
  /-- A transform that the dialect cannot write faithfully. -/
  | unsupportedFeature
  /-- A transform that is on but cannot be written at all. -/
  | malformedConfig
  /-- The shape of the output. -/
  | notice
  /-- SQL that did not parse. -/
  | syntaxCheck
  deriving DecidableEq, Repr, Inhabited

namespace DiagnosticKind

def label : DiagnosticKind → String
  | unsupportedFeature => "Unsupported"
  | malformedConfig => "Malformed"
  | notice => "Notice"
  | syntaxCheck => "Syntax"

def name : DiagnosticKind → String
  | unsupportedFeature => "UnsupportedFeature"
  | malformedConfig => "MalformedConfig"
  | notice => "Notice"
  | syntaxCheck => "SyntaxCheck"

end DiagnosticKind

structure Diagnostic where
  severity : Severity
  kind : DiagnosticKind
  /-- Empty for a whole statement. -/
  column : String
  message : String
  deriving DecidableEq, Repr, Inhabited

namespace Diagnostic

def unsupported (column message : String) : Diagnostic :=
  ⟨.warning, .unsupportedFeature, column, message⟩

def malformed (column message : String) : Diagnostic :=
  ⟨.error, .malformedConfig, column, message⟩

def notice (column : String) (severity : Severity) (message : String) : Diagnostic :=
  ⟨severity, .notice, column, message⟩

def syntaxCheck (message : String) : Diagnostic := ⟨.warning, .syntaxCheck, "", message⟩

def line (d : Diagnostic) : String :=
  if d.column = "" then "[" ++ d.severity.label ++ "] " ++ d.message
  else "[" ++ d.severity.label ++ "] " ++ d.column ++ ": " ++ d.message

end Diagnostic

def countSeverity (s : Severity) (ds : List Diagnostic) : Nat :=
  ds.countP (·.severity = s)

end CleanSql
