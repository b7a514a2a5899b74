import CleanSql.Proofs.Frame.Column

/-!
# Kinds of replacements

The type of a replacement and its text say which kind of literal it is written as, in every
dialect; the dialect only spells it (`Profile.sql?_writeTypedLiteral`). One text is spelled
differently as literals of different kinds (`DataType.write_literalKind_inj`).
-/
namespace CleanSql

inductive LiteralKind where
  /-- The text itself, without the blanks around it. -/
  | number
  | truth (value : Bool)
  /-- A quoted text that is cast to a type of dates. -/
  | moment (type : DataType)
  | quoted
  deriving DecidableEq, Repr

/-- The kind of literal that a text is as a value of a type. -/
def DataType.literalKind (type : DataType) (value : String) : LiteralKind :=
  match type with
  | .integer | .float => if isNumeral (Text.trim value) then .number else .quoted
  | .boolean =>
    match (Text.trim value).toLower with
    | "true" => .truth true
    | "false" => .truth false
    | _ => .quoted
  | .date | .timestamp => .moment type
  | .string | .json => .quoted

def LiteralKind.write (p : Profile) (value : String) : LiteralKind → String
  | number => Text.trim value
  | truth b => p.writeBoolean b
  | moment type =>
    (p.writeCast (.engine type) (p.quoteLiteral value)).orKeep (p.quoteLiteral value)
  | quoted => p.quoteLiteral value

namespace Profile

variable (p : Profile)

/-- A replacement is always written, and its SQL hangs on its kind only. -/
theorem sql?_writeTypedLiteral (type : DataType) (value : String) :
    (p.writeTypedLiteral type value).sql? = some ((type.literalKind value).write p value) := by
  cases type with
  | string | json => rfl
  | integer | float =>
    by_cases h : isNumeral (Text.trim value) <;>
      simp [writeTypedLiteral, DataType.isNumeric, DataType.literalKind, h, Fragment.sql?,
        LiteralKind.write]
  | boolean =>
    simp only [writeTypedLiteral, DataType.isNumeric, DataType.isTemporal, DataType.literalKind]
    generalize (Text.trim value).toLower = word
    by_cases htrue : word = "true"
    · simp [htrue, Fragment.sql?, LiteralKind.write]
    · by_cases hfalse : word = "false"
      · simp [hfalse, Fragment.sql?, LiteralKind.write]
      · simp [Fragment.sql?, LiteralKind.write]
  | date | timestamp =>
    simp only [writeTypedLiteral, DataType.isNumeric, DataType.isTemporal, Bool.false_eq_true,
      if_false, if_true, DataType.literalKind, LiteralKind.write, writeCast]
    cases p.castTarget _ <;> rfl

theorem orKeep_writeTypedLiteral (type : DataType) (value : String) :
    (p.writeTypedLiteral type value).orKeep (p.quoteLiteral value) =
      (type.literalKind value).write p value := by
  rw [Fragment.orKeep, sql?_writeTypedLiteral, Option.getD_some]

end Profile

namespace LiteralKind

/-- A text can be written as a literal of a kind. -/
inductive Fits (value : String) : LiteralKind → Prop where
  | number (h : isNumeral (Text.trim value)) : Fits value .number
  | truth (b : Bool) (h : (Text.trim value).toLower = if b then "true" else "false") :
      Fits value (.truth b)
  | moment {type : DataType} (h : type.isTemporal) : Fits value (.moment type)
  | quoted : Fits value .quoted

theorem head?_of_isNumeral {text : String} (h : isNumeral text) {c : Char}
    (hc : NumeralState.start.step c = .failed) : text.toList.head? ≠ some c := by
  intro hhead
  obtain ⟨cs, hcs⟩ := List.head?_eq_some_iff.mp hhead
  rw [isNumeral, hcs, List.foldl_cons, hc, List.foldl_fixed' fun _ => rfl] at h
  cases h

theorem head?_write_quoted (p : Profile) (value : String) :
    (quoted.write p value).toList.head? = some '\'' := by
  simp [write]

theorem head?_write_moment (d : Dialect) {type : DataType} (h : type.isTemporal) (value : String) :
    ((moment type).write d.profile value).toList.head? =
      if d.profile.castStyle = .doubleColon then some '(' else some 'C' := by
  cases type with
  | date | timestamp =>
    cases d <;>
      simp [write, Profile.writeCast, Dialect.profile, Profile.snowflake, Profile.spark,
        Profile.bigquery, Profile.tsql, Profile.mysql, Profile.postgresql, Profile.ansi,
        Profile.writeCastTo, Fragment.orKeep, Fragment.sql?]
  | _ => cases h

theorem head?_write_truth (p : Profile) (value : String) (b : Bool) :
    ((truth b).write p value).toList.head? ∈ [some 'T', some 'F', some '1', some '0'] := by
  cases h : p.booleanValues <;> cases b <;> simp [write, Profile.writeBoolean, h]

/-- The types of dates have names of different lengths. -/
theorem write_moment_inj (d : Dialect) {t u : DataType} (ht : t.isTemporal) (hu : u.isTemporal)
    {value : String}
    (h : (moment t).write d.profile value = (moment u).write d.profile value) : t = u := by
  have hlength := congrArg String.length h
  have hdate : ((moment .date).write d.profile value).length <
      ((moment .timestamp).write d.profile value).length := by
    cases d <;>
      simp [write, Profile.writeCast, Dialect.profile, Profile.snowflake, Profile.spark,
        Profile.bigquery, Profile.tsql, Profile.mysql, Profile.postgresql, Profile.ansi,
        Profile.writeCastTo, Fragment.orKeep, Fragment.sql?] <;> decide
  cases t <;> cases ht <;> cases u <;> cases hu
  · rfl
  · omega
  · omega
  · rfl

theorem write_number_ne_truth (p : Profile) {value : String} {b : Bool}
    (hnumber : isNumeral (Text.trim value))
    (htruth : (Text.trim value).toLower = if b then "true" else "false") :
    number.write p value ≠ (truth b).write p value := by
  intro h
  simp only [write] at h
  rw [h] at hnumber htruth
  revert hnumber htruth
  unfold Profile.writeBoolean
  cases p.booleanValues <;> cases b <;> decide +kernel

section

variable {d : Dialect} {k l : LiteralKind} {value : String}

theorem eq_quoted_of_write (hk : k.Fits value)
    (h : k.write d.profile value = quoted.write d.profile value) : k = quoted := by
  have hhead : (k.write d.profile value).toList.head? = some '\'' := by
    rw [h, head?_write_quoted]
  cases hk with
  | number hnumeral => exact absurd hhead (head?_of_isNumeral hnumeral (by decide))
  | truth b =>
    have hmem := head?_write_truth d.profile value b
    rw [hhead] at hmem
    simp at hmem
  | moment htype =>
    rw [head?_write_moment d htype] at hhead
    split_ifs at hhead <;> simp at hhead
  | quoted => rfl

theorem eq_moment_of_write {type : DataType} (hk : k.Fits value) (htype : type.isTemporal)
    (h : k.write d.profile value = (moment type).write d.profile value) : k = moment type := by
  have hhead : (k.write d.profile value).toList.head? =
      if d.profile.castStyle = .doubleColon then some '(' else some 'C' := by
    rw [h, head?_write_moment d htype]
  cases hk with
  | number hnumeral =>
    split_ifs at hhead
    · exact absurd hhead (head?_of_isNumeral hnumeral (by decide))
    · exact absurd hhead (head?_of_isNumeral hnumeral (by decide))
  | truth b =>
    have hmem := head?_write_truth d.profile value b
    rw [hhead] at hmem
    split_ifs at hmem <;> simp at hmem
  | moment ht => rw [write_moment_inj d ht htype h]
  | quoted => exact (eq_quoted_of_write (.moment htype) h.symm).symm

/-- Literals of different kinds for one text are different texts. -/
theorem write_inj (hk : k.Fits value) (hl : l.Fits value)
    (h : k.write d.profile value = l.write d.profile value) : k = l := by
  cases hl with
  | quoted => exact eq_quoted_of_write hk h
  | moment htype => exact eq_moment_of_write hk htype h
  | number hnumeral =>
    cases hk with
    | number => rfl
    | truth b hword => exact absurd h.symm (write_number_ne_truth _ hnumeral hword)
    | moment htype => exact (eq_moment_of_write (.number hnumeral) htype h.symm).symm
    | quoted => exact (eq_quoted_of_write (.number hnumeral) h.symm).symm
  | truth b hword =>
    cases hk with
    | number hnumeral => exact absurd h (write_number_ne_truth _ hnumeral hword)
    | truth a hword' =>
      have hsame := hword'.symm.trans hword
      cases a <;> cases b <;> simp_all
    | moment htype => exact (eq_moment_of_write (.truth b hword) htype h.symm).symm
    | quoted => exact (eq_quoted_of_write (.truth b hword) h.symm).symm

end

end LiteralKind

namespace DataType

theorem literalKind_eq_number_iff {type : DataType} {value : String} :
    type.literalKind value = .number ↔ type.isNumeric ∧ isNumeral (Text.trim value) := by
  cases type with
  | integer | float =>
    by_cases h : isNumeral (Text.trim value) <;> simp [literalKind, isNumeric, h]
  | boolean =>
    simp only [literalKind, isNumeric]
    split <;> simp
  | date | timestamp | string | json => simp [literalKind, isNumeric]

theorem fits_literalKind (type : DataType) (value : String) :
    (type.literalKind value).Fits value := by
  cases type with
  | integer | float =>
    by_cases h : isNumeral (Text.trim value)
    · simpa [literalKind, h] using LiteralKind.Fits.number h
    · simpa [literalKind, h] using LiteralKind.Fits.quoted
  | boolean =>
    unfold literalKind
    dsimp only
    split
    · next h => exact .truth _ (by simpa using h)
    · next h => exact .truth _ (by simpa using h)
    · exact .quoted
  | date | timestamp => exact .moment rfl
  | string | json => exact .quoted

/-- Replacements of two types are written alike exactly if they are of one kind. -/
theorem write_literalKind_inj (d : Dialect) {t u : DataType} {value : String} :
    (t.literalKind value).write d.profile value = (u.literalKind value).write d.profile value ↔
      t.literalKind value = u.literalKind value :=
  ⟨LiteralKind.write_inj (t.fits_literalKind value) (u.fits_literalKind value),
    fun h => by rw [h]⟩

end DataType

end CleanSql
