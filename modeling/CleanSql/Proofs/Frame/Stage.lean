import CleanSql.Column.Pipeline
import CleanSql.Proofs.Frame.Basic

/-!
# The frames of stages

Every stage puts its expression into a frame that does not depend on the expression
(`Stage.fill_frame`), and so does what it has to say (`Stage.caveat?_write`). A stage that a dialect
leaves out has the empty frame around its expression.
-/
namespace CleanSql

namespace Frame

def call (name : String) : Frame := [.text (name ++ "("), .hole, .text ")"]

def hasHole (f : Frame) : Bool := f.any fun q =>
  match q with
  | .hole => true
  | _ => false

theorem hasHole_iff (f : Frame) : f.hasHole ↔ .hole ∈ f := by
  rw [hasHole, List.any_eq_true]
  constructor
  · rintro ⟨q, hq, hhole⟩
    cases q with
    | hole => exact hq
    | text _ | literal _ | part _ => cases hhole
  · exact fun h => ⟨.hole, h, rfl⟩

end Frame

namespace Profile

variable (p : Profile)

def trimFrame : Frame :=
  match p.trim with
  | .function name => .call name
  | .nested outer inner => [.text (outer ++ "(" ++ inner ++ "("), .hole, .text "))"]

def concatFrame (left right : Frame) : Frame :=
  match p.concat with
  | .operator symbol => .text "(" :: left ++ .text (" " ++ symbol ++ " ") :: right ++ [.text ")"]
  | .function name => .text (name ++ "(") :: left ++ .text ", " :: right ++ [.text ")"]

def firstFrame (f : Frame) : Frame :=
  match p.substring with
  | .fromFor => .text "SUBSTRING(" :: f ++ [.text " FROM 1 FOR 1)"]
  | .positional | .withLength _ => .text "SUBSTRING(" :: f ++ [.text ", 1, 1)"]

def restFrame (f : Frame) : Frame :=
  match p.substring with
  | .fromFor => .text "SUBSTRING(" :: f ++ [.text " FROM 2)"]
  | .positional => .text "SUBSTRING(" :: f ++ [.text ", 2)"]
  | .withLength measure =>
    .text "SUBSTRING(" :: f ++ .text (", 2, " ++ measure ++ "(") :: f ++ [.text "))"]

def capitalFrame (f : Frame) : Frame :=
  p.concatFrame (.text "UPPER(" :: p.firstFrame f ++ [.text ")"])
    (.text "LOWER(" :: p.restFrame f ++ [.text ")"])

def perWordFrame : WordRows → Frame
  | .stringSplit =>
    .text "(SELECT STRING_AGG(" :: p.capitalFrame [.text "w.value"] ++
      [.text ", ", .literal " ",
        .text ") WITHIN GROUP (ORDER BY w.ordinal) FROM STRING_SPLIT(", .hole, .text ", ",
        .literal " ", .text ", 1) AS w)"]
  | .jsonTable =>
    .text "(SELECT GROUP_CONCAT(" :: p.capitalFrame [.text "w.word"] ++
      [.text " ORDER BY w.pos SEPARATOR ", .literal " ",
        .text ") FROM JSON_TABLE(REPLACE(JSON_ARRAY(", .hole, .text "), ", .literal " ",
        .text ", ", .literal "\",\"",
        .text "), '$[*]' COLUMNS (pos FOR ORDINALITY, word TEXT PATH '$')) AS w)"]

def titleFrame : Frame :=
  match p.titleCase with
  | .function name => .call name
  | .perWord rows => p.perWordFrame rows
  | .firstCharacter => p.capitalFrame [.hole]

def regexFrame (pattern replacement : String) : Frame :=
  match p.regex with
  | .unsupported => [.hole]
  | .function name trailing =>
    [.text (name ++ "("), .hole, .text ", ", .literal pattern, .text ", ", .literal replacement,
      .text (trailing ++ ")")]

def splitFrame (delimiter : String) (index : UInt64) : Frame :=
  match p.split.base?.elim (some index) (·.native? index) with
  | none => [.hole]
  | some native =>
    let n := Piece.part (toString native)
    match p.split with
    | .unsupported => [.hole]
    | .part name =>
      [.text (name ++ "("), .hole, .text ", ", .literal delimiter, .text ", ", n, .text ")"]
    | .regexArray name =>
      [.text (name ++ "("), .hole, .text ", ", .literal (escapeRegex delimiter), .text ")[", n,
        .text "]"]
    | .safeArray name =>
      [.text (name ++ "("), .hole, .text ", ", .literal delimiter, .text ")[SAFE_OFFSET(", n,
        .text ")]"]
    | .substringIndex =>
      [.text "SUBSTRING_INDEX(SUBSTRING_INDEX(", .hole, .text ", ", .literal delimiter, .text ", ",
        n, .text "), ", .literal delimiter, .text ", -1)"]

def castToFrame (type : String) : Frame :=
  match p.castStyle with
  | .function => [.text "CAST(", .hole, .text " AS ", .part type, .text ")"]
  | .doubleColon => [.text "(", .hole, .text ")::", .part type]

def castFrame : CastRequest → Frame
  | .verbatim name => p.castToFrame (Text.trim name)
  | .engine type =>
    match p.castTarget type with
    | .type name => p.castToFrame name
    | .function name => .call name
    | .unsupported => [.hole]

end Profile

namespace Stage

variable (p : Profile)

def frame : Stage → Frame
  | trim => p.trimFrame
  | upper => .call "UPPER"
  | lower => .call "LOWER"
  | title => p.titleFrame
  | strip => p.regexFrame specialCharsPattern ""
  | split delimiter index => p.splitFrame delimiter index
  | regex pattern replacement => p.regexFrame pattern replacement
  | cast request => p.castFrame request

/-- What a stage has to say about the dialect, whatever it is applied to. -/
def caveat? : Stage → Option Caveat
  | trim | upper | lower => none
  | title =>
    match p.titleCase with
    | .function _ => none
    | .perWord _ => some (.titlePerWord p.dialect)
    | .firstCharacter => some (.titleFirstCharacter p.dialect)
  | strip => if p.regex = .unsupported then some (.noStrip p.dialect) else none
  | split _ index =>
    match p.split.base?.elim (some index) (·.native? index) with
    | none => some (.splitIndex index p.dialect)
    | some _ => if p.split = .unsupported then some (.noSplit p.dialect) else none
  | regex _ _ => if p.regex = .unsupported then some (.noRegex p.dialect) else none
  | cast (.verbatim _) => none
  | cast (.engine type) =>
    if p.castTarget type = .unsupported then some (.noCast type p.dialect) else none

end Stage

namespace Profile

variable {p : Profile}

@[simp] theorem fill_call (name e : String) :
    (Frame.call name).fill p e = name ++ "(" ++ e ++ ")" := by
  simp [Frame.call, Piece.write, String.append_assoc]

theorem fill_trimFrame (e : String) : p.trimFrame.fill p e = p.writeTrim e := by
  cases h : p.trim <;> simp [trimFrame, writeTrim, h, Piece.write, String.append_assoc]

theorem fill_concatFrame (left right : Frame) (e : String) :
    (p.concatFrame left right).fill p e = p.writeConcat (left.fill p e) (right.fill p e) := by
  cases h : p.concat <;> simp [concatFrame, writeConcat, h, Piece.write, String.append_assoc]

theorem fill_firstFrame (f : Frame) (e : String) :
    (p.firstFrame f).fill p e = p.writeFirst (f.fill p e) := by
  cases h : p.substring <;> simp [firstFrame, writeFirst, h, Piece.write, String.append_assoc]

theorem fill_restFrame (f : Frame) (e : String) :
    (p.restFrame f).fill p e = p.writeRest (f.fill p e) := by
  cases h : p.substring <;> simp [restFrame, writeRest, h, Piece.write, String.append_assoc]

theorem fill_capitalFrame (f : Frame) (e : String) :
    (p.capitalFrame f).fill p e = p.writeCapital (f.fill p e) := by
  simp [capitalFrame, writeCapital, fill_concatFrame, fill_firstFrame, fill_restFrame, writeUpper,
    writeLower, Piece.write, String.append_assoc]

theorem fill_perWordFrame (rows : WordRows) (e : String) :
    (p.perWordFrame rows).fill p e = p.writePerWord rows e := by
  unfold perWordFrame writePerWord
  cases rows <;> simp [fill_capitalFrame, Piece.write, String.append_assoc]

theorem fill_titleFrame (e : String) : p.titleFrame.fill p e = (p.writeTitle e).orKeep e := by
  cases h : p.titleCase <;>
    simp [titleFrame, writeTitle, h, Fragment.orKeep, Fragment.sql?, fill_perWordFrame,
      fill_capitalFrame, Piece.write]

theorem fill_regexFrame (pattern replacement e : String) :
    (p.regexFrame pattern replacement).fill p e =
      (p.writeRegex pattern replacement e).orKeep e := by
  cases h : p.regex <;>
    simp [regexFrame, writeRegex, h, Fragment.orKeep, Fragment.sql?, Piece.write,
      String.append_assoc]

/-- Where regular expressions are missing, stripping is left out like any other of them. -/
theorem orKeep_writeStrip (e : String) :
    (p.writeStrip e).orKeep e = (p.writeRegex specialCharsPattern "" e).orKeep e := by
  unfold writeStrip
  split
  · next h => rw [h]; rfl
  · rfl

theorem fill_splitFrame (delimiter : String) (index : UInt64) (e : String) :
    (p.splitFrame delimiter index).fill p e = (p.writeSplit delimiter index e).orKeep e := by
  unfold splitFrame writeSplit
  cases p.split.base?.elim (some index) (·.native? index) with
  | none => simp [Fragment.orKeep, Fragment.sql?, Piece.write]
  | some native =>
    cases h : p.split <;>
      simp [Fragment.orKeep, Fragment.sql?, Piece.write, String.append_assoc]

theorem fill_castToFrame (type e : String) :
    (p.castToFrame type).fill p e = p.writeCastTo type e := by
  cases h : p.castStyle <;> simp [castToFrame, writeCastTo, h, Piece.write, String.append_assoc]

theorem fill_castFrame (request : CastRequest) (e : String) :
    (p.castFrame request).fill p e = (p.writeCast request e).orKeep e := by
  cases request with
  | verbatim name => exact fill_castToFrame (Text.trim name) e
  | engine type =>
    cases h : p.castTarget type <;>
      simp [castFrame, writeCast, h, Fragment.orKeep, Fragment.sql?, fill_castToFrame, Piece.write]

end Profile

namespace Stage

variable {p : Profile}

theorem fill_frame (s : Stage) (e : String) : (s.frame p).fill p e = (s.write p e).orKeep e := by
  cases s with
  | trim => exact Profile.fill_trimFrame e
  | upper | lower => exact Profile.fill_call _ e
  | title => exact Profile.fill_titleFrame e
  | strip => exact (Profile.fill_regexFrame _ _ e).trans (Profile.orKeep_writeStrip e).symm
  | split delimiter index => exact Profile.fill_splitFrame delimiter index e
  | regex pattern replacement => exact Profile.fill_regexFrame pattern replacement e
  | cast request => exact Profile.fill_castFrame request e

theorem caveat?_write (s : Stage) (e : String) : (s.write p e).caveat? = s.caveat? p := by
  cases s with
  | trim | upper | lower => rfl
  | title =>
    cases h : p.titleCase <;> simp [write, caveat?, Profile.writeTitle, h, Fragment.caveat?]
  | strip =>
    cases h : p.regex <;>
      simp [write, caveat?, Profile.writeStrip, Profile.writeRegex, h, Fragment.caveat?]
  | split delimiter index =>
    simp only [write, caveat?, Profile.writeSplit]
    cases p.split.base?.elim (some index) (·.native? index) with
    | none => rfl
    | some native => cases h : p.split <;> simp [Fragment.caveat?]
  | regex pattern replacement =>
    cases h : p.regex <;> simp [write, caveat?, Profile.writeRegex, h, Fragment.caveat?]
  | cast request =>
    cases request with
    | verbatim name => rfl
    | engine type =>
      cases h : p.castTarget type <;> simp [write, caveat?, Profile.writeCast, h, Fragment.caveat?]

theorem hasHole_frame (d : Dialect) (s : Stage) : (s.frame d.profile).hasHole := by
  cases s with
  | trim | upper | lower | title | strip | regex _ _ => cases d <;> rfl
  | split delimiter index =>
    simp only [frame, Profile.splitFrame]
    split
    · rfl
    · cases d <;> rfl
  | cast request =>
    cases request with
    | verbatim name => cases d <;> rfl
    | engine type => cases d <;> cases type <;> rfl

end Stage

end CleanSql
