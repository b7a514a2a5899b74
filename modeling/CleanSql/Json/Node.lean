import CleanSql.Data
import CleanSql.Decode.Mismatch

/-!
# JSON documents

A document is kept as far as it can be read. What stops the reading is a part of the tree, so
that a reader that looks for something finds the first fault in the order of the text, be it in
the text or in what it says. All places are counted in bytes from the start.
-/
namespace CleanSql.Json

inductive Cause where
  | endInValue
  | endInString
  | endInList
  | endInRecord
  | noColon
  | noListComma
  | noRecordComma
  | noIdent
  | noValue
  | keyNotText
  | badEscape
  | badNumber
  | numberOutOfRange
  | controlCharacter
  | loneSurrogate
  | unpairedSurrogate
  | trailingComma
  | trailingCharacters
  | mismatch (m : Mismatch)
  deriving DecidableEq, Repr

def Cause.message : Cause → String
  | endInValue => "EOF while parsing a value"
  | endInString => "EOF while parsing a string"
  | endInList => "EOF while parsing a list"
  | endInRecord => "EOF while parsing an object"
  | noColon => "expected `:`"
  | noListComma => "expected `,` or `]`"
  | noRecordComma => "expected `,` or `\x7d`"
  | noIdent => "expected ident"
  | noValue => "expected value"
  | keyNotText => "key must be a string"
  | badEscape => "invalid escape"
  | badNumber => "invalid number"
  | numberOutOfRange => "number out of range"
  | controlCharacter =>
    "control character (\\u0000-\\u001F) found while parsing a string"
  | loneSurrogate => "lone leading surrogate in hex escape"
  | unpairedSurrogate => "unexpected end of hex escape"
  | trailingComma => "trailing comma"
  | trailingCharacters => "trailing characters"
  | mismatch m => m.message

/-- A cause and the number of bytes that had been read. -/
structure Fault where
  cause : Cause
  place : Nat
  deriving DecidableEq, Repr

/-- A number that is read: a whole one if it fits into a word, else a double. -/
inductive Number where
  | natural (value : UInt64)
  | negative (value : Int)
  | float (value : Float)

/-- A text between quotes. A text that is skipped has to satisfy fewer rules than one that is
read. -/
structure Quoted where
  start : Nat
  /-- Where it ends, if it does. -/
  stop : Nat
  read : Except Fault String
  skip : Option Fault

/-- How a list or a record comes to its end. -/
inductive Ending where
  /-- By its bracket, up to the place behind it. -/
  | closed (stop : Nat)
  /-- The bracket comes right after a comma. -/
  | commaClosed (place : Nat)
  /-- Nothing comes after a comma. -/
  | commaEnded (place : Nat)
  /-- Something else stands where a comma or the bracket is due. -/
  | noComma (place : Nat)
  /-- Something else stands where a key is due. -/
  | noKey (place : Nat)
  /-- Nothing comes where a comma or the bracket is due. -/
  | ended (place : Nat)
  /-- The last part cannot be read to its end. -/
  | broken (fault : Fault)
  deriving DecidableEq, Repr

inductive Node where
  /-- There is no value. -/
  | missing (fault : Fault)
  /-- A misspelled name of a value. -/
  | misspelled (start : Nat) (fault : Fault)
  | null (start stop : Nat)
  | bool (start stop : Nat) (value : Bool)
  | number (start stop : Nat) (read : Except Fault Number) (skip : Option Fault)
  | text (quoted : Quoted)
  | list (start : Nat) (items : List Node) (ending : Ending)
  /-- The members of a record, each with the place behind its key and the place where a comma or
  the bracket is due after it. -/
  | record (start : Nat) (members : List (Quoted × Nat × Node × Nat)) (ending : Ending)

namespace Ending

def listFault? : Ending → Option Fault
  | closed _ => none
  | commaClosed p => some ⟨.trailingComma, p + 1⟩
  | commaEnded p => some ⟨.endInValue, p⟩
  | noComma p | noKey p => some ⟨.noListComma, p + 1⟩
  | ended p => some ⟨.endInList, p⟩
  | broken f => some f

def recordFault? : Ending → Option Fault
  | closed _ => none
  | commaClosed p => some ⟨.trailingComma, p + 1⟩
  | commaEnded p => some ⟨.endInValue, p⟩
  | noComma p => some ⟨.noRecordComma, p + 1⟩
  | noKey p => some ⟨.keyNotText, p + 1⟩
  | ended p => some ⟨.endInRecord, p⟩
  | broken f => some f

def listSkip? : Ending → Option Fault
  | commaClosed p => some ⟨.noValue, p + 1⟩
  | e => e.listFault?

def recordSkip? : Ending → Option Fault
  | commaClosed p => some ⟨.keyNotText, p + 1⟩
  | commaEnded p => some ⟨.endInRecord, p⟩
  | e => e.recordFault?

/-- What an ending means where a row of fields is complete. -/
def rowFault? : Ending → Option Fault
  | commaEnded p => some ⟨.trailingCharacters, p⟩
  | noComma p | noKey p => some ⟨.trailingCharacters, p + 1⟩
  | e => e.listFault?

def stop : Ending → Nat
  | closed s => s
  | commaClosed p | commaEnded p | noComma p | noKey p | ended p => p
  | broken f => f.place

end Ending

namespace Node

/-- The place where something that should not be there is noticed. -/
def noticed : Node → Nat
  | missing f => f.place
  | misspelled s _ | null s _ | bool s _ _ | number s _ _ _ | list s _ _ | record s _ _ => s + 1
  | text q => q.start + 1

mutual

def skip? : Node → Option Fault
  | missing f | misspelled _ f => some f
  | null _ _ | bool _ _ _ => none
  | number _ _ _ skip => skip
  | text q => q.skip
  | list _ items ending => (skipItems? items).or ending.listSkip?
  | record _ members ending => (skipMembers? members).or ending.recordSkip?

def skipItems? : List Node → Option Fault
  | [] => none
  | item :: rest => item.skip?.or (skipItems? rest)

def skipMembers? : List (Quoted × Nat × Node × Nat) → Option Fault
  | [] => none
  | (key, _, value, _) :: rest => (key.skip.or value.skip?).or (skipMembers? rest)

end

mutual

/-- A tree of data as a document whose text is never looked at. -/
def ofData : Data → Node
  | .null => null 0 0
  | .bool b => bool 0 0 b
  | .nat n =>
    number 0 0
      (.ok (if n < UInt64.size then .natural (UInt64.ofNat n) else .float (Float.ofNat n))) none
  | .text s => text ⟨0, 0, .ok s, none⟩
  | .list items => list 0 (ofItems items) (.closed 0)
  | .record members => record 0 (ofMembers members) (.closed 0)

def ofItems : List Data → List Node
  | [] => []
  | item :: rest => ofData item :: ofItems rest

def ofMembers : List (String × Data) → List (Quoted × Nat × Node × Nat)
  | [] => []
  | (key, value) :: rest => (⟨0, 0, .ok key, none⟩, 0, ofData value, 0) :: ofMembers rest

end

end Node

end CleanSql.Json
