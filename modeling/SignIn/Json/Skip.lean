import SignIn.Json.Value

/-!
# Skipping a value

A member that a record does not have is passed over without being read. Its shape is checked, byte
by byte and with a stack of the containers that are open; what its strings and numbers stand for is
not: a string need not be UTF-8 and its surrogates need not be paired, a number may be too large,
and containers may be nested to any depth.
-/

namespace SignIn.Json

/-- A container that is open. -/
inductive Frame where
  | list
  | object
  deriving DecidableEq, Repr

/-- The part of a value that the next byte belongs to. -/
inductive SkipMode where
  /-- Before a value. -/
  | value
  /-- After an opening bracket. -/
  | first
  /-- After a comma in an object. -/
  | key
  /-- After a key. -/
  | colon
  /-- After a value in a container. -/
  | after
  /-- In a string, which may be a key. -/
  | string (isKey : Bool)
  /-- In a string after a backslash. -/
  | escape (isKey : Bool)
  /-- In a string after `\u`: the number of digits to come, and whether those so far are digits. -/
  | unit (isKey : Bool) (left : Nat) (good : Bool)
  /-- In a word whose other bytes are given. -/
  | word (rest : Bytes)
  | minus
  /-- After a zero that begins a number. -/
  | zero
  | whole
  | point
  | fraction
  | mark
  | sign
  | exponent
  deriving DecidableEq, Repr

/-- What follows when a byte has been looked at. -/
inductive SkipStep where
  | go (mode : SkipMode) (stack : List Frame)
  /-- The byte ends the value. -/
  | stop
  /-- The value ended before the byte. -/
  | stopBefore
  | fail (e : Error)
  deriving DecidableEq, Repr

/-- After the last byte of a value. -/
def ended : List Frame → SkipStep
  | [] => .stop
  | f :: stack => .go .after (f :: stack)

/-- After the closing quote of a string. -/
def endedString (isKey : Bool) (stack : List Frame) : SkipStep :=
  if isKey then .go .colon stack else ended stack

def afterStep (stack : List Frame) (b : UInt8) : SkipStep :=
  match stack with
  | [] => .stopBefore
  | .list :: outer =>
    if isBlank b then .go .after (.list :: outer)
    else if b = 0x2C then .go .value (.list :: outer)
    else if b = 0x5D then ended outer
    else .fail .expectedListSeparator
  | .object :: outer =>
    if isBlank b then .go .after (.object :: outer)
    else if b = 0x2C then .go .key (.object :: outer)
    else if b = 0x7D then ended outer
    else .fail .expectedObjectSeparator

def valueStep (stack : List Frame) (b : UInt8) : SkipStep :=
  if isBlank b then .go .value stack
  else if b = 0x22 then .go (.string false) stack
  else if b = 0x7B then .go .first (.object :: stack)
  else if b = 0x5B then .go .first (.list :: stack)
  else if b = 0x6E then .go (.word [0x75, 0x6C, 0x6C]) stack
  else if b = 0x74 then .go (.word [0x72, 0x75, 0x65]) stack
  else if b = 0x66 then .go (.word [0x61, 0x6C, 0x73, 0x65]) stack
  else if b = 0x2D then .go .minus stack
  else if b = 0x30 then .go .zero stack
  else if isDigit b then .go .whole stack
  else .fail .expectedValue

def keyStep (stack : List Frame) (b : UInt8) : SkipStep :=
  if isBlank b then .go .key stack
  else if b = 0x22 then .go (.string true) stack
  else .fail .keyNotString

def firstStep (stack : List Frame) (b : UInt8) : SkipStep :=
  if isBlank b then .go .first stack
  else match stack with
    | [] => .fail .expectedValue
    | .list :: outer => if b = 0x5D then ended outer else valueStep stack b
    | .object :: outer => if b = 0x7D then ended outer else keyStep stack b

/-- A byte after digits that may be followed by an exponent. -/
def exponentStep (stack : List Frame) (b : UInt8) : SkipStep :=
  if b = 0x65 ∨ b = 0x45 then .go .mark stack else afterStep stack b

/-- A byte after digits that may be followed by a point. -/
def pointStep (stack : List Frame) (b : UInt8) : SkipStep :=
  if b = 0x2E then .go .point stack else exponentStep stack b

def SkipMode.step (stack : List Frame) (b : UInt8) : SkipMode → SkipStep
  | .value => valueStep stack b
  | .first => firstStep stack b
  | .key => keyStep stack b
  | .colon =>
    if isBlank b then .go .colon stack
    else if b = 0x3A then .go .value stack
    else .fail .expectedColon
  | .after => afterStep stack b
  | .string isKey =>
    if b = 0x22 then endedString isKey stack
    else if b = 0x5C then .go (.escape isKey) stack
    else if b < 0x20 then .fail .controlCharacter
    else .go (.string isKey) stack
  | .escape isKey =>
    if b = 0x75 then .go (.unit isKey 3 true) stack
    else if (escaped? b).isSome then .go (.string isKey) stack
    else .fail .invalidEscape
  | .unit isKey left good =>
    let good := good && (Hex.value? b).isSome
    match left with
    | 0 => if good then .go (.string isKey) stack else .fail .invalidEscape
    | left + 1 => .go (.unit isKey left good) stack
  | .word [] => afterStep stack b
  | .word (c :: rest) =>
    if b ≠ c then .fail .expectedWord
    else if rest.isEmpty then ended stack
    else .go (.word rest) stack
  | .minus =>
    if b = 0x30 then .go .zero stack
    else if isDigit b then .go .whole stack
    else .fail .invalidNumber
  | .zero => if isDigit b then .fail .invalidNumber else pointStep stack b
  | .whole => if isDigit b then .go .whole stack else pointStep stack b
  | .point => if isDigit b then .go .fraction stack else .fail .invalidNumber
  | .fraction => if isDigit b then .go .fraction stack else exponentStep stack b
  | .mark =>
    if b = 0x2B ∨ b = 0x2D then .go .sign stack
    else if isDigit b then .go .exponent stack
    else .fail .invalidNumber
  | .sign => if isDigit b then .go .exponent stack else .fail .invalidNumber
  | .exponent => if isDigit b then .go .exponent stack else afterStep stack b

/-- The end of the text after a value. -/
def endAfter : List Frame → Except Error Bytes
  | [] => .ok []
  | .list :: _ => .error .endInList
  | .object :: _ => .error .endInObject

def SkipMode.finish (stack : List Frame) : SkipMode → Except Error Bytes
  | .value => .error .endInValue
  | .first => endAfter stack
  | .key => .error .endInObject
  | .colon => .error .endInObject
  | .after => endAfter stack
  | .string _ => .error .endInString
  | .escape _ => .error .endInString
  | .unit _ _ _ => .error .endInString
  | .word _ => .error .endInValue
  | .minus => .error .invalidNumber
  | .zero => endAfter stack
  | .whole => endAfter stack
  | .point => .error .invalidNumber
  | .fraction => endAfter stack
  | .mark => .error .invalidNumber
  | .sign => .error .invalidNumber
  | .exponent => endAfter stack

/-- Passes over the rest of a value; what is left is the text after it. -/
def skipFrom (mode : SkipMode) (stack : List Frame) : Bytes → Except Error Bytes
  | [] => mode.finish stack
  | b :: r =>
    match mode.step stack b with
    | .go mode stack => skipFrom mode stack r
    | .stop => .ok r
    | .stopBefore => .ok (b :: r)
    | .fail e => .error e

/-- Passes over a value; what is left is the text after it. -/
def skipValue (s : Bytes) : Except Error Bytes := skipFrom .value [] s

end SignIn.Json
