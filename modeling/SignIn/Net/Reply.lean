import SignIn.Net.Address
import SignIn.Net.Chunked
import SignIn.Text.Blank
import SignIn.Text.Percent

/-!
# Replies

What comes back for a request, as it is read from the bytes of a connection up to its end. A reply
has a head, which is a line with a status and lines with fields, up to an empty one; and a body, of
which the head says where it ends. Replies with a status below 200 only announce one to come, but
for 101, and are passed over. Lines of a head may end without the carriage return.
-/

namespace SignIn

/-- Where a body ends. -/
inductive Framing where
  | empty
  /-- After as many bytes as announced. -/
  | counted (length : Nat)
  /-- After the last of its chunks. -/
  | chunked
  /-- At the end of the connection. -/
  | untilEnd
  deriving DecidableEq, Repr

structure Reply where
  status : Nat
  /-- The other place that the head names, if it names one. -/
  location : Option Bytes
  framing : Framing
  /-- The bytes that came after the head. -/
  received : Bytes
  deriving DecidableEq, Repr

/-- The body of a reply, unless it is cut off or malformed. -/
def Reply.content? (r : Reply) : Option Bytes :=
  match r.framing with
  | .empty => some []
  | .counted n => if n ≤ r.received.length then some (r.received.take n) else none
  | .chunked => Chunked.body? r.received
  | .untilEnd => some r.received

/-- The head of a reply. -/
structure Head where
  /-- Whether the version is 1.1 and not 1.0. -/
  isCurrent : Bool
  status : Nat
  /-- The fields in order; their names are in lower case. -/
  fields : List (Bytes × Bytes)
  deriving DecidableEq, Repr

namespace Head

/-! ## Lines -/

/-- The first line and what follows it. -/
def line? (s : Bytes) : Option (Bytes × Bytes) :=
  let line := s.takeWhile (· != Chunked.lineFeed)
  match s.dropWhile (· != Chunked.lineFeed) with
  | [] => none
  | _ :: r =>
    some (if line.getLast? = some Chunked.carriageReturn then line.dropLast else line, r)

/-- A byte that may stand in a line: no control but the tab. -/
def isLineByte (b : UInt8) : Bool := b == 0x09 || (0x20 ≤ b && b != 0x7F)

/-- The three decimal digits of a status. -/
def status? (s : Bytes) : Option Nat :=
  let (ds, r) := Address.digits Address.decimal? s
  let n := Address.ofDigits 10 ds
  if r = [] ∧ ds.length = 3 ∧ 100 ≤ n then some n else none

/-- The version and the status in the first line of a head. What it says beyond them is ignored. -/
def statusLine? (line : Bytes) : Option (Bool × Nat) :=
  let version := line.take 9
  let rest := line.drop 9
  if version ≠ Utf8.encode "HTTP/1.1 " ∧ version ≠ Utf8.encode "HTTP/1.0 " then none
  else if ¬ line.all isLineByte ∨ ¬ (rest.drop 3).head?.all (· == 0x20) then none
  else (status? (rest.take 3)).map fun n => (version == Utf8.encode "HTTP/1.1 ", n)

def isNameByte (b : UInt8) : Bool :=
  Percent.isAlphanumeric b || (Utf8.encode "!#$%&'*+-.^_`|~").contains b

def lower (b : UInt8) : UInt8 := if 0x41 ≤ b ∧ b ≤ 0x5A then b + 0x20 else b

/-- The field in a line. Blanks around the value do not belong to it. -/
def field? (line : Bytes) : Option (Bytes × Bytes) :=
  let name := line.takeWhile (· != Address.colon)
  match line.dropWhile (· != Address.colon) with
  | [] => none
  | _ :: value =>
    if name = [] ∨ ¬ name.all isNameByte ∨ ¬ value.all isLineByte then none
    else some (name.map lower, Blank.trimList Chunked.isBlank value)

def maxFields : Nat := 100

/-- Reads at most `room` fields, up to an empty line. -/
def fields? (room : Nat) (s : Bytes) : Option (List (Bytes × Bytes) × Bytes) := do
  let (line, s) ← line? s
  if line = [] then pure ([], s)
  else
    match room with
    | 0 => none
    | room + 1 =>
      let f ← field? line
      let (fs, s) ← fields? room s
      pure (f :: fs, s)

/-- Skips empty lines, of which there are no more than `fuel`. -/
def skipEmpty (fuel : Nat) (s : Bytes) : Bytes :=
  match fuel with
  | 0 => s
  | fuel + 1 =>
    match line? s with
    | some ([], s) => skipEmpty fuel s
    | _ => s

/-- Reads a head from the front of a text; empty lines may stand before it. -/
def read? (s : Bytes) : Option (Head × Bytes) := do
  let (line, s) ← line? (skipEmpty s.length s)
  let (isCurrent, status) ← statusLine? line
  let (fields, s) ← fields? maxFields s
  pure (⟨isCurrent, status, fields⟩, s)

/-! ## What a head says of the body -/

def values (h : Head) (name : String) : List Bytes :=
  (h.fields.filter (·.1 == Utf8.encode name)).map (·.2)

/-- A comma, which separates items of a value. -/
def comma : UInt8 := 0x2C

/-- A value with graphic bytes and blanks only. -/
def isGraphic (value : Bytes) : Bool := value.all fun b => Percent.isGraphic b || Chunked.isBlank b

/-- The items of a value. -/
def items (value : Bytes) : List Bytes :=
  (value.splitOn comma).map (Blank.trimList Chunked.isBlank)

/-- One above the greatest number that can be announced as a length. -/
def lengthLimit : Nat := 18446744073709551614

/-- A length in decimal digits. -/
def length? (item : Bytes) : Option Nat :=
  let (ds, r) := Address.digits Address.decimal? item
  let n := Address.ofDigits 10 ds
  if ds = [] ∨ r ≠ [] ∨ lengthLimit ≤ n then none else some n

/-- The length that values agree on. -/
def agreedLength? (values : List Bytes) : Option Nat :=
  if ¬ values.all isGraphic then none
  else
    match (values.flatMap items).mapM length? with
    | some (n :: ns) => if ns.all (· == n) then some n else none
    | _ => none

/-- Whether the last coding of the body is that in chunks. -/
def isChunked (codings : List Bytes) : Bool :=
  codings.getLast?.any fun value =>
    isGraphic value && ((items value).getLast?.any fun c => c.map lower == Utf8.encode "chunked")

/-- Where the body ends, unless the head contradicts itself. -/
def framing? (h : Head) : Option Framing :=
  let codings := h.values "transfer-encoding"
  let lengths := h.values "content-length"
  if h.status = 101 ∨ h.status = 204 ∨ h.status = 304 then some .empty
  else if codings ≠ [] then
    if ¬ h.isCurrent then none else some (if isChunked codings then .chunked else .untilEnd)
  else if lengths ≠ [] then (agreedLength? lengths).map .counted
  else some .untilEnd

/-- The first place that a head names. -/
def location? (h : Head) : Option Bytes := (h.values "location").head?

/-- Whether a reply with this head only announces another one. -/
def isInterim (h : Head) : Bool := h.status < 200 && h.status != 101

end Head

namespace Reply

/-- Reads a reply behind those that announce it, of which there are no more than `fuel`. -/
def readWithin? (fuel : Nat) (s : Bytes) : Option Reply :=
  match fuel with
  | 0 => none
  | fuel + 1 => do
    let (head, s) ← Head.read? s
    if head.isInterim then readWithin? fuel s
    else
      let framing ← head.framing?
      pure ⟨head.status, head.location?, framing, s⟩

/-- The reply that came over a connection, if there is one. -/
def read? (s : Bytes) : Option Reply := readWithin? (s.length + 1) s

example : (read? (Utf8.encode "HTTP/1.1 103 \n\nHTTP/1.1 200 OK\nContent-Length: 2\n\nabc")).map
    (fun r => (r.status, r.content?)) = some (200, some (Utf8.encode "ab")) := by decide +kernel
example : read? (Utf8.encode "HTTP/1.1 99 X\r\n\r\n") = none := by decide +kernel
example : read? (Utf8.encode "HTTP/1.1 200 OK\r\ncontent-length: 1, 2\r\n\r\n") = none := by
  decide +kernel

end Reply

end SignIn
