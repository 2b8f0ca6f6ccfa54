import PipelineLint.Text.Blank

/-!
# Profile documents

Sections of keys and values, as in

```
[default]
url = https://example.net
; a comment
username: jane
```

Nothing is quoted and nothing is escaped, but a backslash binds the next character: before a newline
both vanish, so that a line may go on, and before any other character both stay and the character
loses its meaning. Keys and names may span lines. An indented line without `=` or `:` at the end of
the document is ignored.

Failures are placed by line and column, both counted from 1. The character that is looked at counts
as read.

## Main definitions

* `Ini.Section` — a name, or none before the first header, and the entries under it
* `Ini.parse` — the sections of a document in their order; equal names are kept apart
-/

namespace PipelineLint.Ini

open Text

/-- A header and the entries below it, up to the next header. -/
structure Section where
  /-- The entries before the first header have no name. -/
  name : Option String
  entries : List (String × String)
  deriving DecidableEq, Repr

/-- Why a text is no profile document. -/
inductive Fault where
  | inlineComment
  | missingKey
  | endInName
  | endInKey
  deriving DecidableEq, Repr

/-- The wording of a fault. -/
def Fault.text : Fault → String
  | .inlineComment => "doesn't support inline comment"
  | .missingKey => "missing key"
  | .endInName => "expecting \"[Some(']')]\" but found EOF."
  | .endInKey => "expecting \"[Some('='), Some(':')]\" but found EOF."

/-- A fault and its place. -/
structure Error where
  line : Nat
  column : Nat
  text : String
  deriving DecidableEq, Repr

/-- The error text. -/
def Error.message (e : Error) : String := s!"{e.line}:{e.column} {e.text}"

/-! ## Reading along a text -/

/-- A place in a text. -/
structure Cursor where
  /-- The characters before the place, the last one first. -/
  before : List Char
  /-- The characters from the place on. -/
  rest : List Char
  deriving DecidableEq, Repr

namespace Cursor

/-- Goes on by one character. -/
def advance (c : Cursor) : Cursor :=
  match c.rest with
  | [] => c
  | x :: rest => ⟨x :: c.before, rest⟩

/-- Goes on over `s`, which is at the front of the rest. -/
def skip (before : List Char) (s rest : List Char) : Cursor := ⟨s.reverse ++ before, rest⟩

/-- Goes on while `p` holds. -/
def skipWhile (p : Char → Bool) (c : Cursor) : Cursor :=
  ⟨(c.rest.takeWhile p).reverse ++ c.before, c.rest.dropWhile p⟩

/-- Whether the next character is the first of its line. -/
def atLineStart (c : Cursor) : Bool := c.before.head?.all (· == '\n')

/-- A fault at the place. -/
def fail (c : Cursor) (fault : Fault) : Error :=
  let read := c.rest.take 1 ++ c.before
  { line := read.count '\n' + 1
    column := (read.takeWhile (· != '\n')).length + 1
    text := fault.text }

/-- Reads up to the next character for which `stop` holds, or to the end. -/
def readUntil (stop : Char → Bool) (before : List Char) : List Char → List Char × Cursor
  | [] => ([], ⟨before, []⟩)
  | '\\' :: '\n' :: s => readUntil stop ('\n' :: '\\' :: before) s
  | '\\' :: x :: s =>
    let (text, c) := readUntil stop (x :: '\\' :: before) s
    ('\\' :: x :: text, c)
  | x :: s =>
    if stop x then ([], ⟨before, x :: s⟩)
    else
      let (text, c) := readUntil stop (x :: before) s
      (x :: text, c)

/-- Goes on over blanks, but stays before the indentation of a line. -/
def skipBlanks (before : List Char) : List Char → Cursor
  | [] => ⟨before, []⟩
  | x :: s =>
    if !isBlank x then ⟨before, x :: s⟩
    else if (x == '\n' || x == '\r') && (s.head? == some ' ' || s.head? == some '\t') then
      ⟨x :: before, s⟩
    else skipBlanks (x :: before) s

end Cursor

/-! ## Documents -/

/-- What ends a key. -/
def isSeparator (c : Char) : Bool := c == '=' || c == ':'

/-- What ends a value. -/
def isLineEnd (c : Char) : Bool := c == '\n' || c == '\r'

/-- What ends a section's name. -/
def isClosing (c : Char) : Bool := c == ']'

/-- What indents a line. -/
def isIndent (c : Char) : Bool := c == ' ' || c == '\t'

/-- What was read of a document. -/
structure Draft where
  /-- The sections before the current one, the last one first. -/
  done : List Section := []
  current : Section := ⟨none, []⟩
  /-- The key whose value has not been read, or nothing. -/
  key : List Char := []
  deriving DecidableEq, Repr

/-- Starts a section. -/
def Draft.open (d : Draft) (name : List Char) : Draft :=
  { d with done := d.current :: d.done, current := ⟨some (String.ofList name), []⟩ }

/-- Gives the current key a value. -/
def Draft.add (d : Draft) (value : List Char) : Draft :=
  let entry := (String.ofList d.key, String.ofList value)
  { d with current := { d.current with entries := d.current.entries ++ [entry] }, key := [] }

/-- The sections that were read. -/
def Draft.sections (d : Draft) : List Section := (d.current :: d.done).reverse

/-- Reads a header, from its bracket on. -/
def readHeader (d : Draft) (c : Cursor) : Except Error (Draft × Cursor) :=
  let start := c.advance
  let (name, c) := Cursor.readUntil isClosing start.before start.rest
  if c.rest.isEmpty then .error (c.fail .endInName) else .ok (d.open (trim name), c.advance)

/-- Reads a value, from its separator on. -/
def readValue (d : Draft) (c : Cursor) : Draft × Cursor :=
  let start := c.advance.skipWhile fun x => isBlank x && !isLineEnd x
  let (value, c) := Cursor.readUntil isLineEnd start.before start.rest
  (d.add (trim value), c)

/-- Goes on over blanks behind what was read. -/
def settle (c : Cursor) : Cursor := Cursor.skipBlanks c.before c.rest

/-- Reads what stands at `c`: a comment, a header, a key, a value or nothing. -/
def step (d : Draft) (c : Cursor) : Except Error (Draft × Cursor) :=
  match c.rest with
  | [] => .ok (d, c)
  | x :: _ =>
    if x == ';' || x == '#' then
      if c.atLineStart then .ok (d, settle (c.skipWhile (· != '\n')).advance)
      else .error (c.fail .inlineComment)
    else if x == '[' then (readHeader d c).map fun (d, c) => (d, settle c)
    else if isSeparator x then
      if d.key.isEmpty then .error (c.fail .missingKey)
      else
        let (d, c) := readValue d c
        .ok (d, settle c)
    else if isIndent x then
      let c := c.skipWhile isIndent
      match c.rest with
      | '[' :: _ => (readHeader d c).map fun (d, c) => (d, settle c)
      | y :: _ =>
        if isLineEnd y then .ok (d, c.advance)
        else
          let (key, c) := Cursor.readUntil isSeparator c.before c.rest
          .ok (if c.rest.isEmpty then d else { d with key := trim key }, settle c)
      | [] => .ok (d, c)
    else if isLineEnd x then .ok (d, settle c.advance)
    else
      let (key, c) := Cursor.readUntil isSeparator c.before c.rest
      if c.rest.isEmpty then .error (c.fail .endInKey)
      else .ok ({ d with key := trim key }, settle c)

/-- Reads on to the end of the text. Each step takes a character. -/
def readAll : Nat → Draft → Cursor → Except Error Draft
  | 0, d, _ => .ok d
  | fuel + 1, d, c =>
    if c.rest.isEmpty then .ok d
    else
      match step d c with
      | .ok (d, c) => readAll fuel d c
      | .error e => .error e

/-- The sections of a document. The first of them has no name and may be empty. -/
def parse (text : String) : Except Error (List Section) :=
  let s := text.toList
  (readAll s.length {} ⟨[], s⟩).map Draft.sections

end PipelineLint.Ini
