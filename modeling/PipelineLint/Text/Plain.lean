import PipelineLint.Text.Utf8

/-!
# Plain text

A text that is meant for a terminal may hold control sequences. They start with an escape character
and say how the terminal should go on, not what it should show. A plain text has none of them, and
no control characters but those that part words and lines.

A sequence that is never ended takes the rest of the text with it. A tab or a line end in the middle
of an escape or a command is shown, and gives the sequence up.

## Main definitions

* `Text.ControlSequence` — how far a control sequence has come
* `Text.plain` — what a text shows, without its control sequences
* `Text.plain_eq_self` — a text without control characters shows all of itself
* `Text.plain_plain` — what a text shows has nothing left to take out
-/

namespace PipelineLint.Text

/-- How far a control sequence has come. -/
inductive ControlSequence where
  /-- No sequence has begun. -/
  | none
  /-- The escape character was read. -/
  | escape
  /-- A character that does not end an escape was read behind it. -/
  | escapeMore
  /-- Inside a command with numbers. -/
  | command
  /-- A text for a device begins, with numbers first. -/
  | deviceStart
  /-- Inside the numbers that a text for a device begins with. -/
  | deviceNumbers
  /-- Behind these numbers. -/
  | deviceMarks
  /-- Inside a text that only a device or another program reads. -/
  | message
  /-- Inside a text for the window that the terminal is shown in. -/
  | title
  deriving DecidableEq, Repr

namespace ControlSequence

/-- Whether `c` is an ASCII control character. -/
def isControl (c : Char) : Bool := c.toNat < 0x20 || c.toNat == 0x7F

/-- Whether `c` is a control character that parts words or lines. -/
def isBlankControl (c : Char) : Bool := c == '\t' || c == '\n' || c == '\x0C' || c == '\r'

/-- Whether the code point of `c` is at least `low` and below `high`. -/
def isFrom (low high : Nat) (c : Char) : Bool := low ≤ c.toNat && c.toNat < high

/-- Whether a text for a device ends at `c`. That is decided by the bytes of `c`. -/
def endsMessage (c : Char) : Bool := (Utf8.encode [c]).contains 0x9C

/-- Whether `c` is shown when a sequence has come that far. -/
def shows : ControlSequence → Char → Bool
  | .none, c => !isControl c || isBlankControl c
  | .escape, c | .escapeMore, c | .command, c => isBlankControl c
  | _, _ => false

/-- How a sequence begins, by the character behind the escape character. -/
def ofIntroducer (c : Char) : ControlSequence :=
  if isControl c || 0x80 ≤ c.toNat then .escape
  else if isFrom 0x20 0x30 c then .escapeMore
  else if c == '[' then .command
  else if c == ']' then .title
  else if c == 'P' then .deviceStart
  else if c == 'X' || c == '^' || c == '_' then .message
  else .none

/-- How a text for a device goes on behind its first numbers. -/
def deviceNext (inNumbers : Bool) (c : Char) : ControlSequence :=
  if isFrom 0x20 0x30 c then .deviceMarks
  else if isFrom 0x40 0x7F c || c == ':' || (inNumbers && isFrom 0x3C 0x40 c) then .message
  else .deviceNumbers

/-- How far a sequence is behind a character that is not shown. Two control characters always end
it, and an escape character always begins another. -/
def next (q : ControlSequence) (c : Char) : ControlSequence :=
  if c == '\x1B' then .escape
  else if c == '\x18' || c == '\x1A' then .none
  else
    match q with
    | .none => .none
    | .escape => ofIntroducer c
    | .escapeMore => if isFrom 0x30 0x7F c then .none else .escapeMore
    | .command => if isFrom 0x40 0x7F c then .none else .command
    | .deviceStart =>
      if isControl c || 0x80 ≤ c.toNat then .deviceStart else deviceNext false c
    | .deviceNumbers =>
      if isControl c || 0x80 ≤ c.toNat then .deviceNumbers else deviceNext true c
    | .deviceMarks => if isFrom 0x30 0x7F c then .message else .deviceMarks
    | .message => if endsMessage c then .none else .message
    | .title => if c == '\x07' then .none else .title

end ControlSequence

/-- What a text shows, read on from the middle of a sequence. -/
def plainFrom : ControlSequence → List Char → List Char
  | _, [] => []
  | q, c :: s => if q.shows c then c :: plainFrom .none s else plainFrom (q.next c) s

/-- What a text shows, without its control sequences. -/
def plain (s : String) : String := String.ofList (plainFrom .none s.toList)

theorem ControlSequence.none_shows {q : ControlSequence} {c : Char} (h : q.shows c) :
    ControlSequence.none.shows c := by
  cases q <;> simp_all [shows]

/-- Only what is shown outside of sequences is left. -/
theorem shows_of_mem_plainFrom {q : ControlSequence} {s : List Char} {c : Char}
    (h : c ∈ plainFrom q s) : ControlSequence.none.shows c := by
  induction s generalizing q with
  | nil => cases h
  | cons d s ih =>
    rw [plainFrom] at h
    split at h
    next hd =>
      rcases List.mem_cons.1 h with rfl | h
      · exact ControlSequence.none_shows hd
      · exact ih h
    next => exact ih h

theorem plainFrom_eq_self {s : List Char} (h : ∀ c ∈ s, ControlSequence.none.shows c) :
    plainFrom .none s = s := by
  induction s with
  | nil => rfl
  | cons c s ih =>
    rw [plainFrom, if_pos (h c List.mem_cons_self), ih fun d hd => h d (List.mem_cons_of_mem _ hd)]

theorem plain_eq_self {s : String} (h : ∀ c ∈ s.toList, ControlSequence.none.shows c) :
    plain s = s := by
  rw [plain, plainFrom_eq_self h, String.ofList_toList]

/-- A plain text shows all of itself. -/
theorem plain_plain (s : String) : plain (plain s) = plain s :=
  plain_eq_self fun _ h => shows_of_mem_plainFrom (by simpa [plain] using h)

end PipelineLint.Text
