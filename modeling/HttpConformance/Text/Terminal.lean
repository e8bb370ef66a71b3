import HttpConformance.Text.Utf8

/-!
# Text on a terminal

A terminal takes some characters for commands: the control characters, and the sequences that an
escape character opens. A text that quotes what somebody else has written is printed without them,
so that it cannot move the cursor, change a colour or rename the window.

Sequences are recognised as a terminal recognises them, one character at a time.

Main definitions:

- `Terminal.State` and `Terminal.step`: what a terminal waits for, and what one character does.
- `Terminal.visible`: the text without commands.

Main statements: `visible` yields visible characters only (`isVisible_of_mem_visible`) and keeps a
text that consists of them (`visible_eq_self`).
-/

namespace HttpConformance.Terminal

/-! ## Characters -/

/-- A blank that moves the cursor as ordinary text does: a tab, or what ends a line or a page. -/
def isBlankControl (c : Char) : Bool :=
  c = '\t' || c = '\n' || c = '\x0c' || c = '\r'

/-- A control character of the ASCII code that is no blank. -/
def isCommand (c : Char) : Bool :=
  (c < ' ' && !isBlankControl c) || c = '\x7f'

/-- The character stands for itself where no sequence is open. -/
def isVisible (c : Char) : Bool :=
  !isCommand c

/-- A graphic character of the ASCII code, of which sequences are made. -/
def isGraphic (c : Char) : Bool :=
  ' ' ≤ c && c ≤ '~'

/-! ## Sequences -/

/-- What a terminal waits for. -/
inductive State where
  /-- Text: no sequence is open. -/
  | text
  /-- The character after an escape character, which says what kind of sequence follows. -/
  | escape
  /-- The last character of a short sequence, after its intermediate characters. -/
  | short
  /-- The last character of a control sequence, after its parameters. -/
  | control
  /-- The end of a command to the operating system: a bell or an escape character. -/
  | systemCommand
  /-- The first character of a device control string. -/
  | deviceStart
  /-- More of the front of a device control string, after a parameter. -/
  | deviceParameter
  /-- More of the front of a device control string, after an intermediate character. -/
  | deviceIntermediate
  /-- The end of a string: a string terminator or an escape character. -/
  | string
  deriving DecidableEq, Repr

/-- What the character after an escape character opens. -/
def opened (c : Char) : State :=
  if c = '[' then .control
  else if c = ']' then .systemCommand
  else if c = 'P' then .deviceStart
  else if c = 'X' || c = '^' || c = '_' then .string
  else if c < '0' then .short
  else .text

/-- What a terminal waits for after a graphic character of the ASCII code. -/
def State.afterGraphic (c : Char) : State → State
  | .text => .text
  | .escape => opened c
  | .short => if c < '0' then .short else .text
  | .control => if c < '@' then .control else .text
  | .systemCommand => .systemCommand
  | .deviceStart =>
    if c < '0' then .deviceIntermediate else if c < '@' then .deviceParameter else .string
  | .deviceParameter =>
    if c < '0' then .deviceIntermediate else if c < '<' then .deviceParameter else .string
  | .deviceIntermediate => if c < '0' then .deviceIntermediate else .string
  | .string => .string

/-- The byte 0x9C is the string terminator. A terminal that is inside of a string does not read
characters of several bytes, so that the byte counts as part of a character too. -/
def terminatesString (c : Char) : Bool :=
  (Utf8.encode [c]).contains 0x9C

/-- What one character does: what is shown of it, and what the terminal waits for then. An escape
character starts a sequence even inside of another one; the characters Cancel and Substitute end any
sequence, and so does a blank control in a sequence that is no string. Other control characters, and
characters outside of the ASCII code, are lost inside of a sequence. -/
def step (state : State) (c : Char) : Text × State :=
  if c = '\x1b' then ([], .escape)
  else if c = '\x18' || c = '\x1a' then ([], .text)
  else
    let next := if isGraphic c then state.afterGraphic c else state
    match state with
    | .text => (if isVisible c then [c] else [], .text)
    | .escape | .short | .control => if isBlankControl c then ([c], .text) else ([], next)
    | .systemCommand => ([], if c = '\x07' then .text else next)
    | .deviceStart | .deviceParameter | .deviceIntermediate => ([], next)
    | .string => ([], if terminatesString c then .text else next)

/-- What is shown of a text, and what the terminal waits for after it. -/
def scan (state : State) : Text → Text × State
  | [] => ([], state)
  | c :: rest =>
    let (shown, next) := step state c
    let (more, last) := scan next rest
    (shown ++ more, last)

/-- The text without commands. -/
def visible (text : Text) : Text :=
  (scan .text text).1

example : visible "a\x1b[1;31mb\x1b[0mc".toList = "abc".toList := by decide

example : visible "\x1b]0;title\x07a\x08b\tc\x1b[éx".toList = "ab\tc".toList := by decide

/-! ## What is kept -/

/-- A visible character is kept where no sequence is open, and opens none. -/
theorem step_text_of_isVisible {c : Char} (h : isVisible c = true) :
    step .text c = ([c], .text) := by
  have hne : ∀ d : Char, isVisible d = false → c ≠ d := fun d hd hcd => by simp [hcd, hd] at h
  simp [step, h, hne '\x1b' (by decide), hne '\x18' (by decide), hne '\x1a' (by decide)]

/-- A text of visible characters is kept as it is. -/
theorem visible_eq_self {text : Text} (h : ∀ c ∈ text, isVisible c = true) :
    visible text = text := by
  unfold visible
  induction text with
  | nil => rfl
  | cons c rest ih =>
    simp only [List.mem_cons, forall_eq_or_imp] at h
    simp [scan, step_text_of_isVisible h.1, ih h.2]

/-- A blank control is visible. -/
theorem isVisible_of_isBlankControl {c : Char} (h : isBlankControl c = true) :
    isVisible c = true := by
  have hne : c ≠ '\x7f' := fun hc => by simp [hc, isBlankControl] at h
  simp [isVisible, isCommand, h, hne]

/-- Whatever is shown of one character is visible. -/
theorem isVisible_of_mem_step {state : State} {c d : Char} (h : d ∈ (step state c).1) :
    isVisible d = true := by
  simp only [step] at h
  split at h
  · simp at h
  · split at h
    · simp at h
    · cases state with
      | text => by_cases hv : isVisible c <;> simp_all
      | escape | short | control =>
        by_cases hb : isBlankControl c <;> simp_all [isVisible_of_isBlankControl]
      | systemCommand | deviceStart | deviceParameter | deviceIntermediate | string => simp at h

/-- What is shown of a text consists of visible characters. -/
theorem isVisible_of_mem_scan {state : State} {text : Text} {d : Char}
    (h : d ∈ (scan state text).1) : isVisible d = true := by
  induction text generalizing state with
  | nil => simp [scan] at h
  | cons c rest ih =>
    rcases List.mem_append.1 h with h | h
    · exact isVisible_of_mem_step h
    · exact ih h

/-- The text without commands consists of visible characters. -/
theorem isVisible_of_mem_visible {text : Text} {d : Char} (h : d ∈ visible text) :
    isVisible d = true :=
  isVisible_of_mem_scan h

end HttpConformance.Terminal
