/-!
# Control sequences of a terminal

A text may hold sequences that steer a terminal and show nothing. They begin with an escape
character. `shown` leaves them out, and with them every other control character of ASCII that is not
white space. A text without control characters is shown as it is.
-/

namespace Stencil.Text

/-- A sequence that is not over yet, by what may follow in it. -/
inductive ControlSequence where
  /-- The escape character alone. -/
  | escape
  /-- An escape sequence of which only the last character is missing. -/
  | escapeEnd
  /-- A control sequence, which a letter or the like ends. -/
  | control
  /-- A control string for a device, in front of its parameters. -/
  | device
  /-- The parameters of a control string. -/
  | deviceParameters
  /-- A control string behind its parameters. -/
  | deviceEnd
  /-- The content of a control string or of a message, which a string terminator ends. -/
  | string
  /-- A command to the system, which a bell ends. -/
  | command
  deriving DecidableEq, Inhabited

/-- Where a character of a text stands. -/
inductive Place where
  | text
  | within (s : ControlSequence)
  /-- In the text that begins with white space inside a sequence. The next control character goes
  on with the sequence, and a character outside ASCII gives it up. -/
  | paused (s : ControlSequence)
  deriving DecidableEq, Inhabited

def escapeChar : Char := '\x1b'

/-- The two characters that break off any sequence. -/
def isCancel (c : Char) : Bool := c == '\x18' || c == '\x1a'

def isAsciiWhite (c : Char) : Bool := c == '\t' || c == '\n' || c == '\x0c' || c == '\r'

/-- Whether a character of a text is shown. -/
def isShownInText (c : Char) : Bool := isAsciiWhite c || (' ' ≤ c && c != '\x7f')

/-- Whether a character is a string terminator, or has the byte of one in its UTF-8 form. -/
def isTerminator (c : Char) : Bool := (String.utf8EncodeChar c).contains 0x9C

/-- Whether a character lies between two others. -/
def isBetween (first last c : Char) : Bool := first ≤ c && c ≤ last

namespace ControlSequence

/-- Whether white space inside the sequence is shown. -/
def showsWhite : ControlSequence → Bool
  | .escape | .escapeEnd | .control => true
  | .device | .deviceParameters | .deviceEnd | .string | .command => false

/-- The place behind a character of a sequence. -/
def after : ControlSequence → Char → Place
  | .escape, c =>
    if isBetween ' ' '/' c then .within .escapeEnd
    else if c = '[' then .within .control
    else if c = ']' then .within .command
    else if c = 'P' then .within .device
    else if c = 'X' ∨ c = '^' ∨ c = '_' then .within .string
    else if isBetween '0' '~' c then .text
    else .within .escape
  | .escapeEnd, c => if isBetween '0' '~' c then .text else .within .escapeEnd
  | .control, c => if isBetween '@' '~' c then .text else .within .control
  | .device, c =>
    if isBetween ' ' '/' c then .within .deviceEnd
    else if isBetween '0' '?' c then .within .deviceParameters
    else if isBetween '@' '~' c then .within .string
    else .within .device
  | .deviceParameters, c =>
    if isBetween ' ' '/' c then .within .deviceEnd
    else if isBetween '<' '~' c then .within .string
    else .within .deviceParameters
  | .deviceEnd, c => if isBetween '0' '~' c then .within .string else .within .deviceEnd
  | .string, c => if isTerminator c then .text else .within .string
  | .command, c => if c = '\x07' then .text else .within .command

end ControlSequence

/-- The place behind a character, and whether the character is shown. -/
def Place.step (p : Place) (c : Char) : Place × Bool :=
  if c = escapeChar then (.within .escape, false)
  else if isCancel c then (.text, false)
  else
    match p with
    | .text => (.text, isShownInText c)
    | .within s =>
      if isAsciiWhite c && s.showsWhite then (.paused s, true) else (s.after c, false)
    | .paused s =>
      if isShownInText c then (if c ≤ '\x7f' then .paused s else .text, true)
      else (.within s, false)

/-- What is shown of the characters from a place on. -/
def shownFrom : Place → List Char → List Char
  | _, [] => []
  | p, c :: cs =>
    let (next, shows) := p.step c
    if shows then c :: shownFrom next cs else shownFrom next cs

/-- What is shown of a text. -/
def shown (cs : List Char) : List Char := shownFrom .text cs

theorem step_text {c : Char} (h : isShownInText c = true) : Place.text.step c = (.text, true) := by
  have hEscape : c ≠ escapeChar := by
    intro hc
    subst hc
    exact absurd h (by decide)
  have hCancel : isCancel c = false := by
    rw [isCancel, Bool.or_eq_false_iff]
    constructor
    · exact beq_false_of_ne fun hc => absurd h (by rw [hc]; decide)
    · exact beq_false_of_ne fun hc => absurd h (by rw [hc]; decide)
  simp [Place.step, hEscape, hCancel, h]

/-- A text without control characters is shown as it is. -/
theorem shown_eq_self {cs : List Char} (h : ∀ c ∈ cs, isShownInText c = true) : shown cs = cs := by
  induction cs with
  | nil => rfl
  | cons c cs ih =>
    have hc := step_text (h c List.mem_cons_self)
    have hcs := ih fun d hd => h d (List.mem_cons_of_mem c hd)
    simp only [shown, shownFrom, hc, if_true] at hcs ⊢
    rw [hcs]

end Stencil.Text
