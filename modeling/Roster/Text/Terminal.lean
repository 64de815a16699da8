/-
Roster.Text.Terminal — what shows of a text that is meant for a terminal.

Control sequences are taken out, and so are controls that do not lay out
text.  There are two ways to show a text, and they differ only inside an
open sequence: `message` takes the sequence to be over as soon as anything
shows, while `written` goes on with it at the next control.
-/
import Roster.Text.Basic

namespace Roster.Text.Terminal

/-- A text that stands out, between the control sequences that begin and end
its style. -/
def accented (s : String) : String := "\x1b[1m" ++ s ++ "\x1b[0m"

/-- What a terminal is reading. -/
inductive Mode where
  /-- Text. -/
  | ground
  /-- What follows an escape character. -/
  | escape
  /-- An escape sequence, behind its first character. -/
  | escapeTail
  /-- A control sequence. -/
  | control
  /-- The parameters of a control sequence. -/
  | controlParameters
  /-- The characters in front of the last one of a control sequence. -/
  | controlTail
  /-- A control sequence that is out of order. -/
  | controlIgnored
  /-- A device control string. -/
  | device
  /-- The parameters of a device control string. -/
  | deviceParameters
  /-- The characters in front of the content of a device control string. -/
  | deviceTail
  /-- The content of a string, up to a string terminator. -/
  | content
  /-- The content of a system command, up to a bell. -/
  | command
  deriving DecidableEq, Repr

/-- Whether a character code lies between two others. -/
def within (first last : Nat) (c : Char) : Bool := first ≤ c.toNat && c.toNat ≤ last

/-- Whether a character lays out text: the tab, and the ends of lines and
pages. -/
def isLayout (c : Char) : Bool := c == '\t' || c == '\n' || c.toNat == 0x0C || c == '\r'

/-- Whether the bytes of a character hold that of the string terminator. -/
def holdsTerminator (c : Char) : Bool := (String.utf8EncodeChar c).contains 0x9C

namespace Mode

/-- Whether a character shows. -/
def shows (m : Mode) (c : Char) : Bool :=
  match m with
  | .ground => isLayout c || (0x20 ≤ c.toNat && c.toNat != 0x7F)
  | .escape | .escapeTail | .control | .controlParameters | .controlTail | .controlIgnored =>
    isLayout c
  | .device | .deviceParameters | .deviceTail | .content | .command => false

/-- The mode after a character, those apart that have the same meaning in
all modes. -/
def afterOwn : Mode → Char → Mode
  | .ground, _ => .ground
  | .escape, c =>
    if within 0x20 0x2F c then .escapeTail
    else if c = '[' then .control
    else if c = ']' then .command
    else if c = 'P' then .device
    else if c = 'X' ∨ c = '^' ∨ c = '_' then .content
    else if within 0x30 0x7E c then .ground
    else .escape
  | .escapeTail, c => if within 0x30 0x7E c then .ground else .escapeTail
  | .control, c =>
    if within 0x20 0x2F c then .controlTail
    else if within 0x30 0x3F c then .controlParameters
    else if within 0x40 0x7E c then .ground
    else .control
  | .controlParameters, c =>
    if within 0x20 0x2F c then .controlTail
    else if within 0x3C 0x3F c then .controlIgnored
    else if within 0x40 0x7E c then .ground
    else .controlParameters
  | .controlTail, c =>
    if within 0x30 0x3F c then .controlIgnored
    else if within 0x40 0x7E c then .ground
    else .controlTail
  | .controlIgnored, c => if within 0x40 0x7E c then .ground else .controlIgnored
  | .device, c =>
    if within 0x20 0x2F c then .deviceTail
    else if within 0x30 0x3F c then .deviceParameters
    else if within 0x40 0x7E c then .content
    else .device
  | .deviceParameters, c =>
    if within 0x20 0x2F c then .deviceTail
    else if within 0x3C 0x3F c then .content
    else if within 0x40 0x7E c then .content
    else .deviceParameters
  | .deviceTail, c => if within 0x30 0x7E c then .content else .deviceTail
  | .content, c => if holdsTerminator c then .ground else .content
  | .command, c => if c.toNat = 0x07 then .ground else .command

/-- The mode after a character: in all modes an escape character begins a
sequence, and cancel and substitute end one. -/
def after (m : Mode) (c : Char) : Mode :=
  if c.toNat = 0x1B then .escape
  else if c.toNat = 0x18 ∨ c.toNat = 0x1A then .ground
  else m.afterOwn c

end Mode

/-! ## Messages -/

/-- What shows of a message, read on from a mode. -/
def messageFrom : Mode → List Char → List Char
  | _, [] => []
  | m, c :: cs =>
    if m.shows c then c :: messageFrom .ground cs else messageFrom (m.after c) cs

/-- What shows of a message. -/
def message (s : String) : String := String.ofList (messageFrom .ground s.toList)

/-! ## What is written -/

/-- What shows of what is written; `showing` tells that the character before
did. -/
def writtenFrom : Mode → Bool → List Char → List Char
  | _, _, [] => []
  | m, showing, c :: cs =>
    if (if showing then Mode.ground else m).shows c then
      c :: writtenFrom (if c.toNat < 0x80 then m else .ground) true cs
    else writtenFrom (m.after c) false cs

/-- What shows of what is written. -/
def written (s : String) : String := String.ofList (writtenFrom .ground false s.toList)

end Roster.Text.Terminal
