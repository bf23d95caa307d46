import ConsoleReplay.Pattern.Basic

/-!
# What consoles print

Patterns for the things that stand out in the output of a network device: prompts,
addresses, versions, magnitudes, parameters, states and errors; and for the lines
of its listings.

## Main definitions

* `Pattern.devicePrompt`, `Pattern.hostPrompt` — the two kinds of prompt.
* `Pattern.prompt` — a prompt anywhere in a text.
* `Pattern.ipv4`, `Pattern.mac`, `Pattern.version`, `Pattern.magnitude`,
  `Pattern.parameter`, `Pattern.state`, `Pattern.failure` — marked words.
* `Pattern.wholePrompt` — a text that is a prompt and nothing else.
* `Pattern.listRow`, `Pattern.keyValueLine` — lines of listings.
-/

namespace ConsoleReplay.Pattern

open Text (isBlank isDigit isWord)

/-- Any number of blanks. -/
def blanks : Pattern := many isBlank

/-- A character of a host or user name. -/
def isNameChar (c : Char) : Bool := isWord c || c == '.' || c == '-'

/-- A character of a menu path. -/
def isPathChar (c : Char) : Bool := isNameChar c || c == '/'

/-- The prompt of a device: user and host in brackets, a menu path, and a
greater-than sign, as in `[admin@router] /ip/address>`. -/
def devicePrompt : Pattern :=
  all [char '[', many1 fun c => !(c == ']' || c == '@' || isBlank c), char '@',
    many1 fun c => !(c == ']' || isBlank c), char ']',
    optional (all [blanks, char '/', many isPathChar]), blanks, char '>']

/-- The prompt of a host: user, host, directory and a dollar or number sign, as in
`root@host:/etc#`. -/
def hostPrompt : Pattern :=
  all [many1 isNameChar, char '@', many1 isNameChar, char ':', many fun c => !isBlank c,
    oneOf "$#"]

/-- A prompt.  That of a device is tried first, and neither can begin where the other does. -/
def prompt : Pattern := alt devicePrompt hostPrompt

/-- One digit. -/
def digit : Pattern := one isDigit

/-- Some digits. -/
def digits : Pattern := many1 isDigit

/-- A character between two others in the order of code points. -/
def between (lo hi : Char) : Pattern := one fun c => lo ≤ c && c ≤ hi

/-- A number up to 255, tried from the longest form down. -/
def octet : Pattern :=
  any [all [literal "25", between '0' '5'], all [char '2', between '0' '4', digit],
    all [char '1', digit, digit], all [optional (between '1' '9'), digit]]

/-- A number up to 32. -/
def prefixLength : Pattern :=
  any [all [char '3', between '0' '2'], all [optional (oneOf "12"), digit]]

/-- An address of four octets, maybe with the length of its network part. -/
def ipv4 : Pattern :=
  word (all [octet, times 3 (all [char '.', octet]), optional (all [char '/', prefixLength])])

/-- A hexadecimal digit. -/
def hexDigit : Pattern :=
  one fun c => c.isDigit || ('A' ≤ c && c ≤ 'F') || ('a' ≤ c && c ≤ 'f')

/-- An address of six pairs of hexadecimal digits. -/
def mac : Pattern :=
  word (all [times 2 hexDigit, times 5 (all [char ':', times 2 hexDigit])])

/-- A version of two or three numbers, maybe of a test release. -/
def version : Pattern :=
  word (all [optional (char 'v'), digits, char '.', digits,
    optional (all [char '.', digits]),
    optional (all [any [literal "rc", literal "beta"], digits])])

/-- An amount of memory, a frequency or a data rate: a number, maybe a blank, and the unit. -/
def magnitude : Pattern :=
  word (all [digits, optional (all [char '.', digits]), optional (one isBlank),
    any [all [oneOf "KMGT", literal "iB"], all [oneOf "KMGT", literal "B"],
      all [optional (oneOf "kMG"), literal "Hz"],
      all [optional (oneOf "kMG"), literal "bps"]]])

/-- A name, an equals sign and a value, which may be quoted.  A value that is not quoted goes on to
the next blank. -/
def parameter : Pattern :=
  all [wordBoundary, many1 fun c => isWord c || c == '-', char '=',
    any [all [char '"', many (· != '"'), char '"'], many fun c => !isBlank c]]

/-- One of several words, whatever their case. -/
def anyWord (words : List String) : Pattern := word (any (words.map literalAnyCase))

/-- The states that a device reports. -/
def state : Pattern :=
  anyWord ["running", "enabled", "disabled", "active", "inactive", "connected",
    "disconnected", "established", "up", "down", "dynamic", "bound"]

/-- The words that a device reports failures with. -/
def failure : Pattern :=
  anyWord ["syntax error", "error", "failure", "failed", "warning", "invalid", "denied",
    "timeout", "unreachable", "expected"]

/-! ### Whole texts and lines -/

/-- A text that is a prompt and nothing else, the bare prompt characters among
them. -/
def wholePrompt : Pattern :=
  any [all [atStart, devicePrompt, atEnd], all [atStart, hostPrompt, atEnd],
    all [atStart, oneOf ">#$", atEnd]]

/-- A numbered row of a listing: a number, flags, and a name before an equals
sign, as in `0  R  name=ether1`. -/
def listRow : Pattern :=
  all [atStart, blanks, digits, many1 isBlank,
    star (all [many1 fun c => ('A' ≤ c && c ≤ 'Z') || c == ';', many1 isBlank]),
    many1 isNameChar, char '=']

/-- A line of a report: a name, a colon and a value, as in `uptime: 1d2h`. -/
def keyValueLine : Pattern :=
  all [atStart, blanks, many1 fun c => isNameChar c || c == ' ' || c == '(' || c == ')',
    char ':', many1 isBlank, one fun c => !isBlank c]

end ConsoleReplay.Pattern
