/-!
# Settings on the command line

What the command line can set, and the grammar of its words. A word is a setting by name
(`--seed 7`, `--seed=7`), or letters behind one hyphen (`-s7`, `-s=7`, `-s 7`), where letters of
switches may stand in front of each other and of one other letter (`-vs7`). A word `--` ends the
line. `Setting.scan` gives the settings in the order of the line.
-/

namespace Polycore.Command

/-- What the command line can set. -/
inductive Setting where
  | system
  | workload
  | instructions
  | fpFraction
  | exitAt
  | workBegin
  | workEnd
  | seed
  | seeds
  | switches
  | quantum
  | maxTicks
  | noRuby
  | verbose
  | json
  | exportTo
deriving DecidableEq, Repr

/-- A setting found on a command line, with the text of its value. Switches have no text. -/
structure Given where
  setting : Setting
  text : List Char := []
deriving DecidableEq, Repr

namespace Setting

def all : List Setting :=
  [system, workload, instructions, fpFraction, exitAt, workBegin, workEnd, seed, seeds, switches,
    quantum, maxTicks, noRuby, verbose, json, exportTo]

/-- The name that stands behind two hyphens. -/
def name : Setting → String
  | system => "system"
  | workload => "workload"
  | instructions => "instructions"
  | fpFraction => "fp-fraction"
  | exitAt => "exit-at"
  | workBegin => "work-begin"
  | workEnd => "work-end"
  | seed => "seed"
  | seeds => "seeds"
  | switches => "switches"
  | quantum => "quantum"
  | maxTicks => "max-ticks"
  | noRuby => "no-ruby"
  | verbose => "verbose"
  | json => "json"
  | exportTo => "export"

/-- The letter that stands behind one hyphen. -/
def letter? : Setting → Option Char
  | system => some 'S'
  | workload => some 'w'
  | instructions => some 'i'
  | seed => some 's'
  | quantum => some 'q'
  | verbose => some 'v'
  | _ => none

/-- A switch has no value. -/
def isSwitch : Setting → Bool
  | noRuby | verbose | json => true
  | _ => false

/-- A setting that may be given more than once. -/
def repeats : Setting → Bool
  | exitAt => true
  | _ => false

def ofName? (name : List Char) : Option Setting :=
  all.find? fun setting => setting.name.toList = name

def ofLetter? (letter : Char) : Option Setting :=
  all.find? fun setting => setting.letter? = some letter

/-- Whether a word can be the value of a setting in front of it. A word that begins with a hyphen
and goes on is none, except for the system, whose codes may be negative. -/
def admits (setting : Setting) : List Char → Bool
  | '-' :: _ :: _ => setting = system
  | _ => true

/-- What one word says: settings, and the one that waits for the next word as its value. -/
structure Said where
  given : List Given := []
  waiting : Option Setting := none
deriving DecidableEq, Repr

/-- What a setting and the text attached to it say. -/
def attached (setting : Setting) (text : Option (List Char)) : Option Said :=
  match setting.isSwitch, text with
  | true, none => some { given := [{ setting }] }
  | true, some _ => none
  | false, none => some { waiting := some setting }
  | false, some text => some { given := [{ setting, text }] }

/-- Reads a name with or without an equals sign and a value. -/
def named (word : List Char) : Option Said :=
  let text :=
    match word.dropWhile (· != '=') with
    | _ :: text => some text
    | [] => none
  (ofName? (word.takeWhile (· != '='))).bind fun setting => setting.attached text

/-- Reads letters. What follows the letter of a setting that is no switch is its value; an equals
sign may stand between them. -/
def letters : List Char → Option Said
  | [] => some {}
  | letter :: rest =>
    match ofLetter? letter with
    | none => none
    | some setting =>
      if setting.isSwitch then
        (letters rest).map fun said => { said with given := { setting } :: said.given }
      else
        match rest with
        | [] => setting.attached none
        | '=' :: text => setting.attached (some text)
        | text => setting.attached (some text)

def word : List Char → Option Said
  | '-' :: '-' :: rest => named rest
  | '-' :: letter :: rest => letters (letter :: rest)
  | _ => none

def scan : List (List Char) → Option (List Given)
  | [] => some []
  | first :: rest =>
    if first = ['-', '-'] then (if rest.isEmpty then some [] else none)
    else
      match word first with
      | none => none
      | some { given, waiting := none } => (scan rest).map (given ++ ·)
      | some { given, waiting := some setting } =>
        match rest with
        | [] => none
        | text :: rest =>
          if setting.admits text then (scan rest).map (given ++ { setting, text } :: ·) else none

end Setting

end Polycore.Command
