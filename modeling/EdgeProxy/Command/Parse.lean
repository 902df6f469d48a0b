import EdgeProxy.Command.Help
/-!
Reading a command line, in two steps: `readProgram` reads what stands before the command and finds
the command, `readEntry` reads what follows it.  What is asked for first of help and of the version
is shown, whatever else is asked for; words that make no sense have precedence over both.
-/

namespace EdgeProxy.Command

def version : String := "0.3.0"

def versionLine : String := "homeroute, version " ++ version

/-- The page that the options before the command ask for. -/
def globalPage (program : String) (ms : List Mention) : Option (List String) :=
  ms.findSome? fun m =>
    if helpSwitch.isNamed m.name then some (programPage program)
    else if versionSwitch.isNamed m.name then some [versionLine]
    else none

/-- What stands before the command: the options, the command and the words after it. -/
def readProgram (program : String) (words : List String) :
    Asked (Globals × Entry × List String) :=
  match readWords globalSwitches false words with
  | none => .misuse
  | some (ms, rest) =>
    match globalPage program ms with
    | some lines => .page lines
    | none =>
      match rest with
      | [] => .misuse
      | word :: rest =>
        match entries.find? (·.name == word) with
        | some e => .done (Globals.ofMentions ms, e, rest)
        | none => .misuse

/-- The command that the words after a form's name ask for. -/
def readForm (program : String) (f : Form) (words : List String) : Asked Command :=
  match readWords (f.switches ++ [helpSwitch]) true words with
  | none => .misuse
  | some (ms, rest) =>
    if helpSwitch.isOn ms false then .page (formPage program f)
    else if rest.length != f.words.length then .misuse
    else
      match f.build ms rest with
      | some command => .done command
      | none => .misuse

/-- The command that the words after an entry's name ask for. -/
def readEntry (program : String) (entry : Entry) (words : List String) : Asked Command :=
  match entry with
  | .form f => readForm program f words
  | .group name about forms =>
    match readWords [helpSwitch] false words with
    | none => .misuse
    | some (ms, rest) =>
      if helpSwitch.isOn ms false then .page (groupPage program name about forms)
      else
        match rest with
        | [] => .misuse
        | word :: rest =>
          match forms.find? (·.name == word) with
          | some f => readForm (program ++ " " ++ name) f rest
          | none => .misuse

end EdgeProxy.Command
