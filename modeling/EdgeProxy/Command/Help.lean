import EdgeProxy.Command.Form
/-!
Pages of help, made from the forms.
-/

namespace EdgeProxy.Command

def programAbout : String := "HomeRoute — reverse proxy routing for a home server."

/-- Rows in two columns, set in by two spaces. -/
def columns (rows : List (String × String)) : List String :=
  let width := rows.foldl (fun n (a, _) => max n a.length) 0
  rows.map fun (a, b) =>
    "  " ++ a ++ String.ofList (List.replicate (width + 2 - a.length) ' ') ++ b

def optionLines (switches : List Switch) : List String :=
  "Options:" :: columns (switches.map fun s => (s.label, s.help))

/-- A page: how the command is written, what it does and its options. -/
def page (usage about : String) (switches : List Switch) : List String :=
  ["Usage: " ++ usage, "", "  " ++ about, ""] ++ optionLines switches

def listPage (program about : String) (switches : List Switch) (rows : List (String × String)) :
    List String :=
  page (program ++ " [OPTIONS] COMMAND [ARGS]...") about switches ++
    ["", "Commands:"] ++ columns rows

/-- The page of the program, which goes by the given name. -/
def programPage (program : String) : List String :=
  listPage program programAbout globalSwitches (entries.map fun e => (e.name, e.brief))

/-- The page of a group; `program` names what stands before it. -/
def groupPage (program name about : String) (forms : List Form) : List String :=
  listPage (program ++ " " ++ name) about [helpSwitch] (forms.map fun f => (f.name, f.brief))

/-- The page of a command; `program` names what stands before it. -/
def formPage (program : String) (f : Form) : List String :=
  page (" ".intercalate ([program, f.name, "[OPTIONS]"] ++ f.words)) f.about
    (f.switches ++ [helpSwitch])

end EdgeProxy.Command
