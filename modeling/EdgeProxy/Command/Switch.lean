/-!
Options of a command line.  An option has long names such as `--port`, short names such as `-p`, or
both, and may take a value.  Short names may be written together behind one dash; a value may follow
its option at once, for a long name after an equals sign.  Two dashes alone end the options.
-/

namespace EdgeProxy.Command

/-- An option. -/
structure Switch where
  /-- The names, as they are listed. -/
  names : List String
  /-- The names that mean the contrary. -/
  contrary : List String
  /-- What kind of value it takes, if any. -/
  takes : Option String
  help : String
deriving DecidableEq, Repr

namespace Switch

/-- An option without a value. -/
def flag (names : List String) (help : String) : Switch := ⟨names, [], none, help⟩

def value (names : List String) (kind help : String) : Switch := ⟨names, [], some kind, help⟩

/-- Whether the option goes by a name. -/
def isNamed (s : Switch) (name : String) : Bool := s.names.contains name || s.contrary.contains name

/-- The option as it is listed. -/
def label (s : Switch) : String :=
  " / ".intercalate ([s.names, s.contrary].filter (!·.isEmpty) |>.map (", ".intercalate ·)) ++
    match s.takes with
    | some kind => " " ++ kind
    | none => ""

end Switch

/-- An option as it was written: the name and the value. -/
structure Mention where
  name : String
  value : Option String
deriving DecidableEq, Repr

/-- What a word of options says: the options in it, and the name of the last one if its value is the
next word. -/
structure WordReading where
  mentions : List Mention
  pending : Option String
deriving DecidableEq, Repr

/-- Options written together behind one dash. -/
def readShort (switches : List Switch) : List Char → Option WordReading
  | [] => some ⟨[], none⟩
  | c :: rest =>
    let name := String.ofList ['-', c]
    match switches.find? (·.isNamed name) with
    | none => none
    | some s =>
      if s.takes.isNone then
        (readShort switches rest).map fun r => { r with mentions := ⟨name, none⟩ :: r.mentions }
      else if rest.isEmpty then some ⟨[], some name⟩
      else some ⟨[⟨name, some (String.ofList rest)⟩], none⟩

/-- The name and the value of a long option. -/
def splitValue (word : List Char) : String × Option String :=
  let name := word.takeWhile (· != '=')
  (String.ofList name,
    if name.length < word.length then some (String.ofList (word.drop (name.length + 1))) else none)

def readOption (switches : List Switch) (word : List Char) : Option WordReading :=
  let (name, value) := splitValue word
  match switches.find? fun s => 2 < name.length && s.isNamed name with
  | some s =>
    if s.takes.isNone then if value.isNone then some ⟨[⟨name, none⟩], none⟩ else none
    else
      match value with
      | some v => some ⟨[⟨name, some v⟩], none⟩
      | none => some ⟨[], some name⟩
  | none =>
    match word with
    | '-' :: '-' :: _ => none
    | _ => readShort switches (word.drop 1)

def isOptionWord (word : List Char) : Bool := word.head? == some '-' && 1 < word.length

/-- What words say: the options and the other words.  If options are not `mixed` with other words,
the first other word ends them. -/
def readWords (switches : List Switch) (mixed : Bool) :
    List String → Option (List Mention × List String)
  | [] => some ([], [])
  | word :: rest =>
    if word == "--" then some ([], rest)
    else if isOptionWord word.toList then
      match readOption switches word.toList with
      | none => none
      | some ⟨mentions, none⟩ =>
        (readWords switches mixed rest).map fun (more, words) => (mentions ++ more, words)
      | some ⟨mentions, some name⟩ =>
        match rest with
        | [] => none
        | value :: rest =>
          (readWords switches mixed rest).map fun (more, words) =>
            (mentions ++ ⟨name, some value⟩ :: more, words)
    else if mixed then
      (readWords switches mixed rest).map fun (more, words) => (more, word :: words)
    else some ([], word :: rest)

namespace Switch

/-- Whether the last mention of the option turns it on; `default` holds without a mention. -/
def isOn (s : Switch) (mentions : List Mention) (default : Bool) : Bool :=
  match (mentions.filter fun m => s.isNamed m.name).getLast? with
  | some m => s.names.contains m.name
  | none => default

/-- The value that the last mention of the option gives. -/
def given? (s : Switch) (mentions : List Mention) : Option String :=
  ((mentions.filter fun m => s.isNamed m.name).getLast?).bind (·.value)

end Switch

end EdgeProxy.Command
