/-!
# Command lines

A command line names a command, the route file that it works on and, for some
commands, an option with a value. Options may stand before or after the file;
after two dashes everything is a file. Asking for help or the version ends the
reading at once.
-/

namespace RouteTree

/-- What the program can be asked to do with a route file. -/
inductive Command where
  | inspect (file : String)
  | paths (file : String) (route : Option String)
  | params (file route : String)
  | generate (file : String) (output : Option String)
deriving DecidableEq, Repr

namespace Command

/-- The first word of a command. -/
inductive Verb where
  | inspect
  | paths
  | params
  | generate
deriving DecidableEq, Repr

namespace Verb

def all : List Verb := [.inspect, .paths, .params, .generate]

def name : Verb → String
  | .inspect => "inspect"
  | .paths => "paths"
  | .params => "params"
  | .generate => "generate"

def ofName? (name : String) : Option Verb :=
  all.find? fun verb => verb.name = name

/-- The letter and the name of the option that takes a value. -/
def option? : Verb → Option (Char × String)
  | .inspect => none
  | .paths => some ('r', "route")
  | .params => some ('r', "route")
  | .generate => some ('o', "output")

/-- Whether the value of the option may be empty; a file name may not. -/
def admits (verb : Verb) (value : String) : Bool :=
  verb ≠ .generate || !value.isEmpty

end Verb

/-- Why reading ends without a command. -/
inductive Stop where
  | misuse
  | help
  | version
deriving DecidableEq, Repr

/-- One argument by its form. -/
inductive Argument where
  | dashes
  | long (name : String) (value : Option String)
  | short (letters : List Char)
  | plain (text : String)
deriving DecidableEq, Repr

/-- A name and what follows an equals sign. -/
def Argument.ofLong (letters : List Char) : Argument :=
  match letters.dropWhile (· ≠ '=') with
  | [] => .long (String.ofList letters) none
  | _ :: value =>
      .long (String.ofList (letters.takeWhile (· ≠ '='))) (some (String.ofList value))

def Argument.ofText (text : String) : Argument :=
  match text.toList with
  | ['-', '-'] => .dashes
  | '-' :: '-' :: letters => Argument.ofLong letters
  | '-' :: letter :: letters => .short (letter :: letters)
  | _ => .plain text

/-- What has been read after the verb. -/
structure Draft where
  verbose : Bool := false
  file : Option String := none
  value : Option String := none
  /-- The last argument was an option whose value comes next. -/
  awaitsValue : Bool := false
deriving DecidableEq, Repr

namespace Draft

/-- A flag may be given once. -/
def setVerbose (draft : Draft) : Except Stop Draft :=
  if draft.verbose then .error .misuse else .ok { draft with verbose := true }

/-- So may a value. -/
def setValue (draft : Draft) (verb : Verb) (value : String) : Except Stop Draft :=
  if draft.value.isSome || !verb.admits value then .error .misuse
  else .ok { draft with value := some value, awaitsValue := false }

/-- There is one file, and its name is not empty. -/
def setFile (draft : Draft) (file : String) : Except Stop Draft :=
  if draft.file.isSome || file.isEmpty then .error .misuse
  else .ok { draft with file := some file }

/-- Reads letters after a dash. The letter of an option takes what follows as
its value, with or without an equals sign. -/
def readLetters (verb : Verb) (draft : Draft) : List Char → Except Stop Draft
  | [] => .ok draft
  | letter :: rest =>
      if letter = 'v' then draft.setVerbose.bind fun draft => readLetters verb draft rest
      else if letter = 'h' then .error .help
      else if verb.option?.map Prod.fst = some letter then
        match rest with
        | [] => .ok { draft with awaitsValue := true }
        | '=' :: value => draft.setValue verb (String.ofList value)
        | value => draft.setValue verb (String.ofList value)
      else .error .misuse

def readLong (verb : Verb) (draft : Draft) (name : String) (value : Option String) :
    Except Stop Draft :=
  if verb.option?.map Prod.snd = some name then
    match value with
    | some value => draft.setValue verb value
    | none => .ok { draft with awaitsValue := true }
  else if value.isSome then .error .misuse
  else if name = "verbose" then draft.setVerbose
  else if name = "help" then .error .help
  else .error .misuse

/-- The command that has been read, and whether it is to be verbose. -/
def finish (verb : Verb) (draft : Draft) : Except Stop (Command × Bool) :=
  if draft.awaitsValue then .error .misuse
  else
    match verb, draft.file, draft.value with
    | .inspect, some file, _ => .ok (.inspect file, draft.verbose)
    | .paths, some file, route => .ok (.paths file route, draft.verbose)
    | .params, some file, some route => .ok (.params file route, draft.verbose)
    | .generate, some file, output => .ok (.generate file output, draft.verbose)
    | _, _, _ => .error .misuse

/-- Reads the arguments after two dashes. -/
def readFiles (verb : Verb) (draft : Draft) : List String → Except Stop (Command × Bool)
  | [] => draft.finish verb
  | file :: rest => (draft.setFile file).bind fun draft => readFiles verb draft rest

/-- Reads the arguments after a verb. A value is never something that looks
like an option. -/
def read (verb : Verb) (draft : Draft) : List String → Except Stop (Command × Bool)
  | [] => draft.finish verb
  | text :: rest =>
      match Argument.ofText text, draft.awaitsValue with
      | .plain value, true =>
          (draft.setValue verb value).bind fun draft => read verb draft rest
      | _, true => .error .misuse
      | .plain file, false => (draft.setFile file).bind fun draft => read verb draft rest
      | .dashes, false => readFiles verb draft rest
      | .short letters, false =>
          (draft.readLetters verb letters).bind fun draft => read verb draft rest
      | .long name value, false =>
          (draft.readLong verb name value).bind fun draft => read verb draft rest

end Draft

/-- Reads letters before the verb; the answer is the flag after them. -/
def readLeadingLetters (verbose : Bool) : List Char → Except Stop Bool
  | [] => .ok verbose
  | letter :: rest =>
      if letter = 'v' then
        if verbose then .error .misuse else readLeadingLetters true rest
      else if letter = 'h' then .error .help
      else if letter = 'V' then .error .version
      else .error .misuse

def readLeadingLong (verbose : Bool) (name : String) (value : Option String) :
    Except Stop Bool :=
  if value.isSome then .error .misuse
  else if name = "verbose" then if verbose then .error .misuse else .ok true
  else if name = "help" then .error .help
  else if name = "version" then .error .version
  else .error .misuse

/-- Help may be asked for about one verb, or about help itself. -/
def readHelpTopic : List String → Stop
  | [] => .help
  | [topic] => if topic = "help" || (Verb.ofName? topic).isSome then .help else .misuse
  | _ => .misuse

/-- Reads a command line from its start. -/
def readLeading (verbose : Bool) : List String → Except Stop (Command × Bool)
  | [] => .error .misuse
  | text :: rest =>
      match Argument.ofText text with
      | .dashes => .error .misuse
      | .short letters =>
          (readLeadingLetters verbose letters).bind fun verbose => readLeading verbose rest
      | .long name value =>
          (readLeadingLong verbose name value).bind fun verbose => readLeading verbose rest
      | .plain word =>
          match Verb.ofName? word with
          | some verb =>
              (Draft.read verb {} rest).map fun (command, again) => (command, verbose || again)
          | none => .error (if word = "help" then readHelpTopic rest else .misuse)

/-- The command of a command line, and whether it is to be verbose. -/
def ofArguments (arguments : List String) : Except Stop (Command × Bool) :=
  readLeading false arguments

end Command

end RouteTree
