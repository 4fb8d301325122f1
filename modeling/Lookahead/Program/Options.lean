import Lookahead.Report

/-!
# Options of the command line

The command line names a grammar file and may choose a start symbol and the
sections of the report.  Arguments are read from left to right.  The value of an
option and the name of the file are held back: they are judged when the next
argument that means something is met, or at the end.
-/

namespace Lookahead.Program

/-- What a run is asked to do. -/
structure Options where
  file : String
  start : Option String
  first : Bool
  follow : Bool
  suffixes : Bool
  deriving DecidableEq, Repr

/-- The sections of the report: FIRST and FOLLOW, unless only one of them was
asked for. -/
def Options.sections (options : Options) : Report.Sections where
  first := options.first || !options.follow
  follow := options.follow || !options.first
  suffixes := options.suffixes

/-- Why arguments are refused. -/
inductive UsageFault where
  | unknownArgument
  | invalidValue
  | tooManyValues
  | conflict
  | missingFile
  deriving DecidableEq, Repr

/-- What ends the reading of arguments early. -/
inductive Stop where
  | help
  | version
  | refused (fault : UsageFault)
  deriving DecidableEq, Repr

/-- The names that an argument can call upon. -/
inductive Switch where
  | help
  | version
  | first
  | follow
  | suffixes
  | start
  deriving DecidableEq, Repr

namespace Switch

/-- The switch with a name after two dashes. -/
def ofLongName? : String → Option Switch
  | "help" => some .help
  | "version" => some .version
  | "first" => some .first
  | "follow" => some .follow
  | "suffixes" => some .suffixes
  | "start" => some .start
  | _ => none

/-- The switch with a letter after one dash. -/
def ofLetter? : Char → Option Switch
  | 'h' => some .help
  | 'V' => some .version
  | 's' => some .start
  | _ => none

end Switch

/-- The form of an argument other than the separator. -/
inductive Word where
  /-- A name after two dashes, perhaps with a value after an equals sign. -/
  | long (name : String) (attached : Option String)
  /-- Letters after one dash. -/
  | short (letters : List Char)
  /-- Anything else, one dash alone included. -/
  | plain
  deriving DecidableEq, Repr

/-- The form of an argument. -/
def Word.ofString (argument : String) : Word :=
  match argument.toList with
  | '-' :: '-' :: rest =>
      let name := String.ofList (rest.takeWhile (· != '='))
      match rest.dropWhile (· != '=') with
      | [] => .long name none
      | _ :: value => .long name (some (String.ofList value))
  | '-' :: letter :: letters => .short (letter :: letters)
  | _ => .plain

/-- What has been accepted so far. -/
structure Accepted where
  file : Option String := none
  start : Option String := none
  first : Bool := false
  follow : Bool := false
  suffixes : Bool := false
  deriving DecidableEq, Repr

/-- What is held back. -/
inductive Held where
  | nothing
  | start (value : Option String)
  | file (path : String)
  deriving DecidableEq, Repr

/-- The state of reading arguments. -/
structure Reading where
  accepted : Accepted := {}
  held : Held := .nothing
  deriving DecidableEq, Repr

/-- Accept a start symbol.  There is at most one. -/
def Accepted.withStart (accepted : Accepted) (start : String) : Except Stop Accepted :=
  if accepted.start.isSome then .error (.refused .conflict)
  else .ok { accepted with start := some start }

namespace Reading

/-- Judge what is held back.  A start option needs a value, and a file needs a
name. -/
def settle (reading : Reading) : Except Stop Accepted :=
  match reading.held with
  | .nothing => .ok reading.accepted
  | .start none => .error (.refused .invalidValue)
  | .start (some value) => reading.accepted.withStart value
  | .file path =>
      if path.isEmpty then .error (.refused .invalidValue)
      else .ok { reading.accepted with file := some path }

/-- Whether a file was named. -/
def hasFile (reading : Reading) : Bool :=
  match reading.held with
  | .file _ => true
  | _ => reading.accepted.file.isSome

/-- Meet a switch without attached value.  A flag may be given once. -/
def meet (reading : Reading) (switch : Switch) : Except Stop Reading := do
  let accepted ← reading.settle
  match switch with
  | .help => .error .help
  | .version => .error .version
  | .first =>
      if accepted.first then .error (.refused .conflict)
      else .ok { accepted := { accepted with first := true } }
  | .follow =>
      if accepted.follow then .error (.refused .conflict)
      else .ok { accepted := { accepted with follow := true } }
  | .suffixes =>
      if accepted.suffixes then .error (.refused .conflict)
      else .ok { accepted := { accepted with suffixes := true } }
  | .start => .ok { accepted := accepted, held := .start none }

/-- Meet a switch with an attached value, which only the start option takes. -/
def meetWith (reading : Reading) (switch : Switch) (value : String) : Except Stop Reading :=
  match switch with
  | .start => do
      let accepted ← reading.settle
      return { accepted := ← accepted.withStart value }
  | _ => .error (.refused .tooManyValues)

/-- Meet letters after one dash.  What stands after the letter of the start option
is its value, less one equals sign. -/
def meetLetters (reading : Reading) : List Char → Except Stop Reading
  | [] => .ok reading
  | letter :: rest =>
      match Switch.ofLetter? letter with
      | none => .error (.refused .unknownArgument)
      | some .start =>
          match rest with
          | [] => reading.meet .start
          | '=' :: value => reading.meetWith .start (String.ofList value)
          | value => reading.meetWith .start (String.ofList value)
      | some switch => do (← reading.meet switch).meetLetters rest

/-- Meet the name of a file.  There is at most one. -/
def meetFile (reading : Reading) (path : String) : Except Stop Reading :=
  if reading.hasFile then .error (.refused .unknownArgument)
  else do
    let accepted ← reading.settle
    return { accepted := accepted, held := .file path }

/-- Meet one argument before the separator. -/
def meetArgument (reading : Reading) (argument : String) : Except Stop Reading :=
  match Word.ofString argument with
  | .long name attached =>
      match Switch.ofLongName? name, attached with
      | none, _ => .error (.refused .unknownArgument)
      | some switch, none => reading.meet switch
      | some switch, some value => reading.meetWith switch value
  | .short letters => reading.meetLetters letters
  | .plain =>
      match reading.held with
      | .start none => .ok { reading with held := .start (some argument) }
      | _ => reading.meetFile argument

/-- Meet all arguments.  After the separator, two dashes alone, every argument names
a file. -/
def meetAll (reading : Reading) : List String → Except Stop Reading
  | [] => .ok reading
  | argument :: rest =>
      if argument = "--" then rest.foldlM meetFile reading
      else do (← reading.meetArgument argument).meetAll rest

end Reading

/-- Read the arguments of the program. -/
def Options.ofArguments (arguments : List String) : Except Stop Options := do
  let reading ← Reading.meetAll {} arguments
  let accepted ← reading.settle
  if accepted.first && accepted.follow then .error (.refused .conflict)
  else
    match accepted.file with
    | none => .error (.refused .missingFile)
    | some file =>
        .ok ⟨file, accepted.start, accepted.first, accepted.follow, accepted.suffixes⟩

end Lookahead.Program
