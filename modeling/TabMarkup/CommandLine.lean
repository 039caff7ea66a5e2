import TabMarkup.Reader

/-!
The command line: reads a document from a file and prints it, summarizes it or writes it
to another file. A command line that cannot be understood exits with 2, any later failure
with 1.
-/
namespace TabMarkup.CommandLine

structure Options where
  file : Option String := none
  force : Bool := false
  output : Option String := none
  preserveBlankLines : Bool := false
  summary : Bool := false
  verbose : Bool := false

/-- A switch is given once at most. -/
def Options.switch (o : Options) (name : String) : Option Options :=
  match name with
  | "force" => if o.force then none else some { o with force := true }
  | "preserve-blank-lines" =>
    if o.preserveBlankLines then none else some { o with preserveBlankLines := true }
  | "summary" => if o.summary then none else some { o with summary := true }
  | "verbose" => if o.verbose then none else some { o with verbose := true }
  | _ => none

def Options.setOutput (o : Options) (path : String) : Option Options :=
  if o.output.isSome then none else some { o with output := some path }

def Options.setFile (o : Options) (path : String) : Option Options :=
  if o.file.isSome then none else some { o with file := some path }

/-- Whether an argument is an option; a lone dash is a value. -/
def isOption (arg : String) : Bool :=
  match arg.toList with
  | '-' :: _ :: _ => true
  | _ => false

/-- What a cluster of short options leaves to be done. -/
inductive Cluster where
  | done (o : Options)
  /-- The value of the output option is the next argument. -/
  | wantsOutput (o : Options)

def cluster (o : Options) : List Char → Option Cluster
  | [] => some (.done o)
  | 's' :: rest => (o.switch "summary").bind (cluster · rest)
  | 'v' :: rest => (o.switch "verbose").bind (cluster · rest)
  | ['o'] => some (.wantsOutput o)
  | 'o' :: '=' :: value => (o.setOutput (String.ofList value)).map .done
  | 'o' :: value => (o.setOutput (String.ofList value)).map .done
  | _ :: _ => none

def parseArgs (o : Options) : List String → Option Options
  | [] => some o
  | "--" :: rest => rest.foldlM Options.setFile o
  | arg :: rest =>
    match arg.toList with
    | '-' :: '-' :: name =>
      if name = "output".toList then
        match rest with
        | value :: rest =>
          if isOption value then none else (o.setOutput value).bind (parseArgs · rest)
        | [] => none
      else match Text.stripStart? "output=".toList name with
        | some value => (o.setOutput (String.ofList value)).bind (parseArgs · rest)
        | none => (o.switch (String.ofList name)).bind (parseArgs · rest)
    | '-' :: c :: cs =>
      match cluster o (c :: cs) with
      | none => none
      | some (.done o) => parseArgs o rest
      | some (.wantsOutput o) =>
        match rest with
        | value :: rest =>
          if isOption value then none else (o.setOutput value).bind (parseArgs · rest)
        | [] => none
    | _ => (o.setFile arg).bind (parseArgs · rest)

/-- The options of a command line, and the file it names. -/
def parse (args : List String) : Option (Options × String) := do
  let o ← parseArgs {} args
  return (o, ← o.file)

def summarizeTag (t : Tag) : String :=
  "- " ++ t.name ++ " (" ++ t.variant.text ++ ", " ++ toString t.children.length ++
    " children, " ++ toString t.properties.length ++ " properties)\n"

def summarize (d : Document) : String :=
  let tags := match d.body, d.mainTag with
    | .ok body, _ => body.tags
    | .error _, .ok t => [t]
    | .error _, .error _ => []
  "doctype: " ++ d.doctype.stylesheet ++ "\nversion: " ++ d.version.number ++
    "\nvariant: " ++ d.variant.text ++ "\n" ++ String.join (tags.map summarizeTag)

/-- Reads the document that a command line asks for. -/
def readDocument (o : Options) (file : String) (s : Storage) : Journaled Document := do
  let c ← if o.preserveBlankLines then
      let (loaded, c) := Context.standard.load "layout" "0.1"
      (fun _ => c) <$> loaded
    else pure Context.standard
  let r ← Reader.new c (.file file (← c.config).acceptedExtension)
  let (loaded, r) := r.init s o.force
  loaded
  (r.read c s).1

/-- What is printed for a document: a summary if one is asked for, the document itself if
it is not written to a file. -/
def printed (o : Options) (d : Document) : String :=
  if o.summary then summarize d else if o.output.isSome then "" else d.render

/-- What a run of the program leaves behind. -/
structure Outcome where
  code : Nat
  stdout : String := ""
  storage : Storage

def run (s : Storage) (args : List String) : Outcome :=
  match parse args with
  | none => ⟨2, "", s⟩
  | some (o, file) =>
    match (readDocument o file s).result with
    | .error _ => ⟨1, "", s⟩
    | .ok d =>
      match o.output with
      | none => ⟨0, printed o d, s⟩
      | some path =>
        match Reader.write d (.file path "") s with
        | (.ok _, s) => ⟨0, printed o d, s⟩
        | (.error _, s) => ⟨1, printed o d, s⟩

end TabMarkup.CommandLine
