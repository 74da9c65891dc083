import FlagSheet.CommandLine.Token
import FlagSheet.Text.Blank

namespace FlagSheet

inductive Command where
  | parse (file : String) (flat : Bool)
  /-- Lists the features that are enabled in an environment, where each of these conditions has this outcome. -/
  | eval (file environment : String) (conditions : List (String × Bool))
  | sign (file secret : String)
  | verify (file secret signature : String)
deriving DecidableEq, Repr

inductive Stop where
  | usage
  | help
  | version
deriving DecidableEq, Repr

namespace CommandLine

inductive Verb where
  | parse
  | eval
  | sign
  | verify
deriving DecidableEq, Repr

def verb? (argument : String) : Option Verb :=
  match argument with
  | "parse" => some .parse
  | "eval" => some .eval
  | "sign" => some .sign
  | "verify" => some .verify
  | _ => none

inductive Switch where
  | flat
  | environment
  | condition
  | secret
  | signature
  | help
deriving DecidableEq, Repr

def Verb.long? (v : Verb) (name : String) : Option Switch :=
  match v, name with
  | _, "help" => some .help
  | .parse, "flat" => some .flat
  | .eval, "environment" => some .environment
  | .eval, "condition" => some .condition
  | .sign, "secret" => some .secret
  | .verify, "secret" => some .secret
  | .verify, "signature" => some .signature
  | _, _ => none

def Verb.short? (v : Verb) (letter : Char) : Option Switch :=
  match v, letter with
  | _, 'h' => some .help
  | .eval, 'e' => some .environment
  | .eval, 'c' => some .condition
  | _, _ => none

def Switch.takesValue : Switch → Bool
  | flat | help => false
  | environment | condition | secret | signature => true

structure Options where
  file : Option String
  flat : Bool
  environment : Option String
  conditions : List (String × Bool)
  secret : Option String
  signature : Option String

def Options.empty : Options := ⟨none, false, none, [], none, none⟩

def condition? (text : String) : Option (String × Bool) :=
  match text.toList.dropWhile (· ≠ '=') with
  | [] => none
  | _ :: outcome =>
    match Text.content? (String.ofList (text.toList.takeWhile (· ≠ '='))) with
    | none => none
    | some name =>
      match String.ofList (Text.trim outcome) with
      | "true" => some (name, true)
      | "false" => some (name, false)
      | _ => none

def once {α : Type} (earlier : Option α) (v : α) : Except Stop (Option α) :=
  match earlier with
  | some _ => .error .usage
  | none => .ok (some v)

def Options.addFile (o : Options) (file : String) : Except Stop Options :=
  if file = "" then .error .usage
  else (once o.file file).map ({ o with file := · })

def Options.turn (o : Options) : Switch → Except Stop Options
  | .help => .error .help
  | .flat => if o.flat then .error .usage else .ok { o with flat := true }
  | _ => .error .usage

def Options.give (o : Options) (s : Switch) (value : String) : Except Stop Options :=
  match s with
  | .environment => (once o.environment value).map ({ o with environment := · })
  | .secret => (once o.secret value).map ({ o with secret := · })
  | .signature => (once o.signature value).map ({ o with signature := · })
  | .condition =>
    match condition? value with
    | some c => .ok { o with conditions := o.conditions ++ [c] }
    | none => .error .usage
  | .flat | .help => .error .usage

/-- Takes in a switch, with its value if it comes in the same argument. Gives the switch back when its value is
still to come. -/
def Options.meet (o : Options) (s : Switch) (value : Option String) :
    Except Stop (Options × Option Switch) :=
  match value with
  | some value => (o.give s value).map (·, none)
  | none => if s.takesValue then .ok (o, some s) else (o.turn s).map (·, none)

def Options.read (o : Options) (v : Verb) (expecting : Option Switch) (argument : String) :
    Except Stop (Options × Option Switch) :=
  match expecting, Token.ofArgument argument with
  | some s, .plain => (o.give s argument).map (·, none)
  | some _, _ => .error .usage
  | none, .plain => (o.addFile argument).map (·, none)
  | none, .long name value =>
    match v.long? name with
    | some s => o.meet s value
    | none => .error .usage
  | none, .short letter rest =>
    match v.short? letter with
    | some .help => .error .help
    | some s => o.meet s (Token.attached? rest)
    | none => .error .usage
  | none, .separator => .error .usage

def Options.readFiles (o : Options) : List String → Except Stop Options
  | [] => .ok o
  | file :: files =>
    match o.addFile file with
    | .error stop => .error stop
    | .ok o => o.readFiles files

def Options.readAll (o : Options) (v : Verb) (expecting : Option Switch) :
    List String → Except Stop Options
  | [] => if expecting.isSome then .error .usage else .ok o
  | argument :: arguments =>
    if expecting = none ∧ Token.ofArgument argument = .separator then o.readFiles arguments
    else
      match o.read v expecting argument with
      | .error stop => .error stop
      | .ok (o, expecting) => o.readAll v expecting arguments

def needed {α : Type} : Option α → Except Stop α
  | some v => .ok v
  | none => .error .usage

def Options.command (o : Options) (secret : Option String) : Verb → Except Stop Command
  | .parse => return .parse (← needed o.file) o.flat
  | .eval => return .eval (← needed o.file) (← needed o.environment) o.conditions
  | .sign => return .sign (← needed o.file) (← needed (o.secret.or secret))
  | .verify =>
    return .verify (← needed o.file) (← needed (o.secret.or secret)) (← needed o.signature)

def stopOf (argument : String) : Stop :=
  match Token.ofArgument argument with
  | .long "version" none => .version
  | .short 'V' _ => .version
  | .long "help" none => .help
  | .short 'h' _ => .help
  | _ => if argument = "help" then .help else .usage

end CommandLine

open CommandLine in
/-- The command that these arguments stand for. A secret that is not among them may come from elsewhere. -/
def Command.ofArguments (secret : Option String) : List String → Except Stop Command
  | [] => .error .usage
  | argument :: arguments =>
    match verb? argument with
    | none => .error (stopOf argument)
    | some v =>
      match Options.empty.readAll v none arguments with
      | .error stop => .error stop
      | .ok o => o.command secret v

end FlagSheet
