import FlagSheet.Config.Project
import FlagSheet.Secret

namespace FlagSheet

structure Settings where
  projects : List Project
  secret : Option Secret
  defaultEnvironment : Option String
  logDocuments : Bool

structure Config where
  projects : List Project
  secret : Option Secret
  defaultEnvironment : Option String
  logDocuments : Bool

namespace Settings

def empty : Settings := ⟨[], none, none, false⟩

instance : EmptyCollection Settings := ⟨empty⟩

/-- The first fault among projects that stand behind others with the keys `seen`. -/
def fault? (seen : List String) : List Project → Option ConfigError
  | [] => none
  | p :: ps =>
    match p.fault? with
    | some e => some e
    | none => if p.key ∈ seen then some (.duplicateProject p.key) else fault? (p.key :: seen) ps

/-- Checks settings. A blank secret and a blank environment are the same as none. -/
def build (s : Settings) : Except ConfigError Config :=
  if s.projects.isEmpty then .error .noProjects
  else
    match fault? [] s.projects with
    | some e => .error e
    | none =>
      .ok
        { projects := s.projects
          secret := s.secret.filter (!·.isBlank)
          defaultEnvironment := s.defaultEnvironment.bind Text.content?
          logDocuments := s.logDocuments }

end Settings

namespace Config

def project? (c : Config) (key : String) : Option Project :=
  c.projects.find? (·.key = Project.spelling key)

def describeOptional : Option String → String
  | some text => "Some(" ++ text ++ ")"
  | none => "None"

def describe (c : Config) : String :=
  "FlagsConfig \x7b paths: [" ++ ", ".intercalate (c.projects.map Project.describe) ++
    "], webhook_secret: " ++ describeOptional (c.secret.map Secret.describe) ++
    ", default_environment: " ++ describeOptional (c.defaultEnvironment.map Text.quoted) ++
    ", log_documents: " ++ (if c.logDocuments then "true" else "false") ++ " \x7d"

end Config

end FlagSheet
