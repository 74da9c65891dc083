import FlagSheet.CommandLine
import FlagSheet.Evaluation
import FlagSheet.Feature.Row
import FlagSheet.Json.Text
import FlagSheet.ReadFault
import FlagSheet.Source
import FlagSheet.Webhook

namespace FlagSheet

structure Exit where
  code : UInt8
  output : String
  report : String
deriving DecidableEq, Repr

namespace Exit

def success (output : String) : Exit := ⟨0, output, ""⟩

def failure (message : String) (cause : Option String) : Exit :=
  let reason := match cause with
    | some cause => "\n\nCaused by:\n    " ++ cause
    | none => ""
  ⟨1, "", "Error: " ++ message ++ reason ++ "\n"⟩

end Exit

def Stop.usageText : String :=
  "usage: flagdown parse FILE [--flat]\n" ++
  "       flagdown eval FILE -e ENVIRONMENT [-c NAME=true|false]...\n" ++
  "       flagdown sign FILE --secret SECRET\n" ++
  "       flagdown verify FILE --secret SECRET --signature SIGNATURE\n"

def Stop.exit : Stop → Exit
  | usage => ⟨2, "", usageText⟩
  | help => .success usageText
  | version => .success "flagdown 0.1.0\n"

namespace Command

def file : Command → String
  | parse file _ => file
  | eval file _ _ => file
  | sign file _ => file
  | verify file _ _ => file

def unreadable (file : String) (fault : ReadFault) : Exit :=
  .failure ("failed to read " ++ file) (some fault.message)

def withFeatures [Markdown] (file : String) (content : Except ReadFault Bytes) (next : FeatureSet → Exit) : Exit :=
  match Bytes.asText content with
  | .error fault => unreadable file fault
  | .ok text =>
    match FeatureSet.ofDocument? (some text) with
    | none => .failure ("no flag document in " ++ file) (some LoadError.noDocument.message)
    | some features => next features

def withBytes (file : String) (content : Except ReadFault Bytes) (next : Bytes → Exit) : Exit :=
  match content with
  | .error fault => unreadable file fault
  | .ok bytes => next bytes

def outcomes (conditions : List (String × Bool)) : Registry :=
  Registry.ofPredicates (conditions.map fun (name, outcome) => ⟨name, fun _ => outcome⟩)

def flatJson (fs : FeatureSet) : Json := .array (fs.flatten.map FeatureRow.toJson)

def run [Markdown] (content : Except ReadFault Bytes) : Command → Exit
  | parse file flat =>
    withFeatures file content fun fs =>
      .success ((if flat then flatJson fs else fs.toJson).pretty ++ "\n")
  | eval file environment conditions =>
    withFeatures file content fun fs =>
      .success (String.join
        ((fs.evaluate environment ∅ (outcomes conditions)).enabled.toList.map (· ++ "\n")))
  | sign file secret =>
    withBytes file content fun body => .success (Signature.compute secret body ++ "\n")
  | verify file secret signature =>
    withBytes file content fun body =>
      match Webhook.receive secret body (some signature) with
      | .error refusal => .failure ("webhook rejected: " ++ refusal.message) none
      | .ok event => .success (event.toJson.pretty ++ "\n")

end Command

end FlagSheet
