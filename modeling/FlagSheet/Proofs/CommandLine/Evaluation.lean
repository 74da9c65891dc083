import FlagSheet.Markup.Reader
import FlagSheet.Proofs.Bytes.Order
import FlagSheet.Proofs.CommandLine.Condition
import FlagSheet.Proofs.Document.Titled
import Mathlib

namespace FlagSheet

namespace CommandLine

/-- A switch and its value in one argument. Whatever the value is, it can be given so. -/
def assignment (name value : String) : String := "--" ++ name ++ "=" ++ value

def evalLine (file environment : String) (conditions : List String) : List String :=
  "eval" :: assignment "environment" environment :: conditions.map (assignment "condition") ++ ["--", file]

variable {o : Options} {v : Verb} {s : Switch} {name value : String} {arguments : List String}

theorem ofArgument_assignment (hname : '=' ∉ name.toList) (value : String) :
    Token.ofArgument (assignment name value) = .long name (some value) := by
  have hnot : ∀ c ∈ name.toList, decide (c ≠ '=') = true := fun c hc => decide_eq_true fun heq => hname (heq ▸ hc)
  have hchars : (assignment name value).toList = '-' :: '-' :: (name.toList ++ '=' :: value.toList) := by
    simp [assignment]
  have hdrop : (name.toList ++ '=' :: value.toList).dropWhile (· ≠ '=') = '=' :: value.toList := by
    rw [List.dropWhile_append_of_pos hnot]
    rfl
  have htake : (name.toList ++ '=' :: value.toList).takeWhile (· ≠ '=') = name.toList := by
    rw [List.takeWhile_append_of_pos hnot]
    exact List.append_nil _
  rw [Token.ofArgument, hchars, Token.ofChars, hdrop, htake]
  · simp only [String.ofList_toList]
  · simp

theorem readAll_assignment (hname : '=' ∉ name.toList) (hs : v.long? name = some s) :
    o.readAll v none (assignment name value :: arguments) =
      match o.give s value with
      | .error stop => .error stop
      | .ok o => o.readAll v none arguments := by
  have htoken := ofArgument_assignment hname value
  have hread : o.read v none (assignment name value) = (o.give s value).map (·, none) := by
    simp only [Options.read, htoken, hs]
    rfl
  rw [Options.readAll, hread, htoken, if_neg (by simp)]
  cases o.give s value <;> rfl

theorem readAll_conditions (texts : List String) :
    o.readAll .eval none (texts.map (assignment "condition") ++ arguments) =
      if ∀ text ∈ texts, (condition? text).isSome then
        ({ o with conditions := o.conditions ++ texts.filterMap condition? } : Options).readAll .eval none arguments
      else .error .usage := by
  induction texts generalizing o with
  | nil => simp
  | cons text texts ih =>
      rw [List.map_cons, List.cons_append, readAll_assignment (s := .condition) (by decide) rfl, Options.give]
      cases htext : condition? text with
      | none => simp [htext]
      | some p =>
          dsimp only
          rw [ih]
          simp [htext]

theorem readAll_file {file : String} (hfile : file ≠ "") (ho : o.file = none) :
    o.readAll v none ["--", file] = .ok { o with file := some file } := by
  have hadd : o.addFile file = .ok { o with file := some file } := by
    rw [Options.addFile, if_neg hfile, ho]
    rfl
  rw [Options.readAll, if_pos ⟨rfl, rfl⟩, Options.readFiles, hadd]
  rfl

theorem ofArguments_evalLine {file : String} (hfile : file ≠ "") (secret : Option String) (environment : String)
    (texts : List String) :
    Command.ofArguments secret (evalLine file environment texts) =
      if ∀ text ∈ texts, (condition? text).isSome then .ok (.eval file environment (texts.filterMap condition?))
      else .error .usage := by
  have hverb : verb? "eval" = some .eval := rfl
  have hread : Options.empty.readAll .eval none
      (assignment "environment" environment :: (texts.map (assignment "condition") ++ ["--", file])) =
        if ∀ text ∈ texts, (condition? text).isSome then
          .ok ⟨some file, false, some environment, texts.filterMap condition?, none, none⟩
        else .error .usage := by
    rw [readAll_assignment (s := .environment) (by decide) rfl]
    have hgive : Options.empty.give .environment environment = .ok { Options.empty with environment := some environment } :=
      rfl
    rw [hgive]
    dsimp only
    rw [readAll_conditions]
    split
    · rw [readAll_file hfile rfl]
      rfl
    · rfl
  simp only [Command.ofArguments, evalLine, List.cons_append, hverb, hread]
  by_cases h : ∀ text ∈ texts, (condition? text).isSome
  · rw [if_pos h, if_pos h]
    rfl
  · rw [if_neg h, if_neg h]

end CommandLine

namespace FeatureSet

theorem pairwise_evaluate (fs : FeatureSet) (environment : String) (c : Context) (r : Registry) :
    (fs.evaluate environment c r).enabled.toList.Pairwise fun a b => Bytes.ofText a < Bytes.ofText b := by
  rw [SlugSet.toList, SlugMap.keys, List.pairwise_map]
  exact (fs.evaluate environment c r).enabled.sorted.imp Bytes.ofText_lt

theorem lineFeed_not_mem_evaluate {nodes : List Node} {environment : String} {c : Context} {r : Registry} {slug : String}
    (h : slug ∈ ((ofNodes nodes).evaluate environment c r).enabled.toList) : '\n' ∉ slug.toList := by
  obtain ⟨f, hf, -⟩ := (mem_evaluate_iff_get? (filed_ofNodes nodes)).1 h
  have hslug : slug = slugify f.name :=
    (filed_ofNodes nodes slug f hf).slug.symm.trans (all_ofNodes Feature.kept_named nodes slug f hf).slug
  intro hmem
  rw [hslug] at hmem
  rcases (Slug.canonical_slugify f.name).chars _ hmem with heq | ⟨halpha, -⟩
  · cases heq
  · cases Text.isBlank_of_isAlphanumeric halpha

theorem ofDocument?_of_not_blank [Markdown] {text : String} (h : Text.allBlank text = false) :
    ofDocument? (some text) = some (ofText text) := by
  rw [ofDocument?, h, if_neg Bool.false_ne_true]

theorem mem_evaluate_outcomes {nodes : List Node} {environment : String} {texts : List String} {c : Context}
    {slug : String} :
    slug ∈ ((ofNodes nodes).evaluate environment c
        (Command.outcomes (texts.filterMap CommandLine.condition?))).enabled.toList ↔
      ∃ f ∈ SlugMap.values (ofNodes nodes), f.slug = slug ∧ f.On (slugify environment) ∧
        ∀ condition, f.GatedBy (slugify environment) condition → condition.armed = true →
          CommandLine.Grants texts condition.slug := by
  rw [mem_evaluate_iff_get? (filed_ofNodes nodes)]
  constructor
  · rintro ⟨f, hf, hon, hmet⟩
    refine ⟨f, SlugMap.mem_values.2 ⟨slug, hf⟩, (filed_ofNodes nodes slug f hf).slug, hon, ?_⟩
    exact fun condition hgate harmed => CommandLine.meets_outcomes_iff.1 (hmet condition hgate harmed)
  · rintro ⟨f, hf, rfl, hon, hgranted⟩
    obtain ⟨k, hk⟩ := SlugMap.mem_values.1 hf
    rw [(filed_ofNodes nodes k f hk).slug]
    refine ⟨f, hk, hon, ?_⟩
    exact fun condition hgate harmed => CommandLine.meets_outcomes_iff.2 (hgranted condition hgate harmed)

end FeatureSet

open CommandLine

/-- The condition texts are accepted just when each of them tells the outcome of a condition. Then the program prints the
slugs of the document's features that are on in the environment and whose armed conditions there are granted, each on
a line of its own, in the order of their bytes. -/
theorem Command.eval_prints [Markdown] {text file : String} (htext : Text.allBlank text = false) (hfile : file ≠ "")
    (secret : Option String) (environment : String) (texts : List String) :
    ((∃ command, ofArguments secret (evalLine file environment texts) = .ok command) ↔
      ∀ t ∈ texts, ∃ name outcome, Assigns t name outcome) ∧
    ∀ command, ofArguments secret (evalLine file environment texts) = .ok command →
      command.file = file ∧ ∃ (fs : FeatureSet) (slugs : List String), FeatureSet.ofDocument? (some text) = some fs ∧
        command.run (.ok (Bytes.ofText text)) = .success (String.join (slugs.map (· ++ "\n"))) ∧
        slugs.Pairwise (fun a b => Bytes.ofText a < Bytes.ofText b) ∧ (∀ slug ∈ slugs, '\n' ∉ slug.toList) ∧
        ∀ slug, slug ∈ slugs ↔ ∃ f ∈ SlugMap.values fs, f.slug = slug ∧ f.On (slugify environment) ∧
          ∀ condition, f.GatedBy (slugify environment) condition → condition.armed = true →
            Grants texts condition.slug := by
  have hline := ofArguments_evalLine hfile secret environment texts
  have haccepted : (∀ t ∈ texts, (condition? t).isSome) ↔ ∀ t ∈ texts, ∃ name outcome, Assigns t name outcome := by
    simp only [Option.isSome_iff_exists, Prod.exists, condition?_eq_some_iff]
  constructor
  · rw [← haccepted, hline]
    split
    · next h => exact ⟨fun _ => h, fun _ => ⟨_, rfl⟩⟩
    · next h => exact ⟨nofun, fun h' => absurd h' h⟩
  · intro command hcommand
    rw [hline] at hcommand
    split at hcommand
    · next h =>
        obtain rfl := Except.ok.inj hcommand
        let fs := FeatureSet.ofText text
        let enabled := (fs.evaluate environment ∅ (outcomes (texts.filterMap condition?))).enabled
        have hdocument : FeatureSet.ofDocument? (some text) = some fs := FeatureSet.ofDocument?_of_not_blank htext
        have hrun : (eval file environment (texts.filterMap condition?)).run (.ok (Bytes.ofText text)) =
            .success (String.join (enabled.toList.map (· ++ "\n"))) := by
          simp only [run, withFeatures, Bytes.asText, Bytes.text?_ofText, hdocument, enabled]
        exact ⟨rfl, fs, enabled.toList, hdocument, hrun, FeatureSet.pairwise_evaluate fs environment ∅ _,
          fun _ => FeatureSet.lineFeed_not_mem_evaluate, fun _ => FeatureSet.mem_evaluate_outcomes⟩
    · cases hcommand

theorem Command.eval_prints_last :
    let text := "## Login\n- [x] Enabled\n#### Conditions\n- [x] Beta Users\n"
    let texts := ["Beta Users=false", " beta_users = true "]
    ∃ (command : Command) (slugs : List String),
      ofArguments none (evalLine "-flags.md" "production" texts) = .ok command ∧
      command.run (.ok (Bytes.ofText text)) = .success (String.join (slugs.map (· ++ "\n"))) ∧ "login" ∈ slugs := by
  intro text texts
  have hdenied : Assigns "Beta Users=false" "Beta Users" false :=
    ⟨"Beta Users".toList, "false".toList, rfl, by decide, ⟨'B', by decide, by decide +kernel⟩, by decide +kernel,
      by decide +kernel⟩
  have hgranted : Assigns " beta_users = true " "beta_users" true :=
    ⟨" beta_users ".toList, " true ".toList, rfl, by decide, ⟨'b', by decide, by decide +kernel⟩, by decide +kernel,
      by decide +kernel⟩
  have hgrants : Grants texts "beta-users" :=
    ⟨["Beta Users=false"], _, [], "beta_users", rfl, hgranted, by decide +kernel, nofun⟩
  have hblank : Text.allBlank text = false := by decide +kernel
  have hfile : "-flags.md" ≠ "" := by decide
  obtain ⟨haccepted, hprints⟩ := eval_prints hblank hfile none "production" texts
  obtain ⟨command, hcommand⟩ := haccepted.2 (List.forall_mem_cons.2 ⟨⟨_, _, hdenied⟩,
    List.forall_mem_singleton.2 ⟨_, _, hgranted⟩⟩)
  obtain ⟨-, fs, slugs, hfs, hrun, -, -, hmem⟩ := hprints command hcommand
  refine ⟨command, slugs, hcommand, hrun, (hmem "login").2 ?_⟩
  have hnodes : Node.ofText text = [.heading 2 "## Login", .list [.item "- [x] Enabled"],
      .heading 4 "#### Conditions", .list [.item "- [x] Beta Users"]] := by cbv
  let login := (Feature.named "Login" true).withCondition (.named "Beta Users" true)
  have hlogin : login ∈ SlugMap.values fs := by
    rw [FeatureSet.ofDocument?_of_not_blank hblank, FeatureSet.ofText, hnodes] at hfs
    rw [← Option.some.inj hfs]
    decide +kernel
  refine ⟨login, hlogin, by decide +kernel, .inl ⟨rfl, rfl⟩, ?_⟩
  rintro condition (hown | ⟨hsome, -⟩) -
  · obtain rfl : condition = .named "Beta Users" true := List.mem_singleton.1 hown
    exact hgrants
  · cases hsome

end FlagSheet
