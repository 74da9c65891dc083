import FlagSheet.Proofs.Json.Record
import FlagSheet.Webhook.Event

namespace FlagSheet

open Json Json.Written

namespace IssueEvent

/-- The members of an object tell of an issue: its number once, in digits alone, and its text at most once. -/
structure TellsIssue (members : List (Member Value)) (number : UInt64) (body : Option String) : Prop where
  number : ∃ n : Numeral, named "number" members = [.number n] ∧ n.natural? = some number.toNat
  body : named "body" members = [] ∧ body = none ∨ named "body" members = [.null] ∧ body = none ∨
    ∃ t : Text, named "body" members = [.string t] ∧ body = some t.string

/-- The members of an object tell an event: the issue and the name of the repository once each, the action at most
once. -/
structure Tells (members : List (Member Value)) (e : IssueEvent) : Prop where
  action : named "action" members = [] ∧ e.action = "" ∨
    ∃ t : Text, named "action" members = [.string t] ∧ e.action = t.string
  issue : ∃ (gap : Gap) (issue : List (Member Value)), named "issue" members = [.object gap issue] ∧
    TellsIssue issue e.issue e.body
  repository : ∃ (gap : Gap) (repository : List (Member Value)) (t : Text),
    named "repository" members = [.object gap repository] ∧ named "full_name" repository = [.string t] ∧
      e.repository = t.string

def issueStep (s : IssueFields) (m : Member Value) : Option IssueFields :=
  (fieldStep "number" Value.natural? s.number m).bind fun number =>
    (fieldStep "body" Value.optionalText? s.body m).map fun body => ⟨number, body⟩

theorem readsMember_issue (m : Member Value) : ReadsMember issueMember issueStep m := by
  intro s rest h
  rw [issueMember, issueStep]
  split
  · next hname =>
      have hbody : m.name.string ≠ "body" := by rw [hname]; decide
      rw [fieldStep_of_ne hbody]
      refine (toOption_map_readField hname (reads_natural m.value) (IssueFields.mk · s.body) s.number h).trans ?_
      cases fieldStep "number" Value.natural? s.number m <;> rfl
  · next hnumber =>
      rw [fieldStep_of_ne hnumber, Option.bind_some]
      split
      · next hname =>
          exact toOption_map_readField hname (reads_optionalText m.value) (IssueFields.mk s.number) s.body h
      · next hbody =>
          rw [fieldStep_of_ne hbody, skipMember_bytesBehind s m h]
          rfl

def issue? : Value → Option Issue
  | .object _ members =>
    (once Value.natural? (named "number" members)).bind fun number =>
      (once Value.optionalText? (named "body" members)).bind fun body =>
        number.map fun number => (number, body.getD none)
  | _ => none

theorem toOption_bind {α β : Type} (r : Except Fault α) (f : α → Except Fault β) :
    (r >>= f).toOption = r.toOption.bind fun a => (f a).toOption := by
  cases r <;> rfl

theorem foldlM_issueStep (members : List (Member Value)) :
    members.foldlM issueStep ⟨none, none⟩ =
      (once Value.natural? (named "number" members)).bind fun number =>
        (once Value.optionalText? (named "body" members)).map (IssueFields.mk number) := by
  rw [← foldlM_fieldStep, ← foldlM_fieldStep]
  exact foldlM_side_by_side (fun _ _ _ => rfl) members none none

theorem reads_issue {v : Value} (hv : v.IsObject) : Reads readIssue v (issue? v) := by
  cases v with
  | object gap members =>
      intro front rest _
      have hread := toOption_readObject (fun m (_ : m ∈ members) => readsMember_issue m) ⟨none, none⟩ gap rest
      rw [readIssue, readRecord_object, issueFromObject, toOption_bind, hread, foldlM_issueStep, issue?]
      cases once Value.natural? (named "number" members) with
      | none => rfl
      | some number =>
          cases once Value.optionalText? (named "body" members) with
          | none => rfl
          | some body => cases number <;> rfl
  | null | bool | number | string | array => cases hv

theorem issue?_eq_some_iff {v : Value} {number : UInt64} {body : Option String} :
    issue? v = some (number, body) ↔ ∃ gap members, v = .object gap members ∧ TellsIssue members number body := by
  cases v with
  | object gap members =>
      simp only [issue?, Option.bind_eq_some_iff, Option.map_eq_some_iff]
      constructor
      · rintro ⟨_, hnumber, o, hbody, k, rfl, hparts⟩
        obtain ⟨rfl, hget⟩ := Prod.mk.inj hparts
        obtain ⟨v, hnumber, hv⟩ := once_eq_some_some_iff.1 hnumber
        obtain ⟨n, rfl, hn⟩ := Value.natural?_eq_some_iff.1 hv
        refine ⟨gap, members, rfl, ⟨n, hnumber, hn⟩, (once_getD_iff.1 ⟨o, hbody, hget⟩).imp_right ?_⟩
        rintro ⟨v, hvalues, hv⟩
        rcases Value.optionalText?_eq_some_iff.1 hv with ⟨rfl, rfl⟩ | ⟨t, rfl, rfl⟩
        · exact .inl ⟨hvalues, rfl⟩
        · exact .inr ⟨t, hvalues, rfl⟩
      · rintro ⟨_, _, ⟨⟩, ⟨n, hnumber, hn⟩, hbody⟩
        have honce : named "body" members = [] ∧ body = none ∨
            ∃ v, named "body" members = [v] ∧ v.optionalText? = some body := by
          refine hbody.imp_right ?_
          rintro (⟨hvalues, rfl⟩ | ⟨t, hvalues, rfl⟩)
          · exact ⟨_, hvalues, rfl⟩
          · exact ⟨_, hvalues, rfl⟩
        obtain ⟨o, hbody, hget⟩ := once_getD_iff.2 honce
        have hnumber : once Value.natural? (named "number" members) = some (some number) :=
          once_eq_some_some_iff.2 ⟨_, hnumber, Value.natural?_eq_some_iff.2 ⟨n, rfl, hn⟩⟩
        exact ⟨_, hnumber, o, hbody, _, rfl, by rw [hget]⟩
  | null | bool | number | string | array => simp [issue?]

theorem readsMember_repository (m : Member Value) :
    ReadsMember repositoryMember (fieldStep "full_name" Value.text?) m := by
  intro s rest h
  rw [repositoryMember]
  split
  · next hname =>
      refine (toOption_map_readField hname (reads_text m.value) id s h).trans ?_
      rw [Option.map_id_fun, id]
  · next hname =>
      rw [fieldStep_of_ne hname, skipMember_bytesBehind s m h]
      rfl

def repository? : Value → Option String
  | .object _ members => (once Value.text? (named "full_name" members)).bind id
  | _ => none

theorem reads_repository {v : Value} (hv : v.IsObject) : Reads readRepository v (repository? v) := by
  cases v with
  | object gap members =>
      intro front rest _
      have hread := toOption_readObject (fun m (_ : m ∈ members) => readsMember_repository m) none gap rest
      rw [readRepository, readRecord_object, repositoryFromObject, toOption_bind, hread, foldlM_fieldStep, repository?]
      cases once Value.text? (named "full_name" members) with
      | none => rfl
      | some name => cases name <;> rfl
  | null | bool | number | string | array => cases hv

theorem repository?_eq_some_iff {v : Value} {name : String} :
    repository? v = some name ↔
      ∃ gap members t, v = .object gap members ∧ named "full_name" members = [.string t] ∧ name = t.string := by
  cases v with
  | object gap members =>
      have hpart : repository? (.object gap members) = some name ↔
          once Value.text? (named "full_name" members) = some (some name) := by
        rw [repository?]
        cases once Value.text? (named "full_name" members) <;> simp
      rw [hpart, once_eq_some_some_iff]
      constructor
      · rintro ⟨v, hname, hv⟩
        obtain ⟨t, rfl, rfl⟩ := Value.text?_eq_some_iff.1 hv
        exact ⟨gap, members, t, rfl, hname, rfl⟩
      · rintro ⟨_, _, t, ⟨⟩, hname, rfl⟩
        exact ⟨_, hname, rfl⟩
  | null | bool | number | string | array => simp [repository?]

def eventStep (s : Fields) (m : Member Value) : Option Fields :=
  (fieldStep "action" Value.text? s.action m).bind fun action =>
    (fieldStep "issue" issue? s.issue m).bind fun issue =>
      (fieldStep "repository" repository? s.repository m).map fun repository => ⟨action, issue, repository⟩

theorem readsMember_event {m : Member Value} (hissue : m.name.string = "issue" → m.value.IsObject)
    (hrepository : m.name.string = "repository" → m.value.IsObject) : ReadsMember member eventStep m := by
  intro s rest h
  rw [member, eventStep]
  split
  · next hname =>
      have hissue : m.name.string ≠ "issue" := by rw [hname]; decide
      have hrepository : m.name.string ≠ "repository" := by rw [hname]; decide
      rw [fieldStep_of_ne hissue, fieldStep_of_ne hrepository]
      refine (toOption_map_readField hname (reads_text m.value) (Fields.mk · s.issue s.repository) s.action h).trans ?_
      cases fieldStep "action" Value.text? s.action m <;> rfl
  · next haction =>
      rw [fieldStep_of_ne haction, Option.bind_some]
      split
      · next hname =>
          have hrepository : m.name.string ≠ "repository" := by rw [hname]; decide
          rw [fieldStep_of_ne hrepository]
          refine (toOption_map_readField hname (reads_issue (hissue hname)) (Fields.mk s.action · s.repository)
            s.issue h).trans ?_
          cases fieldStep "issue" issue? s.issue m <;> rfl
      · next hissue =>
          rw [fieldStep_of_ne hissue, Option.bind_some]
          split
          · next hname =>
              exact toOption_map_readField hname (reads_repository (hrepository hname)) (Fields.mk s.action s.issue)
                s.repository h
          · next hrepository =>
              rw [fieldStep_of_ne hrepository, skipMember_bytesBehind s m h]
              rfl

def placeStep (p : Option Issue × Option String) (m : Member Value) : Option (Option Issue × Option String) :=
  (fieldStep "issue" issue? p.1 m).bind fun issue =>
    (fieldStep "repository" repository? p.2 m).map fun repository => (issue, repository)

theorem foldlM_placeStep (members : List (Member Value)) :
    members.foldlM placeStep (none, none) =
      (once issue? (named "issue" members)).bind fun issue =>
        (once repository? (named "repository" members)).map (Prod.mk issue) := by
  rw [← foldlM_fieldStep, ← foldlM_fieldStep]
  exact foldlM_side_by_side (fun _ _ _ => rfl) members none none

theorem foldlM_eventStep (members : List (Member Value)) :
    members.foldlM eventStep ⟨none, none, none⟩ =
      (once Value.text? (named "action" members)).bind fun action =>
        (once issue? (named "issue" members)).bind fun issue =>
          (once repository? (named "repository" members)).map (Fields.mk action issue) := by
  have hstep (action : Option String) (p : Option Issue × Option String) (m : Member Value) :
      eventStep ⟨action, p.1, p.2⟩ m = (fieldStep "action" Value.text? action m).bind fun action =>
        (placeStep p m).map fun p => ⟨action, p.1, p.2⟩ := by
    rw [eventStep, placeStep]
    cases fieldStep "issue" issue? p.1 m with
    | none => rfl
    | some issue => cases fieldStep "repository" repository? p.2 m <;> rfl
  rw [← foldlM_fieldStep]
  refine (foldlM_side_by_side hstep members none (none, none)).trans ?_
  rw [foldlM_placeStep]
  cases once issue? (named "issue" members) with
  | none => rfl
  | some issue => cases once repository? (named "repository" members) <;> rfl

def event? (members : List (Member Value)) : Option IssueEvent :=
  (once Value.text? (named "action" members)).bind fun action =>
    (once issue? (named "issue" members)).bind fun issue =>
      (once repository? (named "repository" members)).bind fun repository =>
        issue.bind fun issue => repository.map (ofParts action issue)

theorem toOption_parse (front gap back : Gap) {members : List (Member Value)}
    (hissue : ∀ v ∈ named "issue" members, v.IsObject) (hrepository : ∀ v ∈ named "repository" members, v.IsObject) :
    (parse (front.bytes ++ ((Value.object gap members).bytes ++ back.bytes))).toOption = event? members := by
  have hmembers : ∀ m ∈ members, ReadsMember member eventStep m := fun m hm =>
    readsMember_event (fun hname => hissue _ (mem_named hm hname)) (fun hname => hrepository _ (mem_named hm hname))
  have hread := toOption_readObject hmembers ⟨none, none, none⟩ gap back.bytes
  apply toOption_finish
  rw [readRecord_object, fromObject, toOption_bind, hread, foldlM_eventStep, event?]
  cases once Value.text? (named "action" members) with
  | none => rfl
  | some action =>
      cases once issue? (named "issue" members) with
      | none => rfl
      | some issue =>
          cases once repository? (named "repository" members) with
          | none => rfl
          | some repository =>
              cases issue with
              | none => rfl
              | some issue => cases repository <;> rfl

theorem event?_eq_some_iff {members : List (Member Value)} {e : IssueEvent} :
    event? members = some e ↔ Tells members e := by
  simp only [event?, Option.bind_eq_some_iff, Option.map_eq_some_iff]
  constructor
  · rintro ⟨action, haction, _, hissue, _, hrepository, ⟨number, body⟩, rfl, name, rfl, rfl⟩
    obtain ⟨v, hissue, hv⟩ := once_eq_some_some_iff.1 hissue
    obtain ⟨gap, issue, rfl, htells⟩ := issue?_eq_some_iff.1 hv
    obtain ⟨w, hrepository, hw⟩ := once_eq_some_some_iff.1 hrepository
    obtain ⟨gap', repository, t, rfl, hname, ht⟩ := repository?_eq_some_iff.1 hw
    refine ⟨(once_getD_iff.1 ⟨action, haction, rfl⟩).imp_right ?_, ⟨gap, issue, hissue, htells⟩,
      gap', repository, t, hrepository, hname, ht⟩
    rintro ⟨v, hvalues, hv⟩
    obtain ⟨t, rfl, ht⟩ := Value.text?_eq_some_iff.1 hv
    exact ⟨t, hvalues, ht⟩
  · rintro ⟨haction, ⟨gap, issue, hissue, htells⟩, gap', repository, t, hrepository, hname, ht⟩
    have honce : named "action" members = [] ∧ e.action = "" ∨
        ∃ v, named "action" members = [v] ∧ v.text? = some e.action := by
      refine haction.imp_right ?_
      rintro ⟨t, hvalues, ht⟩
      exact ⟨_, hvalues, Value.text?_eq_some_iff.2 ⟨t, rfl, ht⟩⟩
    obtain ⟨action, haction, hget⟩ := once_getD_iff.2 honce
    have hissue : once issue? (named "issue" members) = some (some (e.issue, e.body)) :=
      once_eq_some_some_iff.2 ⟨_, hissue, issue?_eq_some_iff.2 ⟨gap, issue, rfl, htells⟩⟩
    have hrepository : once repository? (named "repository" members) = some (some e.repository) :=
      once_eq_some_some_iff.2 ⟨_, hrepository, repository?_eq_some_iff.2 ⟨gap', repository, t, rfl, hname, ht⟩⟩
    exact ⟨action, haction, _, hissue, _, hrepository, _, rfl, _, rfl, by rw [ofParts, hget]⟩

/-- An object is read as an event just if its members tell one, and as that one. What other members there are and
how anything is written makes no difference. -/
theorem parse_eq_ok_iff_tells (front gap back : Gap) {members : List (Member Value)}
    (hissue : ∀ v ∈ named "issue" members, v.IsObject) (hrepository : ∀ v ∈ named "repository" members, v.IsObject)
    (e : IssueEvent) :
    parse (front.bytes ++ ((Value.object gap members).bytes ++ back.bytes)) = .ok e ↔ Tells members e := by
  rw [← event?_eq_some_iff, ← toOption_parse front gap back hissue hrepository]
  cases parse (front.bytes ++ ((Value.object gap members).bytes ++ back.bytes)) <;> simp [Except.toOption]

def plainMember (name : Text) (v : Value) : Member Value := ⟨[], name, [], [], v, []⟩

def largest : Numeral :=
  ⟨false, ⟨1, [8, 4, 4, 6, 7, 4, 4, 0, 7, 3, 7, 0, 9, 5, 5, 1, 6, 1, 5]⟩, by decide, none, none⟩

def lateIssue : List (Member Value) :=
  [plainMember (Text.of "sender") (.object [] [plainMember (Text.of "issue") (.array [.blank] [])]),
    plainMember (Text.of "repository") (.object [] [plainMember (Text.of "full_name") (.string (Text.of "acme/web"))]),
    plainMember (Glyph.ascii 0x69 :: Text.of "ssue") (.object [] [plainMember (Text.of "body") .null,
      plainMember (Text.of "number") (.number largest)])]

theorem parse_lateIssue :
    (∀ v ∈ named "issue" lateIssue, v.IsObject) ∧ (∀ v ∈ named "repository" lateIssue, v.IsObject) ∧
      parse (Gap.bytes [.blank] ++ ((Value.object [] lateIssue).bytes ++ Gap.bytes [.lineFeed])) =
        .ok ⟨"", "acme/web", 18446744073709551615, none⟩ := by
  have hname : Text.string (Glyph.ascii 0x69 :: Text.of "ssue") = "issue" := by decide
  have hissue : named "issue" lateIssue = [.object [] [plainMember (Text.of "body") .null,
      plainMember (Text.of "number") (.number largest)]] := by
    simp [named, lateIssue, plainMember, Text.string_of, hname]
  have hrepository : named "repository" lateIssue =
      [.object [] [plainMember (Text.of "full_name") (.string (Text.of "acme/web"))]] := by
    simp [named, lateIssue, plainMember, Text.string_of, hname]
  have hobjects : (∀ v ∈ named "issue" lateIssue, v.IsObject) ∧ ∀ v ∈ named "repository" lateIssue, v.IsObject := by
    simp [hissue, hrepository, Value.IsObject]
  refine ⟨hobjects.1, hobjects.2, (parse_eq_ok_iff_tells _ _ _ hobjects.1 hobjects.2 _).2 ⟨.inl ⟨?_, rfl⟩, ?_, ?_⟩⟩
  · simp [named, lateIssue, plainMember, Text.string_of, hname]
  · refine ⟨_, _, hissue, ⟨largest, ?_, by decide⟩, .inr (.inl ⟨?_, rfl⟩)⟩
    all_goals simp [named, plainMember, Text.string_of]
  · refine ⟨_, _, Text.of "acme/web", hrepository, ?_, (Text.string_of _).symm⟩
    simp [named, plainMember, Text.string_of]

end IssueEvent

end FlagSheet
