import FlagSheet.Json.Record
import FlagSheet.Proofs.Json.Skip
import Mathlib.Data.List.DropRight

namespace FlagSheet.Json.Written

namespace Value

def text? : Value → Option String
  | string t => some t.string
  | _ => none

def optionalText? : Value → Option (Option String)
  | null => some none
  | string t => some (some t.string)
  | _ => none

def natural? : Value → Option UInt64
  | number n => n.natural64?
  | _ => none

theorem text?_eq_some_iff {v : Value} {s : String} : v.text? = some s ↔ ∃ t, v = string t ∧ s = t.string := by
  cases v <;> simp [text?, eq_comm]

theorem optionalText?_eq_some_iff {v : Value} {o : Option String} :
    v.optionalText? = some o ↔ v = null ∧ o = none ∨ ∃ t, v = string t ∧ o = some t.string := by
  cases v <;> simp [optionalText?, eq_comm]

theorem natural?_eq_some_iff {v : Value} {k : UInt64} :
    v.natural? = some k ↔ ∃ n, v = number n ∧ n.natural? = some k.toNat := by
  cases v <;> simp [natural?, Numeral.natural64?_eq_some_iff]

end Value

def Reads {α : Type} (read : Bytes → Reading α) (v : Value) (expected : Option α) : Prop :=
  ∀ (gap : Gap) (rest : Bytes), Delimited rest →
    (read (gap.bytes ++ (v.bytes ++ rest))).toOption = expected.map fun a => (a, rest)

theorem toOption_map {α β : Type} (r : Except Fault α) (f : α → β) : (r.map f).toOption = r.toOption.map f := by
  cases r <;> rfl

theorem readText_text (t : Text) (rest : Bytes) : readText ((Value.string t).bytes ++ rest) = .ok (t.string, rest) := by
  rw [Value.bytes, Text.bytes, List.cons_append, List.append_assoc]
  exact readString_text t rest

theorem toOption_readText (v : Value) (rest : Bytes) :
    (readText (v.bytes ++ rest)).toOption = v.text?.map fun a => (a, rest) := by
  obtain ⟨b, bs, hv, hb⟩ := exists_bytes v
  by_cases hquote : b = 0x22
  · subst hquote
    obtain ⟨t, rfl⟩ := hb.quote
    rw [readText_text]
    rfl
  · have hnone : v.text? = none := by
      cases v with
      | string t => exact absurd hb hquote
      | null | bool | number | array | object => rfl
    rw [hnone, hv, List.cons_append, readText, skipSpace_cons hb.isSpaceByte.1]
    split
    · next h => exact absurd (List.cons.inj h).1 hquote
    · rfl

theorem reads_text (v : Value) : Reads readText v v.text? := by
  intro gap rest _
  rw [readText, skipSpace_gap, ← readText, toOption_readText]

theorem reads_optionalText (v : Value) : Reads readOptionalText v v.optionalText? := by
  intro gap rest _
  obtain ⟨b, bs, hv, hb⟩ := exists_bytes v
  rw [readOptionalText, skipSpace_bytes]
  by_cases hnull : b = 0x6e
  · subst hnull
    cases hb.null
    rw [Value.bytes]
    rfl
  · have hoptional : v.optionalText? = v.text?.map some := by
      cases v with
      | null => exact absurd hb hnull
      | bool | number | string | array | object => rfl
    have hread := toOption_readText v rest
    split
    · next h =>
        rw [hv] at h
        exact absurd (List.cons.inj h).1 hnull
    · rw [toOption_map, hread, hoptional, Option.map_map, Option.map_map]
      rfl

theorem reads_natural (v : Value) : Reads readNatural v v.natural? := by
  intro gap rest h
  obtain ⟨b, bs, hv, hb⟩ := exists_bytes v
  rw [readNatural, skipSpace_bytes, hv, List.cons_append]
  dsimp only
  by_cases hnumber : startsNumber b = true
  · obtain ⟨n, rfl⟩ := hb.number hnumber
    have hread := natural?_readNumber n h
    rw [Value.bytes] at hv
    rw [hv, List.cons_append] at hread
    rw [if_pos hnumber, Value.natural?, ← hread]
    generalize readNumber (b :: (bs ++ rest)) = r
    rcases r with e | ⟨n, rest⟩
    · rfl
    · cases n <;> rfl
  · have hnone : v.natural? = none := by
      cases v with
      | number n => exact absurd hb hnumber
      | null | bool | string | array | object => rfl
    rw [if_neg hnumber, hnone]
    rfl

theorem toOption_finish {α : Type} {r : Reading α} {expected : Option α} {gap : Gap}
    (h : r.toOption = expected.map fun a => (a, gap.bytes)) : (finish r).toOption = expected := by
  have hgap : skipSpace gap.bytes = [] := by rw [← List.append_nil gap.bytes, skipSpace_gap]; rfl
  cases r with
  | error e => exact (Option.map_eq_none_iff.1 h.symm).symm
  | ok r =>
      obtain ⟨a, rfl, rfl⟩ := Option.map_eq_some_iff.1 h.symm
      rw [finish, hgap]
      rfl

/-- Reading the member, from behind its name on, takes what has been read so far to what the step gives. -/
def ReadsMember {σ : Type} (member : σ → String → Bytes → Reading σ) (step : σ → Member Value → Option σ)
    (m : Member Value) : Prop :=
  ∀ (s : σ) (rest : Bytes), Delimited rest →
    (member s m.name.string (m.bytesBehind ++ rest)).toOption = (step s m).map fun s => (s, m.after.bytes ++ rest)

theorem afterColon_bytesBehind (m : Member Value) (rest : Bytes) :
    afterColon (m.bytesBehind ++ rest) =
      .ok (m.afterColon.bytes ++ (m.value.bytes ++ (m.after.bytes ++ rest))) := by
  rw [afterColon, Member.bytesBehind, List.append_assoc, skipSpace_gap, List.cons_append, List.append_assoc,
    List.append_assoc]
  rfl

theorem toOption_readField {α : Type} {read : Bytes → Reading α} {m : Member Value} {expected : Option α}
    (h : Reads read m.value expected) (earlier : Option α) {rest : Bytes} (hrest : Delimited rest) :
    (readField earlier read (m.bytesBehind ++ rest)).toOption =
      (if earlier.isSome then none else expected).map fun a => (a, m.after.bytes ++ rest) := by
  rw [readField, afterColon_bytesBehind]
  split
  · rfl
  · exact h m.afterColon _ (hrest.gap m.after)

theorem skipMember_bytesBehind {σ : Type} (s : σ) (m : Member Value) {rest : Bytes} (h : Delimited rest) :
    skipMember s (m.bytesBehind ++ rest) = .ok (s, m.after.bytes ++ rest) := by
  rw [skipMember, afterColon_bytesBehind]
  dsimp only
  rw [skipValue_bytes m.afterColon m.value (h.gap m.after)]
  rfl

section Objects

variable {σ : Type} {member : σ → String → Bytes → Reading σ} {step : σ → Member Value → Option σ}

def readOn (member : σ → String → Bytes → Reading σ) (count : Nat) (s : σ) (bs : Bytes) : Reading σ :=
  match skipSpace bs with
  | [] => .error .truncated
  | 0x7d :: rest => .ok (s, rest)
  | 0x2c :: rest => readNamed member count s rest
  | _ => .error .malformed

theorem skipSpace_member (m : Member Value) (rest : Bytes) :
    skipSpace (m.bytes ++ rest) = 0x22 :: (m.name.content ++ 0x22 :: (m.bytesBehind ++ rest)) := by
  rw [Member.bytes, List.append_assoc, skipSpace_gap, Text.bytes, List.cons_append, List.cons_append,
    skipSpace_cons (by decide), List.append_assoc, List.append_assoc, List.singleton_append]

theorem toOption_readNamed {m : Member Value} (h : ReadsMember member step m) (count : Nat) (s : σ) {rest : Bytes}
    (hrest : Delimited rest) :
    (readNamed member (count + 1) s (m.bytes ++ rest)).toOption =
      (step s m).bind fun s => (readOn member count s rest).toOption := by
  have hread : readNamed member (count + 1) s (m.bytes ++ rest) =
      (member s m.name.string (m.bytesBehind ++ rest)).bind fun r => readOn member count r.1 r.2 := by
    rw [readNamed, skipSpace_member]
    simp only [readString_text]
    cases member s m.name.string (m.bytesBehind ++ rest) <;> rfl
  have hmember := h s rest hrest
  rw [hread]
  cases hr : member s m.name.string (m.bytesBehind ++ rest) with
  | error e =>
      rw [hr] at hmember
      rw [Option.map_eq_none_iff.1 hmember.symm]
      rfl
  | ok r =>
      rw [hr] at hmember
      obtain ⟨s', hs', rfl⟩ := Option.map_eq_some_iff.1 hmember.symm
      rw [hs', Option.bind_some]
      simp only [Except.bind, readOn, skipSpace_gap]

theorem toOption_readNamed_members {members : List (Member Value)} (h : ∀ m ∈ members, ReadsMember member step m)
    (hne : members ≠ []) {count : Nat} (hcount : members.length ≤ count) (s : σ) (rest : Bytes) :
    (readNamed member count s ([0x2c].intercalate (members.map Member.bytes) ++ 0x7d :: rest)).toOption =
      (members.foldlM step s).map fun s => (s, rest) := by
  induction members generalizing count s with
  | nil => exact absurd rfl hne
  | cons m members ih =>
      cases count with
      | zero => cases hcount
      | succ count =>
          rw [List.forall_mem_cons] at h
          rw [List.foldlM_cons, List.map_cons]
          by_cases hmembers : members = []
          · subst hmembers
            rw [List.map_nil, List.intercalate_singleton,
              toOption_readNamed h.1 count s (delimited_cons (by decide) rest)]
            cases step s m <;> rfl
          · have hmap : members.map Member.bytes ≠ [] := mt List.map_eq_nil_iff.1 hmembers
            rw [List.intercalate_cons_of_ne_nil hmap, List.append_assoc, List.append_assoc, List.singleton_append,
              toOption_readNamed h.1 count s (delimited_cons (by decide) _)]
            cases step s m with
            | none => rfl
            | some s => exact ih h.2 hmembers (Nat.le_of_succ_le_succ hcount) s

theorem exists_intercalate_cons (text : Bytes) (texts : List Bytes) :
    ∃ tail, [0x2c].intercalate (text :: texts) = text ++ tail ∧ texts.length ≤ tail.length := by
  induction texts generalizing text with
  | nil => exact ⟨[], by rw [List.intercalate_singleton, List.append_nil], Nat.le_refl _⟩
  | cons further texts ih =>
      obtain ⟨tail, htail, hlength⟩ := ih further
      refine ⟨0x2c :: (further ++ tail), ?_, ?_⟩
      · rw [List.intercalate_cons_cons, htail, List.append_assoc, List.singleton_append]
      · rw [List.length_cons, List.length_cons, List.length_append]
        omega

theorem readNamed_skipSpace (count : Nat) (s : σ) (bs : Bytes) :
    readNamed member count s (skipSpace bs) = readNamed member count s bs := by
  have hspace : skipSpace (skipSpace bs) = skipSpace bs := List.dropWhile_idempotent _ bs
  cases count with
  | zero => rfl
  | succ count => rw [readNamed, readNamed, hspace]

/-- The members of an object are read one by one. The bytes at hand suffice for all of them. -/
theorem toOption_readObject {members : List (Member Value)} (h : ∀ m ∈ members, ReadsMember member step m) (s : σ)
    (gap : Gap) (rest : Bytes) :
    (readObject member s (gap.bytes ++ ([0x2c].intercalate (members.map Member.bytes) ++ 0x7d :: rest))).toOption =
      (members.foldlM step s).map fun s => (s, rest) := by
  rw [readObject, skipSpace_gap]
  cases members with
  | nil => rfl
  | cons m members =>
      -- The count is taken behind the gap of the first member, so only what follows that gap can vouch for it.
      obtain ⟨tail, htail, hlength⟩ := exists_intercalate_cons m.bytes (members.map Member.bytes)
      rw [List.length_map] at hlength
      have hskip : skipSpace ([0x2c].intercalate ((m :: members).map Member.bytes) ++ 0x7d :: rest) =
          0x22 :: (m.name.content ++ 0x22 :: (m.bytesBehind ++ (tail ++ 0x7d :: rest))) := by
        rw [List.map_cons, htail, List.append_assoc, skipSpace_member]
      have hcount : (m :: members).length ≤
          (0x22 :: (m.name.content ++ 0x22 :: (m.bytesBehind ++ (tail ++ 0x7d :: rest)))).length := by
        simp only [List.length_cons, List.length_append]
        omega
      have hread := toOption_readNamed_members h (List.cons_ne_nil m members) hcount s rest
      rw [← readNamed_skipSpace, hskip] at hread
      rw [hskip]
      exact hread

theorem readRecord_object {α : Type} (fromObject fromArray : Bytes → Reading α) (front gap : Gap)
    (members : List (Member Value)) (rest : Bytes) :
    readRecord fromObject fromArray (front.bytes ++ ((Value.object gap members).bytes ++ rest)) =
      fromObject (gap.bytes ++ ([0x2c].intercalate (members.map Member.bytes) ++ 0x7d :: rest)) := by
  rw [readRecord, skipSpace_bytes, Value.bytes, memberTexts_eq, List.cons_append, List.append_assoc, List.append_assoc,
    List.singleton_append]
  rfl

end Objects

section Fields

variable {α β γ σ : Type}

def fieldStep (name : String) (value? : Value → Option α) (earlier : Option α) (m : Member Value) :
    Option (Option α) :=
  if m.name.string = name then (if earlier.isSome then none else value? m.value).map some else some earlier

theorem fieldStep_of_ne {name : String} {m : Member Value} (h : m.name.string ≠ name) (value? : Value → Option α)
    (earlier : Option α) : fieldStep name value? earlier m = some earlier :=
  if_neg h

theorem toOption_map_readField {name : String} {value? : Value → Option α} {read : Bytes → Reading α}
    {m : Member Value} (hname : m.name.string = name) (h : Reads read m.value (value? m.value)) (set : Option α → σ)
    (earlier : Option α) {rest : Bytes} (hrest : Delimited rest) :
    ((readField earlier read (m.bytesBehind ++ rest)).map fun r => (set (some r.1), r.2)).toOption =
      ((fieldStep name value? earlier m).map set).map fun s => (s, m.after.bytes ++ rest) := by
  rw [toOption_map, toOption_readField h earlier hrest, fieldStep, if_pos hname]
  simp only [Option.map_map]
  rfl

def once (value? : Value → Option α) : List Value → Option (Option α)
  | [] => some none
  | [v] => (value? v).map some
  | _ :: _ :: _ => none

theorem once_cons (value? : Value → Option α) (v : Value) (values : List Value) :
    once value? (v :: values) = (value? v).bind fun a => if values = [] then some (some a) else none := by
  cases values <;> cases h : value? v <;> simp [once, h]

theorem once_eq_some_some_iff {value? : Value → Option α} {values : List Value} {a : α} :
    once value? values = some (some a) ↔ ∃ v, values = [v] ∧ value? v = some a := by
  match values with
  | [] | [v] | v :: w :: values => simp [once]

theorem once_getD_iff {value? : Value → Option α} {values : List Value} {default a : α} :
    (∃ o, once value? values = some o ∧ o.getD default = a) ↔
      values = [] ∧ a = default ∨ ∃ v, values = [v] ∧ value? v = some a := by
  match values with
  | [] => simp [once, eq_comm]
  | [v] => simp [once]
  | v :: w :: values => simp [once]

theorem named_cons (name : String) (m : Member Value) (members : List (Member Value)) :
    named name (m :: members) = if m.name.string = name then m.value :: named name members else named name members := by
  rw [named, List.filter_cons]
  split <;> simp_all [named]

theorem mem_named {name : String} {members : List (Member Value)} {m : Member Value} (hm : m ∈ members)
    (hname : m.name.string = name) : m.value ∈ named name members :=
  List.mem_map_of_mem (List.mem_filter.2 ⟨hm, decide_eq_true hname⟩)

theorem foldlM_fieldStep_some (name : String) (value? : Value → Option α) (a : α) (members : List (Member Value)) :
    members.foldlM (fieldStep name value?) (some a) = if named name members = [] then some (some a) else none := by
  induction members with
  | nil => rfl
  | cons m members ih =>
      rw [List.foldlM_cons, named_cons, fieldStep]
      by_cases hm : m.name.string = name
      · rw [if_pos hm, if_pos hm, if_neg (List.cons_ne_nil _ _)]
        rfl
      · rw [if_neg hm, if_neg hm, ← ih]
        rfl

theorem foldlM_fieldStep (name : String) (value? : Value → Option α) (members : List (Member Value)) :
    members.foldlM (fieldStep name value?) none = once value? (named name members) := by
  induction members with
  | nil => rfl
  | cons m members ih =>
      rw [List.foldlM_cons, named_cons, fieldStep]
      by_cases hm : m.name.string = name
      · rw [if_pos hm, if_pos hm, once_cons]
        cases value? m.value with
        | none => rfl
        | some a => exact foldlM_fieldStep_some name value? a members
      · rw [if_neg hm, if_neg hm, ← ih]
        rfl

theorem foldlM_side_by_side {f : α → γ → Option α} {g : β → γ → Option β} {h : σ → γ → Option σ} {pair : α → β → σ}
    (hstep : ∀ a b c, h (pair a b) c = (f a c).bind fun a => (g b c).map (pair a)) (cs : List γ) (a : α) (b : β) :
    cs.foldlM h (pair a b) = (cs.foldlM f a).bind fun a => (cs.foldlM g b).map (pair a) := by
  induction cs generalizing a b with
  | nil => rfl
  | cons c cs ih =>
      rw [List.foldlM_cons, List.foldlM_cons, List.foldlM_cons, hstep]
      cases f a c with
      | none => rfl
      | some a' =>
          cases g b c with
          | none => simp
          | some b' => exact ih a' b'

end Fields

end FlagSheet.Json.Written
