import FlagSheet.Json.Skip
import FlagSheet.Proofs.Json.Reading
import Mathlib.Data.Fintype.Basic
import Mathlib.Tactic.FinCases
import Mathlib.Tactic.Tauto

namespace FlagSheet.Json.Written

variable {stack : List Nest}

def readsByte : SkipMode → Bool
  | .after | .escape _ => false
  | .value | .listStart | .objectStart | .name | .colon | .string _ | .word _ | .number _ => true

theorem skipFrom_cons (m : SkipMode) (h : readsByte m = true) (b : UInt8) (bs : Bytes) :
    skipFrom m stack (b :: bs) = match m.next stack b with
      | .error e => .error e
      | .ok none => .ok (b :: bs)
      | .ok (some (m', stack')) => skipFrom m' stack' bs := by
  cases m with
  | after | escape => cases h
  | value | listStart | objectStart | name | colon | string | word | number => rfl

theorem skipFrom_of_next {m m' : SkipMode} {stack' : List Nest} {b : UInt8}
    (hnext : m.next stack b = .ok (some (m', stack'))) (h : readsByte m = true) (bs : Bytes) :
    skipFrom m stack (b :: bs) = skipFrom m' stack' bs := by
  rw [skipFrom_cons m h, hnext]

def passesBlanks (stack : List Nest) : SkipMode → Bool
  | .value | .listStart | .objectStart | .name | .colon => true
  | .after => !stack.isEmpty
  | .string _ | .escape _ | .word _ | .number _ => false

theorem skipFrom_space {m : SkipMode} (h : passesBlanks stack m = true) (s : Space) (bs : Bytes) :
    skipFrom m stack (s.byte :: bs) = skipFrom m stack bs := by
  cases m with
  | value | listStart | objectStart | name | colon => cases s <;> rfl
  | after =>
      cases stack with
      | nil => cases h
      | cons n stack => cases s <;> rfl
  | string | escape | word | number => cases h

theorem skipFrom_gap {m : SkipMode} (h : passesBlanks stack m = true) (gap : Gap) (bs : Bytes) :
    skipFrom m stack (gap.bytes ++ bs) = skipFrom m stack bs := by
  induction gap with
  | nil => rfl
  | cons s gap ih => exact (skipFrom_space h s _).trans ih

theorem skipFrom_inner {bs : Bytes} (h : ∀ b ∈ bs, 0x20 ≤ b ∧ b ≠ 0x22 ∧ b ≠ 0x5c) (isName : Bool) (rest : Bytes) :
    skipFrom (.string isName) stack (bs ++ rest) = skipFrom (.string isName) stack rest := by
  induction bs with
  | nil => rfl
  | cons b bs ih =>
      rw [List.forall_mem_cons] at h
      obtain ⟨⟨hcontrol, hquote, hbackslash⟩, h⟩ := h
      have hnext : (SkipMode.string isName).next stack b = .ok (some (.string isName, stack)) := by
        rw [SkipMode.next, if_neg hquote, if_neg hbackslash, if_neg (UInt8.not_lt.2 hcontrol)]
      rw [List.cons_append, skipFrom_of_next hnext rfl]
      exact ih h

theorem skipFrom_quad (q : Quad) (isName : Bool) (bs : Bytes) :
    skipFrom (.string isName) stack (q.bytes ++ bs) = skipFrom (.string isName) stack bs := by
  have hescape : skipFrom (.string isName) stack (q.bytes ++ bs) =
      if (unit? q.a.byte q.b.byte q.c.byte q.d.byte).isSome then skipFrom (.string isName) stack bs
      else .error .malformed := rfl
  rw [hescape, unit?_byte]
  rfl

theorem skipFrom_glyph (g : Glyph) (isName : Bool) (bs : Bytes) :
    skipFrom (.string isName) stack (g.bytes ++ bs) = skipFrom (.string isName) stack bs := by
  cases g with
  | plain c h => exact skipFrom_inner (fun _ => inner_of_mem_utf8EncodeChar h) isName bs
  | special s => cases s <;> rfl
  | code q h => exact skipFrom_quad q isName bs
  | pair high low h => rw [Glyph.bytes, List.append_assoc, skipFrom_quad, skipFrom_quad]

theorem skipFrom_text (t : Text) (isName : Bool) (bs : Bytes) :
    skipFrom (.string isName) stack (t.content ++ 0x22 :: bs) =
      skipFrom (if isName then .colon else .after) stack bs := by
  induction t with
  | nil => rfl
  | cons g t ih => rw [Text.content, List.flatMap_cons, List.append_assoc, skipFrom_glyph, ← Text.content, ih]

theorem skipFrom_number {p q : NumberPart} {b : UInt8} (h : p.next? b = some q) (bs : Bytes) :
    skipFrom (.number p) stack (b :: bs) = skipFrom (.number q) stack bs := by
  have hnext : (SkipMode.number p).next stack b = .ok (some (.number q, stack)) := by rw [SkipMode.next, h]
  exact skipFrom_of_next hnext rfl bs

theorem skipFrom_digits {p : NumberPart} (h : ∀ d : Fin 10, p.next? (digitByte d) = some p) (ds : List (Fin 10))
    (bs : Bytes) : skipFrom (.number p) stack (ds.map digitByte ++ bs) = skipFrom (.number p) stack bs := by
  induction ds with
  | nil => rfl
  | cons d ds ih => exact (skipFrom_number (h d) _).trans ih

theorem skipFrom_complete {p : NumberPart} (hp : p.complete = true) {rest : Bytes} (h : Delimited rest) :
    skipFrom (.number p) stack rest = skipFrom .after stack rest := by
  cases rest with
  | nil =>
      cases stack with
      | nil => exact if_neg (by simp [hp])
      | cons n stack => exact if_neg (by simp [hp])
  | cons b rest =>
      obtain ⟨hdigit, hpoint, he, hE⟩ := h b rfl
      have hnext : p.next? b = none := by cases p <;> simp_all [NumberPart.next?, NumberPart.complete]
      have hstop : SkipMode.next (.number p) stack b =
          if stack.isEmpty then .ok none else (SkipMode.continueAfter stack b).map some := by
        simp [SkipMode.next, hnext, hp, hdigit]
      rw [skipFrom_cons (.number p) rfl, hstop]
      cases stack with
      | nil => rfl
      | cons n stack => rfl

theorem startValue_digitByte {d : Fin 10} (hd : d ≠ 0) :
    SkipMode.startValue stack (digitByte d) = .ok (.number .digits, stack) := by
  fin_cases d
  · exact absurd rfl hd
  all_goals rfl

theorem next?_digitByte (d : Fin 10) :
    NumberPart.next? .minus (digitByte d) = some (if d = 0 then .zero else .digits) ∧
      NumberPart.next? .digits (digitByte d) = some .digits ∧ NumberPart.next? .point (digitByte d) = some .fraction ∧
      NumberPart.next? .fraction (digitByte d) = some .fraction ∧
      NumberPart.next? .mark (digitByte d) = some .exponent ∧ NumberPart.next? .sign (digitByte d) = some .exponent ∧
      NumberPart.next? .exponent (digitByte d) = some .exponent := by
  revert d
  decide

theorem skipFrom_whole (stack : List Nest) {ds : Digits} (h : ds.first = 0 → ds.more = []) :
    ∃ p : NumberPart, (p = .zero ∨ p = .digits) ∧ ∀ back : Bytes,
      skipFrom .value stack (ds.bytes ++ back) = skipFrom (.number p) stack back ∧
        skipFrom (.number .minus) stack (ds.bytes ++ back) = skipFrom (.number p) stack back := by
  obtain ⟨first, more⟩ := ds
  by_cases hfirst : first = 0
  · subst hfirst
    cases h rfl
    exact ⟨.zero, .inl rfl, fun back => ⟨rfl, rfl⟩⟩
  · have hmore (back : Bytes) : skipFrom (.number .digits) stack (more.map digitByte ++ back) =
        skipFrom (.number .digits) stack back := skipFrom_digits (fun d => (next?_digitByte d).2.1) more back
    have hspace : isSpaceByte (digitByte first) = false := isSpaceByte_of_isDigitByte (digitByte_spec first).1
    have hnext : SkipMode.next .value stack (digitByte first) = .ok (some (.number .digits, stack)) := by
      rw [SkipMode.next, hspace, startValue_digitByte hfirst]
      rfl
    refine ⟨.digits, .inr rfl, fun back => ⟨?_, ?_⟩⟩
    · rw [← hmore, Digits.bytes, List.cons_append, skipFrom_of_next hnext rfl]
    · rw [← hmore]
      exact skipFrom_number ((next?_digitByte first).1.trans (by rw [if_neg hfirst])) _

theorem skipFrom_fraction (stack : List Nest) {p : NumberPart} (hp : p = .zero ∨ p = .digits)
    (fraction : Option Digits) :
    ∃ q : NumberPart, (q = .zero ∨ q = .digits ∨ q = .fraction) ∧ ∀ back : Bytes,
      skipFrom (.number p) stack (Numeral.fractionBytes fraction ++ back) = skipFrom (.number q) stack back := by
  cases fraction with
  | none => exact ⟨p, by tauto, fun back => rfl⟩
  | some ds =>
      have hpoint : p.next? 0x2e = some .point := by rcases hp with rfl | rfl <;> rfl
      refine ⟨.fraction, .inr (.inr rfl), fun back => ?_⟩
      have hfirst (bs : Bytes) : skipFrom (.number .point) stack (digitByte ds.first :: bs) =
          skipFrom (.number .fraction) stack bs := skipFrom_number (next?_digitByte ds.first).2.2.1 bs
      rw [Numeral.fractionBytes, List.cons_append, skipFrom_number hpoint, Digits.bytes, List.cons_append, hfirst]
      exact skipFrom_digits (fun d => (next?_digitByte d).2.2.2.1) ds.more back

theorem skipFrom_exponent (stack : List Nest) {p : NumberPart} (hp : p = .zero ∨ p = .digits ∨ p = .fraction)
    (exponent : Option Exponent) :
    ∃ q : NumberPart, q.complete = true ∧ ∀ back : Bytes,
      skipFrom (.number p) stack (Numeral.exponentBytes exponent ++ back) = skipFrom (.number q) stack back := by
  cases exponent with
  | none => exact ⟨p, by rcases hp with rfl | rfl | rfl <;> rfl, fun back => rfl⟩
  | some e =>
      obtain ⟨upper, sign, ds⟩ := e
      have hmark : p.next? (Exponent.mark ⟨upper, sign, ds⟩) = some .mark := by
        rcases hp with rfl | rfl | rfl <;> cases upper <;> rfl
      refine ⟨.exponent, rfl, fun back => ?_⟩
      have hdigits (q : NumberPart) (hq : q.next? (digitByte ds.first) = some .exponent) :
          skipFrom (.number q) stack (ds.bytes ++ back) = skipFrom (.number .exponent) stack back := by
        rw [Digits.bytes, List.cons_append, skipFrom_number hq]
        exact skipFrom_digits (fun d => (next?_digitByte d).2.2.2.2.2.2) ds.more back
      rw [Numeral.exponentBytes, Exponent.bytes, List.cons_append, skipFrom_number hmark]
      cases sign with
      | none => exact hdigits .mark (next?_digitByte ds.first).2.2.2.2.1
      | some sign =>
          have hsign : NumberPart.next? .mark sign.byte = some .sign := by cases sign <;> rfl
          exact (skipFrom_number hsign _).trans (hdigits .sign (next?_digitByte ds.first).2.2.2.2.2.1)

theorem skipFrom_numeral (n : Numeral) {rest : Bytes} (h : Delimited rest) :
    skipFrom .value stack (n.bytes ++ rest) = skipFrom .after stack rest := by
  obtain ⟨p, hp, hwhole⟩ := skipFrom_whole stack n.leading
  obtain ⟨q, hq, hfraction⟩ := skipFrom_fraction stack hp n.fraction
  obtain ⟨r, hr, hexponent⟩ := skipFrom_exponent stack hq n.exponent
  have hback : skipFrom (.number p) stack
      (Numeral.fractionBytes n.fraction ++ (Numeral.exponentBytes n.exponent ++ rest)) =
        skipFrom .after stack rest := by
    rw [hfraction, hexponent, skipFrom_complete hr h]
  rw [Numeral.bytes, Numeral.unsignedBytes]
  split
  · have hminus : skipFrom .value stack (0x2d :: (n.whole.bytes ++
        (Numeral.fractionBytes n.fraction ++ Numeral.exponentBytes n.exponent)) ++ rest) =
        skipFrom (.number .minus) stack (n.whole.bytes ++
          (Numeral.fractionBytes n.fraction ++ Numeral.exponentBytes n.exponent) ++ rest) := rfl
    rw [hminus, List.append_assoc, List.append_assoc, (hwhole _).2, hback]
  · rw [List.append_assoc, List.append_assoc, (hwhole _).1, hback]

theorem skipFrom_listStart (v : Value) (bs : Bytes) :
    skipFrom .listStart stack (v.bytes ++ bs) = skipFrom .value stack (v.bytes ++ bs) := by
  obtain ⟨b, more, hv, hb⟩ := exists_bytes v
  obtain ⟨hspace, hclose⟩ := hb.isSpaceByte
  have hnext : SkipMode.next .listStart stack b = SkipMode.next .value stack b := by
    rw [SkipMode.next, SkipMode.next, hspace, if_neg hclose]
    rfl
  rw [hv, List.cons_append, skipFrom_cons .listStart rfl, skipFrom_cons .value rfl, hnext]

/-- The value is skipped in front of whatever ends it, with these arrays and objects open. -/
def Skips (stack : List Nest) (v : Value) : Prop :=
  ∀ rest : Bytes, Delimited rest → skipFrom .value stack (v.bytes ++ rest) = skipFrom .after stack rest

-- A series may be empty, but no comma may end it: what has to begin behind one differs from what may begin it.
def firstMode : Nest → SkipMode
  | .list => .listStart
  | .object => .objectStart

def furtherMode : Nest → SkipMode
  | .list => .value
  | .object => .name

def closing : Nest → UInt8
  | .list => 0x5d
  | .object => 0x7d

def Passes (n : Nest) (stack : List Nest) (text : Bytes) : Prop :=
  ∀ start : SkipMode, start = firstMode n ∨ start = furtherMode n → ∀ rest : Bytes, Delimited rest →
    skipFrom start (n :: stack) (text ++ rest) = skipFrom .after (n :: stack) rest

theorem skipFrom_series {n : Nest} {texts : List Bytes} (h : ∀ text ∈ texts, Passes n stack text) (hne : texts ≠ [])
    {start : SkipMode} (hstart : start = firstMode n ∨ start = furtherMode n) (rest : Bytes) :
    skipFrom start (n :: stack) ([0x2c].intercalate texts ++ closing n :: rest) = skipFrom .after stack rest := by
  induction texts generalizing start with
  | nil => exact absurd rfl hne
  | cons text texts ih =>
      rw [List.forall_mem_cons] at h
      by_cases htexts : texts = []
      · have hclose : Delimited (closing n :: rest) := delimited_cons (by cases n <;> decide) rest
        rw [htexts, List.intercalate_singleton, h.1 start hstart _ hclose]
        cases n <;> rfl
      · have hcomma (bs : Bytes) : skipFrom .after (n :: stack) (0x2c :: bs) =
            skipFrom (furtherMode n) (n :: stack) bs := by cases n <;> rfl
        rw [List.intercalate_cons_of_ne_nil htexts, List.append_assoc, List.append_assoc, List.singleton_append,
          h.1 start hstart _ (delimited_cons (.inl rfl) _), hcomma]
        exact ih h.2 htexts (.inr rfl)

theorem skipFrom_enclosed {n : Nest} {texts : List Bytes} (h : ∀ text ∈ texts, Passes n stack text) (gap : Gap)
    (rest : Bytes) :
    skipFrom (firstMode n) (n :: stack) (gap.bytes ++ [0x2c].intercalate texts ++ [closing n] ++ rest) =
      skipFrom .after stack rest := by
  rw [List.append_assoc, List.append_assoc, List.singleton_append, skipFrom_gap (by cases n <;> rfl)]
  by_cases htexts : texts = []
  · subst htexts
    cases n <;> rfl
  · exact skipFrom_series h htexts (.inl rfl) rest

theorem passes_item {i : Item Value} (hv : Skips (.list :: stack) i.value) : Passes .list stack i.bytes := by
  intro start hstart rest h
  have hgap : passesBlanks (.list :: stack) start = true := by rcases hstart with rfl | rfl <;> rfl
  have hvalue (bs : Bytes) : skipFrom start (.list :: stack) (i.value.bytes ++ bs) =
      skipFrom .value (.list :: stack) (i.value.bytes ++ bs) := by
    rcases hstart with rfl | rfl
    · exact skipFrom_listStart i.value bs
    · rfl
  rw [Item.bytes, List.append_assoc, skipFrom_gap hgap, List.append_assoc, hvalue, hv _ (h.gap i.after),
    skipFrom_gap rfl]

theorem passes_member {m : Member Value} (hv : Skips (.object :: stack) m.value) : Passes .object stack m.bytes := by
  intro start hstart rest h
  have hgap : passesBlanks (.object :: stack) start = true := by rcases hstart with rfl | rfl <;> rfl
  have hquote (bs : Bytes) : skipFrom start (.object :: stack) (0x22 :: bs) =
      skipFrom (.string true) (.object :: stack) bs := by rcases hstart with rfl | rfl <;> rfl
  have hcolon (bs : Bytes) : skipFrom .colon (.object :: stack) (0x3a :: bs) =
      skipFrom .value (.object :: stack) bs := rfl
  rw [Member.bytes, List.append_assoc, skipFrom_gap hgap, Text.bytes, List.cons_append, List.cons_append, hquote,
    List.append_assoc, List.append_assoc, List.singleton_append, skipFrom_text, if_pos rfl]
  rw [Member.bytesBehind, List.append_assoc, skipFrom_gap rfl, List.cons_append, hcolon, List.append_assoc,
    skipFrom_gap rfl, List.append_assoc, hv _ (h.gap m.after), skipFrom_gap rfl]

theorem skips_array {items : List (Item Value)} (h : ∀ i ∈ items, Skips (.list :: stack) i.value) (gap : Gap) :
    Skips stack (.array gap items) := by
  intro rest _
  have hopen (bs : Bytes) : skipFrom .value stack (0x5b :: bs) = skipFrom .listStart (.list :: stack) bs := rfl
  rw [Value.bytes, itemTexts_eq, List.cons_append, hopen]
  exact skipFrom_enclosed (List.forall_mem_map.2 fun i hi => passes_item (h i hi)) gap rest

theorem skips_object {members : List (Member Value)} (h : ∀ m ∈ members, Skips (.object :: stack) m.value)
    (gap : Gap) : Skips stack (.object gap members) := by
  intro rest _
  have hopen (bs : Bytes) : skipFrom .value stack (0x7b :: bs) = skipFrom .objectStart (.object :: stack) bs := rfl
  rw [Value.bytes, memberTexts_eq, List.cons_append, hopen]
  exact skipFrom_enclosed (List.forall_mem_map.2 fun m hm => passes_member (h m hm)) gap rest

-- By recursion on the value. The items and members only hand on what holds of their values, in whatever is open.
mutual

theorem skips (stack : List Nest) : ∀ v : Value, Skips stack v
  | .null, _, _ => by rw [Value.bytes]; rfl
  | .bool true, _, _ => by rw [Value.bytes]; rfl
  | .bool false, _, _ => by rw [Value.bytes]; rfl
  | .number n, _, h => by rw [Value.bytes, skipFrom_numeral n h]
  | .string t, rest, _ => by
      rw [Value.bytes, Text.bytes, List.cons_append, List.append_assoc]
      exact skipFrom_text t false rest
  | .array gap items, rest, h => skips_array (skips_items stack items) gap rest h
  | .object gap members, rest, h => skips_object (skips_members stack members) gap rest h

theorem skips_items (stack : List Nest) : ∀ items : List (Item Value), ∀ i ∈ items, Skips (.list :: stack) i.value
  | ⟨before, v, after⟩ :: items, i, hi => by
      have hv := skips (.list :: stack) v
      have hitems := skips_items stack items
      rcases List.mem_cons.1 hi with rfl | hi
      · exact hv
      · exact hitems i hi

theorem skips_members (stack : List Nest) :
    ∀ members : List (Member Value), ∀ m ∈ members, Skips (.object :: stack) m.value
  | ⟨before, name, beforeColon, afterColon, v, after⟩ :: members, m, hm => by
      have hv := skips (.object :: stack) v
      have hmembers := skips_members stack members
      rcases List.mem_cons.1 hm with rfl | hm
      · exact hv
      · exact hmembers m hm

end

theorem skipValue_bytes (gap : Gap) (v : Value) {rest : Bytes} (h : Delimited rest) :
    skipValue (gap.bytes ++ (v.bytes ++ rest)) = .ok rest := by
  have hend : skipFrom .after [] rest = .ok rest := by cases rest <;> rfl
  rw [skipValue, skipFrom_gap rfl, skips [] v rest h, hend]

end FlagSheet.Json.Written
