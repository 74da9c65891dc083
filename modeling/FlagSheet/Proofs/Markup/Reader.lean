import FlagSheet.Markup.Reader

namespace FlagSheet

theorem Span.between_eq {text : List Char} {start stop : Nat} (h : start ≤ stop) (hstop : stop ≤ text.length) :
    between text start stop = ⟨start, stop, h, hstop⟩ := by
  simp [between, h, hstop, Nat.le_trans h hstop]

theorem Span.chars_between {text before piece behind : List Char} (h : before ++ (piece ++ behind) = text) :
    (between text before.length (before.length + piece.length)).chars = piece := by
  subst h
  have hbounded : before.length + piece.length ≤ (before ++ (piece ++ behind)).length := by
    rw [List.length_append, List.length_append]
    omega
  rw [between_eq (Nat.le_add_right _ _) hbounded]
  simp [chars]

namespace Markdown.Blocks

variable {text : List Char} {b : Blocks text} {start stop : Nat}

theorem Within.le (h : b.Within start stop) : start ≤ stop := by
  induction b generalizing start with
  | none => exact h
  | atom a span rest ih => exact Nat.le_trans h.1 (Nat.le_trans span.ordered (ih h.2))
  | block tag span inside rest _ ih => exact Nat.le_trans h.1 (Nat.le_trans span.ordered (ih h.2.2))

theorem Within.sooner {earlier : Nat} (h : b.Within start stop) (hle : earlier ≤ start) : b.Within earlier stop := by
  cases b with
  | none => exact Nat.le_trans hle h
  | atom a span rest => exact ⟨Nat.le_trans hle h.1, h.2⟩
  | block tag span inside rest => exact ⟨Nat.le_trans hle h.1, h.2⟩

end Markdown.Blocks

namespace Markup

open Markdown (Blocks)

variable {text : List Char} {start next mid : Nat}

theorem length_append (ls ls' : List Line) : length (ls ++ ls') = length ls + length ls' := by
  rw [length, List.flatMap_append, List.length_append]
  rfl

def Layout.lines (l : Layout) : List Line := l.front ++ l.segments.flatMap fun s => s.lines ++ s.behind

theorem Layout.lines_gather {parts : List Part} {ls : List Line} (h : parts.length = ls.length) :
    (gather parts ls).lines = ls := by
  rw [lines, gather]
  dsimp only
  induction parts generalizing ls with
  | nil =>
      rw [List.eq_nil_of_length_eq_zero h.symm]
      rfl
  | cons part parts ih =>
      cases ls with
      | nil => cases h
      | cons l ls =>
          have hrest := ih (Nat.succ.inj h)
          rw [List.zip_cons_cons, List.foldr_cons]
          cases part with
          | outside | inside | underline => exact congrArg (l :: ·) hrest
          | first role =>
              simp only [Tail.add, List.flatMap_cons, List.nil_append, List.cons_append]
              exact congrArg (l :: ·) hrest

theorem Outline.length_parts (o : Outline) (ls : List Line) : (o.parts ls).length = ls.length := by
  induction ls generalizing o with
  | nil => rfl
  | cons l below ih => exact congrArg (· + 1) (ih _)

theorem Layout.lines_ofText (text : List Char) : (ofText text).lines = Markup.lines text :=
  lines_gather (Outline.length_parts _ _)

theorem Layout.length_ofText (text : List Char) :
    length (ofText text).front + length ((ofText text).segments.flatMap fun s => s.lines ++ s.behind) = text.length := by
  rw [← length_append, ← lines, lines_ofText, length, flatMap_source_lines]

theorem within_stop {b : Blocks text} (h : b.Within start mid) : b.Within start (stop start b) ∧ stop start b ≤ mid := by
  induction b generalizing start with
  | none => exact ⟨Nat.le_refl start, h⟩
  | atom a span rest ih =>
      obtain ⟨hrest, hle⟩ := ih h.2
      exact ⟨⟨h.1, hrest⟩, hle⟩
  | block tag span inside rest _ ih =>
      obtain ⟨hrest, hle⟩ := ih h.2.2
      exact ⟨⟨h.1, h.2.1, hrest⟩, hle⟩

def Siblings.Within (start : Nat) (s : Siblings text) : Prop :=
  ∃ mid, s.items.Within start mid ∧ s.blocks.Within mid text.length

theorem Siblings.Within.add {s : Siblings text} {span : Span text} (h : s.Within next) (hnext : span.stop ≤ next)
    (role : Role) : (s.add role span).Within span.start := by
  obtain ⟨mid, hitems, hblocks⟩ := h
  have hitems' : s.items.Within span.stop mid := hitems.sooner hnext
  have hblock (tag : Markdown.Tag) : (Blocks.block tag span .none s.blocks).Within span.start text.length :=
    ⟨Nat.le_refl _, span.ordered, hblocks.sooner hitems'.le⟩
  cases role with
  | heading | paragraph | other => exact ⟨span.start, Nat.le_refl _, hblock _⟩
  | item first =>
      cases first with
      | false => exact ⟨mid, ⟨Nat.le_refl _, span.ordered, hitems'⟩, hblocks⟩
      | true =>
          obtain ⟨hinside, hstop⟩ := within_stop hitems'
          have hlist := Span.between_eq (Nat.le_trans span.ordered hinside.le) (Nat.le_trans hstop hblocks.le)
          refine ⟨span.start, Nat.le_refl _, ?_⟩
          rw [Siblings.add, hlist]
          exact ⟨Nat.le_refl _, ⟨Nat.le_refl _, span.ordered, hinside⟩, hblocks.sooner hstop⟩

theorem within_siblings {segments : List Segment}
    (h : start + length (segments.flatMap fun s => s.lines ++ s.behind) ≤ text.length) :
    (siblings text start segments).Within start := by
  induction segments generalizing start with
  | nil => exact ⟨start, Nat.le_refl _, h⟩
  | cons s segments ih =>
      rw [List.flatMap_cons, length_append, length_append] at h
      have hbehind : start + length s.lines + length s.behind +
          length (segments.flatMap fun s => s.lines ++ s.behind) ≤ text.length := by omega
      have hlines : start + length s.lines ≤ text.length := by omega
      have hle : start ≤ start + length s.lines := Nat.le_add_right _ _
      have hnext : (⟨start, _, hle, hlines⟩ : Span text).stop ≤ start + length s.lines + length s.behind :=
        Nat.le_add_right _ _
      rw [siblings, Span.between_eq hle hlines]
      exact (ih hbehind).add hnext s.role

theorem listed_add {s : Siblings text} (h : s.items.Listed ∧ s.blocks.Listed) (role : Role) (span : Span text) :
    (s.add role span).items.Listed ∧ (s.add role span).blocks.Listed := by
  obtain ⟨hitems, hblocks⟩ := h
  cases role with
  | heading | paragraph | other => exact ⟨trivial, nofun, trivial, hblocks⟩
  | item first =>
      cases first with
      | false => exact ⟨⟨nofun, trivial, hitems⟩, hblocks⟩
      | true => exact ⟨trivial, fun _ => .inl rfl, ⟨nofun, trivial, hitems⟩, hblocks⟩

theorem listed_siblings (start : Nat) (segments : List Segment) :
    (siblings text start segments).items.Listed ∧ (siblings text start segments).blocks.Listed := by
  induction segments generalizing start with
  | nil => exact ⟨trivial, trivial⟩
  | cons s segments ih => exact listed_add (ih _) _ _

theorem wellNested (text : List Char) : Markdown.WellNested text := by
  obtain ⟨mid, hitems, hblocks⟩ := within_siblings (Nat.le_of_eq (Layout.length_ofText text))
  exact ⟨blocks text, rfl, hblocks.sooner (Nat.zero_le mid), (listed_siblings _ _).2⟩

end Markup

end FlagSheet
