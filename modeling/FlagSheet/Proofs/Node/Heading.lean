import FlagSheet.Node
import FlagSheet.Proofs.Text.Trim

namespace FlagSheet

open Text

namespace Node

variable {cs title closing trail following : List Char} {marks spaces : Nat}

theorem dropClosing_eq_or (cs : List Char) : dropClosing cs = cs ∨
    ∃ n, cs = dropClosing cs ++ List.replicate (n + 1) '#' ∧ (dropClosing cs = [] ∨ ∃ before, dropClosing cs = before ++ [' ']) := by
  have hmarks : (cs.reverse.takeWhile (· = '#')).reverse = List.replicate (cs.reverse.takeWhile (· = '#')).length '#' := by
    rw [List.eq_replicate_iff, List.length_reverse]
    refine ⟨rfl, fun c hc => ?_⟩
    simpa using List.mem_takeWhile_imp (List.mem_reverse.1 hc)
  have hcs : (cs.reverse.dropWhile (· = '#')).reverse ++ (cs.reverse.takeWhile (· = '#')).reverse = cs := by
    rw [← List.reverse_append, List.takeWhile_append_dropWhile, List.reverse_reverse]
  unfold dropClosing
  dsimp only
  generalize (cs.reverse.dropWhile (· = '#')).reverse = text at hcs ⊢
  split
  · next hclosing =>
      simp only [Bool.and_eq_true, Bool.or_eq_true, decide_eq_true_eq, List.isEmpty_iff] at hclosing
      obtain ⟨hlength, hend⟩ := hclosing
      rw [hmarks] at hcs
      refine .inr ⟨(cs.reverse.takeWhile (· = '#')).length - 1, ?_, hend.imp_right List.getLast?_eq_some_iff.1⟩
      cases hn : (cs.reverse.takeWhile (· = '#')).length with
      | zero =>
          rw [hn, List.replicate_zero, List.append_nil] at hcs
          rw [hcs] at hlength
          exact absurd hlength (Nat.lt_irrefl _)
      | succ n =>
          rw [hn] at hcs
          exact hcs.symm
  · exact .inl rfl

theorem dropClosing_space (before : List Char) (n : Nat) :
    dropClosing (before ++ [' '] ++ List.replicate (n + 1) '#') = before ++ [' '] := by
  have htext : ((before ++ [' '] ++ List.replicate (n + 1) '#').reverse.dropWhile (· = '#')).reverse = before ++ [' '] := by
    rw [List.reverse_append, List.reverse_replicate, List.dropWhile_append_of_pos (by simp)]
    simp
  rw [dropClosing, htext]
  simp

/-- What a heading can say: one line of text, and no marks to close it. -/
structure IsTitle (cs : List Char) : Prop where
  line : '\n' ∉ cs
  tight : Tight cs
  named : ∃ c ∈ cs, c ≠ '#'
  unclosed : ∀ before n, cs ≠ before ++ ' ' :: List.replicate (n + 1) '#'

/-- What may stand behind the text of a heading: nothing, or marks behind some spaces. -/
inductive Closing : List Char → Prop
  | none : Closing []
  | marks (spaces marks : Nat) : Closing (List.replicate (spaces + 1) ' ' ++ List.replicate (marks + 1) '#')

theorem IsTitle.ne_nil (h : IsTitle title) : title ≠ [] := by
  rintro rfl
  obtain ⟨c, hc, -⟩ := h.named
  cases hc

theorem IsTitle.dropClosing_spaces (h : IsTitle title) (spaces : Nat) :
    dropClosing (List.replicate spaces ' ' ++ title) = List.replicate spaces ' ' ++ title := by
  obtain ⟨c, hc, hne⟩ := h.named
  refine (dropClosing_eq_or _).resolve_right ?_
  rintro ⟨n, hcs, hnil | ⟨before, hspace⟩⟩
  · rw [hnil, List.nil_append] at hcs
    have hmem : c ∈ List.replicate (n + 1) '#' := hcs ▸ List.mem_append_right _ hc
    exact hne (List.eq_of_mem_replicate hmem)
  · rw [hspace, List.append_assoc, List.singleton_append, List.append_eq_append_iff] at hcs
    obtain ⟨more, -, htitle⟩ | ⟨more, -, hmarks⟩ := hcs
    · exact h.unclosed more n htitle
    · cases more with
      | nil => exact h.unclosed [] n hmarks.symm
      | cons d more =>
          have hmem : c ∈ List.replicate (n + 1) '#' := by
            rw [(List.cons.inj hmarks).2]
            exact List.mem_append_right _ hc
          exact hne (List.eq_of_mem_replicate hmem)

def headline (marks spaces : Nat) (title closing : List Char) : List Char :=
  List.replicate marks '#' ++ List.replicate spaces ' ' ++ title ++ closing

theorem IsTitle.not_mem_headline (h : IsTitle title) (hclosing : Closing closing) (marks spaces : Nat) :
    '\n' ∉ headline marks spaces title closing := by
  have hclosing' : '\n' ∉ closing := by
    cases hclosing with
    | none => exact List.not_mem_nil
    | marks spaces marks => simp
  simp [headline, h.line, hclosing']

theorem IsTitle.tight_headline (h : IsTitle title) (hclosing : Closing closing) (hmarks : 1 ≤ marks) (spaces : Nat) :
    Tight (headline marks spaces title closing) := by
  obtain ⟨marks, rfl⟩ := Nat.exists_eq_add_of_le' hmarks
  constructor
  · intro c hc
    rw [headline, List.replicate_succ] at hc
    cases hc
    rfl
  · cases hclosing with
    | none =>
        intro c hc
        rw [headline, List.append_nil, List.getLast?_append, Option.or_of_isSome (List.getLast?_isSome.2 h.ne_nil)] at hc
        exact h.tight.2 c hc
    | marks _ more =>
        intro c hc
        have hlast : (List.replicate (more + 1) '#').getLast? = some '#' := by simp [List.getLast?_replicate]
        rw [headline, ← List.append_assoc, List.getLast?_append, hlast] at hc
        cases hc
        rfl

theorem IsTitle.trim_dropClosing (h : IsTitle title) (hclosing : Closing closing) (spaces : Nat) :
    trim (dropClosing (List.replicate spaces ' ' ++ title ++ closing)) = title := by
  have hblank (n : Nat) : (List.replicate n ' ').all isBlank = true := by
    rw [List.all_eq_true]
    intro c hc
    rw [List.eq_of_mem_replicate hc]
    rfl
  cases hclosing with
  | none =>
      rw [List.append_nil, h.dropClosing_spaces, ← List.append_nil (_ ++ title)]
      exact trim_around (hblank spaces) h.tight h.ne_nil rfl
  | marks before marks =>
      have hdrop := dropClosing_space (List.replicate spaces ' ' ++ title ++ List.replicate before ' ') marks
      rw [List.append_assoc _ _ [' '], ← List.replicate_succ'] at hdrop
      rw [← List.append_assoc, hdrop]
      exact trim_around (hblank spaces) h.tight h.ne_nil (hblank (before + 1))

/-- The text of a heading is the title on its first line. -/
theorem headingChars_headline (hmarks : 1 ≤ marks) (hspaces : 1 ≤ spaces) (htitle : IsTitle title) (hclosing : Closing closing)
    (htrail : trail.all isBlank = true ∧ '\n' ∉ trail) (hfollowing : following = [] ∨ ∃ rest, following = '\n' :: rest) :
    headingChars (headline marks spaces title closing ++ trail ++ following) = title := by
  have hline : firstLine (headline marks spaces title closing ++ trail ++ following) = headline marks spaces title closing ++ trail := by
    have hmem : '\n' ∉ headline marks spaces title closing ++ trail := by
      simp [htitle.not_mem_headline hclosing, htrail.2]
    rw [firstLine_append_of_not_mem hmem]
    obtain rfl | ⟨rest, rfl⟩ := hfollowing
    · rw [firstLine, List.takeWhile_nil, List.append_nil]
    · simp [firstLine]
  have hfront : (headline marks spaces title closing).dropWhile (· = '#') = List.replicate spaces ' ' ++ title ++ closing := by
    obtain ⟨spaces, rfl⟩ := Nat.exists_eq_add_of_le' hspaces
    simp [headline, List.dropWhile_append_of_pos, List.replicate_succ]
  rw [headingChars, hline, trim_append_of_blank htrail.1, trim_of_tight (htitle.tight_headline hclosing hmarks spaces), hfront,
    htitle.trim_dropClosing hclosing]

theorem headingText_headline (hmarks : 1 ≤ marks) (hspaces : 1 ≤ spaces) (htitle : IsTitle title) (hclosing : Closing closing)
    (htrail : trail.all isBlank = true ∧ '\n' ∉ trail) (hfollowing : following = [] ∨ ∃ rest, following = '\n' :: rest) :
    (∀ n : Node, n.raw.toList = headline marks spaces title closing ++ trail ++ following → n.headingText = String.ofList title) ∧
      ∀ depth, (heading depth (String.ofList (headline marks spaces title closing ++ trail ++ following))).headingText =
        String.ofList title := by
  have hchars := headingChars_headline hmarks hspaces htitle hclosing htrail hfollowing
  refine ⟨fun n hn => ?_, fun depth => ?_⟩
  · rw [headingText, hn, hchars]
  · obtain ⟨marks, rfl⟩ := Nat.exists_eq_add_of_le' hmarks
    have hstart : trimStart (headline (marks + 1) spaces title closing ++ trail ++ following) =
        headline (marks + 1) spaces title closing ++ trail ++ following := by
      rw [headline, List.replicate_succ]
      rfl
    rw [headingText, heading, leaf, trimmed, String.toList_ofList, String.toList_ofList, trim, hstart, headingChars,
      trim_firstLine_trimEnd]
    exact congrArg String.ofList hchars

theorem headingText_sharp : IsTitle "#1 in C#".toList ∧ Closing " ##".toList ∧
    (heading 2 "##  #1 in C# ##\u00A0\t\nbelow").headingText = "#1 in C#" := by
  have hunclosed : ∀ before n, "#1 in C#".toList ≠ before ++ ' ' :: List.replicate (n + 1) '#' := by
    intro before n heq
    have hreverse := congrArg List.reverse heq
    cases n with
    | zero => simp at hreverse
    | succ n => simp [List.replicate_succ'] at hreverse
  have htitle : IsTitle "#1 in C#".toList := ⟨by decide, by decide +kernel, ⟨'C', by decide, by decide⟩, hunclosed⟩
  refine ⟨htitle, .marks 0 1, ?_⟩
  exact (@headingText_headline _ _ "\u00A0\t".toList "\nbelow".toList 2 2 (by decide) (by decide) htitle (.marks 0 1)
    ⟨rfl, by decide⟩ (.inr ⟨_, rfl⟩)).2 2

end Node

end FlagSheet
