import FlagSheet.Markdown.Blocks
import FlagSheet.Proofs.Text.Name

namespace FlagSheet.Markdown

open Text (Name Tight)

structure CheckItem where
  name : Name
  checked : Bool

structure Checklist where
  level : HeadingLevel
  title : Name
  items : List CheckItem

def CheckItem.mark (i : CheckItem) : List Char := ['-', ' ', '[', if i.checked then 'x' else ' ', ']', ' ']

def CheckItem.chars (i : CheckItem) : List Char := i.mark ++ i.name.chars

def HeadingLevel.marks (level : HeadingLevel) : List Char := List.replicate level.depth.toNat '#'

namespace Checklist

def heading (c : Checklist) : List Char := c.level.marks ++ ' ' :: c.title.chars

def lines (c : Checklist) : List (List Char) := c.heading :: c.items.map CheckItem.chars

def text (cs : List Checklist) : List Char := (cs.flatMap lines).flatMap (· ++ ['\n'])

end Checklist

theorem CheckItem.tight_chars (i : CheckItem) : Tight i.chars := i.name.tight_append rfl _

theorem CheckItem.not_mem_chars (i : CheckItem) {c : Char} (hc : c = '\n' ∨ c = '\r') : c ∉ i.chars := by
  have hmark : c ∉ i.mark := by
    rcases hc with rfl | rfl <;> cases hchecked : i.checked <;> simp [mark, hchecked]
  have hname : c ∉ i.name.chars := by
    rcases hc with rfl | rfl <;> exact i.name.not_mem rfl (by decide)
  exact List.not_mem_append hmark hname

theorem HeadingLevel.exists_marks (level : HeadingLevel) : ∃ cs, level.marks = '#' :: cs := by
  cases level <;> exact ⟨_, rfl⟩

theorem Checklist.exists_heading (c : Checklist) : ∃ cs, c.heading = '#' :: cs ++ c.title.chars := by
  obtain ⟨cs, hcs⟩ := c.level.exists_marks
  rw [heading, hcs, List.append_cons]
  exact ⟨_, rfl⟩

theorem Checklist.tight_heading (c : Checklist) : Tight c.heading := by
  obtain ⟨cs, hcs⟩ := c.exists_heading
  rw [hcs]
  exact c.title.tight_append rfl cs

variable {text : List Char}

/-- The range is that of a line, with the end of the line or without. -/
def OfLine (line : List Char) (span : Span text) : Prop := span.chars = line ∨ span.chars = line ++ ['\n']

/-- The blocks are items of these lines. What is inside of them is left open. -/
inductive AreItems : Blocks text → List CheckItem → Prop
  | none : AreItems .none []
  | item {i : CheckItem} {is : List CheckItem} {span : Span text} {inside rest : Blocks text}
      (hline : OfLine i.chars span) (hrest : AreItems rest is) : AreItems (.block .item span inside rest) (i :: is)

inductive AreChecklists : Blocks text → List Checklist → Prop
  | none : AreChecklists .none []
  | bare {c : Checklist} {cs : List Checklist} {span : Span text} {inside rest : Blocks text} (hitems : c.items = [])
      (hline : OfLine c.heading span) (hrest : AreChecklists rest cs) :
      AreChecklists (.block (.heading c.level) span inside rest) (c :: cs)
  | list {c : Checklist} {cs : List Checklist} {span span' : Span text} {inside items rest : Blocks text}
      (hitems : c.items ≠ []) (hline : OfLine c.heading span) (hlist : AreItems items c.items)
      (hrest : AreChecklists rest cs) :
      AreChecklists (.block (.heading c.level) span inside (.block .list span' items rest)) (c :: cs)

/-- The events of the text of some checklists are those of their headings and lists. -/
def ReadsChecklists [Markdown] (cs : List Checklist) : Prop :=
  ∃ b : Blocks (Checklist.text cs), events (Checklist.text cs) = b.events ∧ AreChecklists b cs

end FlagSheet.Markdown
